import ReverseProxy.ConfigData

/-! config.Validate: the checks that run before a snapshot is built, in source
order, with the warnings they collect. Nothing here reads or writes live state. -/
namespace ReverseProxy.ConfigValidation
open GoValues ConfigData

def defaultMetricsTokenEnv : String := "METRICS_TOKEN"

def limitsConfigured (cfg : LimitsConfig) : Bool :=
  cfg.maxHeaderBytes ≠ 0 || cfg.maxHeaderCount ≠ 0 || cfg.maxURLBytes ≠ 0 ||
  cfg.maxBodyBytes.isSome ||
  cfg.readHeaderTimeoutMS ≠ 0 || cfg.readTimeoutMS ≠ 0 || cfg.writeTimeoutMS ≠ 0 ||
  cfg.idleTimeoutMS ≠ 0 || cfg.responseStreamTimeoutMS ≠ 0

def validateLimits (cfg : LimitsConfig) : Except Message Unit :=
  if cfg.maxBodyBytes.any (· ≤ 0) then .error (newError "limits.max_body_bytes must be > 0")
  else if limitsConfigured cfg && cfg.readHeaderTimeoutMS ≤ 0 then
    .error (newError "limits.read_header_timeout_ms must be > 0")
  else .ok ()

def validateMetrics (platform : Platform) (metrics : Option MetricsConfig) : Except Message Unit :=
  match metrics with
  | none => .ok ()
  | some m =>
    if m.requireToken then
      let trimmed := trimSpace m.tokenEnv
      let env := if trimmed = "" then defaultMetricsTokenEnv else trimmed
      if trimSpace (platform.getenv env) = "" then .error (errorf "metrics token missing in %s" [env])
      else .ok ()
    else .ok ()

def validateRoute (tls : TLSConfig) (route : Route) : Except Message Unit :=
  if route.policy.retry.enabled && route.policy.retry.maxAttempts ≤ 0 then
    .error (errorf "route %q retry max_attempts must be > 0" [route.id])
  else if route.policy.traffic.overload.enabled && route.policy.traffic.overload.maxInflight ≤ 0 then
    .error (errorf "route %q overload max_inflight must be > 0" [route.id])
  else if route.policy.requireMTLS && !tls.enabled then
    .error (errorf "route %q requires mtls but tls disabled" [route.id])
  else if route.policy.requireMTLS && trimSpace tls.clientCAFile = "" then
    .error (errorf "route %q requires mtls but tls client_ca_file missing" [route.id])
  else .ok ()

def routeWarnings (platform : Platform) (route : Route) : List Message :=
  (if route.policy.cache.enabled && milliseconds route.policy.cache.ttlMS > 60 * minute then
    [errorf "route %q cache ttl_ms exceeds 1h" [route.id]] else []) ++
  (if route.policy.plugins.enabled && !route.policy.requireMTLS then
    match (items route.policy.plugins.filters).find?
        (fun f => platform.runes.equalFold (trimSpace f.failureMode) "fail_closed") with
    | some f => [errorf "route %q uses fail_closed plugin %q on public route" [route.id,f.name]]
    | none => []
  else [])

def validateRoutes (platform : Platform) (tls : TLSConfig) : List Route → Except Message (List Message)
  | [] => .ok []
  | route :: rest => do
    validateRoute tls route
    let later ← validateRoutes platform tls rest
    .ok (routeWarnings platform route ++ later)

/- The names are counted as written; only the emptiness test trims them. -/
def referencedPools (route : Route) : List String :=
  if route.policy.traffic.enabled then
    (if trimSpace route.policy.traffic.stablePool ≠ "" then [route.policy.traffic.stablePool] else []) ++
    (if trimSpace route.policy.traffic.canaryPool ≠ "" then [route.policy.traffic.canaryPool] else [])
  else [route.pool]

def validatePools (routes : List Route) (order : List (String × Pool)) : List Message :=
  let used := (routes.flatMap referencedPools).filter (· ≠ "")
  (order.filter (fun e => !e.2.breaker.enabled && decide (1 < used.count e.1))).map
    (fun e => errorf "pool %q breaker disabled on multi-route pool" [e.1])

def validate (platform : Platform) (cfg : Config) (range : cfg.pools.Range) :
    Except Message (List Message) := do
  validateLimits cfg.limits
  validateMetrics platform cfg.metrics
  let warnings ← validateRoutes platform cfg.tls (items cfg.routes)
  .ok (warnings ++ validatePools (items cfg.routes) range.order)

/- Pools contribute warnings only, so their order cannot decide acceptance. -/
theorem validateOk {platform : Platform} {cfg : Config} {range : cfg.pools.Range} :
    (∃ warnings, validate platform cfg range = .ok warnings) ↔
      validateLimits cfg.limits = .ok () ∧ validateMetrics platform cfg.metrics = .ok () ∧
      (validateRoutes platform cfg.tls (items cfg.routes)).toOption.isSome = true := by
  unfold validate
  cases limited : validateLimits cfg.limits with
  | error e => simp [bind,Except.bind]
  | ok _ =>
    cases measured : validateMetrics platform cfg.metrics with
    | error e => simp [bind,Except.bind]
    | ok _ => cases validateRoutes platform cfg.tls (items cfg.routes) <;> simp [bind,Except.bind,Except.toOption]

end ReverseProxy.ConfigValidation
