import Mathlib.Data.List.Forall2
import ReverseProxy.ConfigData

/-! Runtime policies and the conversions of BuildSnapshot that compute them from
the configuration: defaults, unit conversion and the rejections on the way.
Every conversion is a function of the configuration and the platform alone. -/
namespace ReverseProxy.PolicyBuild
open GoValues ConfigData

def durationOrDefault (ms : Int) (fallback : Duration) : Duration :=
  if ms ≤ 0 then fallback else milliseconds ms

def durationOrZero (ms : Int) : Duration := if ms ≤ 0 then 0 else milliseconds ms

def intOrDefault (value fallback : Int) : Int := if value ≤ 0 then fallback else value

def nonNegative (value : Int) : Int := if value < 0 then 0 else value

def stringOrDefault (value fallback : String) : String := if value = "" then fallback else value

structure Limits where
  maxHeaderBytes : Int
  maxHeaderCount : Int
  maxURLBytes : Int
  maxBodyBytes : Int
  readHeaderTimeout : Duration
  readTimeout : Duration
  writeTimeout : Duration
  idleTimeout : Duration
  responseStreamTimeout : Duration
  deriving DecidableEq, Repr

def Limits.default : Limits :=
  ⟨64 * 1024,200,8 * 1024,10 * 1024 * 1024,2 * second,0,0,30 * second,0⟩

def limitsOf (cfg : LimitsConfig) : Limits where
  maxHeaderBytes := if cfg.maxHeaderBytes > 0 then cfg.maxHeaderBytes else Limits.default.maxHeaderBytes
  maxHeaderCount := if cfg.maxHeaderCount > 0 then cfg.maxHeaderCount else Limits.default.maxHeaderCount
  maxURLBytes := if cfg.maxURLBytes > 0 then cfg.maxURLBytes else Limits.default.maxURLBytes
  maxBodyBytes := cfg.maxBodyBytes.getD Limits.default.maxBodyBytes
  readHeaderTimeout := if cfg.readHeaderTimeoutMS > 0 then milliseconds cfg.readHeaderTimeoutMS
    else Limits.default.readHeaderTimeout
  readTimeout := durationOrZero cfg.readTimeoutMS
  writeTimeout := durationOrZero cfg.writeTimeoutMS
  idleTimeout := if cfg.idleTimeoutMS > 0 then milliseconds cfg.idleTimeoutMS else Limits.default.idleTimeout
  responseStreamTimeout := durationOrZero cfg.responseStreamTimeoutMS

def limitsFromConfig (cfg : LimitsConfig) : Except Message Limits :=
  if cfg.readHeaderTimeoutMS < 0 then .error (newError "read_header_timeout_ms must be positive")
  else
    let limits := limitsOf cfg
    if limits.maxHeaderBytes ≤ 0 then .error (newError "max_header_bytes must be positive")
    else if limits.maxHeaderCount ≤ 0 then .error (newError "max_header_count must be positive")
    else if limits.maxURLBytes ≤ 0 then .error (newError "max_url_bytes must be positive")
    else if limits.maxBodyBytes < 0 then .error (newError "max_body_bytes must be non-negative")
    else if limits.readHeaderTimeout ≤ 0 then .error (newError "read_header_timeout_ms must be positive")
    else .ok limits

theorem limitsFromConfigOk {cfg : LimitsConfig} {l : Limits} (accepted : limitsFromConfig cfg = .ok l) :
    l = limitsOf cfg ∧ (0 : Int) < l.readHeaderTimeout := by
  unfold limitsFromConfig at accepted
  split at accepted
  · cases accepted
  · simp only [guardOk, Except.ok.injEq] at accepted
    obtain ⟨-,-,-,-,positive,rfl⟩ := accepted
    exact ⟨rfl,Int.not_le.mp positive⟩

theorem limitsFromEmptyConfig : limitsFromConfig {} = .ok Limits.default := rfl

structure Health where
  path : String
  interval : Duration
  timeout : Duration
  unhealthyAfterFailures : Int
  healthyAfterSuccesses : Int
  baseEjectDuration : Duration
  maxEjectDuration : Duration
  deriving DecidableEq, Repr

def healthFromConfig (cfg : HealthConfig) : Health :=
  { path := stringOrDefault cfg.path "/healthz"
    interval := durationOrDefault cfg.intervalMS (5 * second)
    timeout := durationOrDefault cfg.timeoutMS second
    unhealthyAfterFailures := intOrDefault cfg.unhealthyAfterFailures 3
    healthyAfterSuccesses := intOrDefault cfg.healthyAfterSuccesses 2
    baseEjectDuration := durationOrDefault cfg.baseEjectMS (10 * second)
    maxEjectDuration := durationOrDefault cfg.maxEjectMS (5 * minute) }

/- transport.Options, as BuildSnapshot hands them to the registry with the health config. -/
structure TransportOptions where
  maxIdleConnsPerHost : Int
  maxConnsPerHost : Int
  idleConnTimeout : Duration
  deriving DecidableEq, Repr

def transportFromConfig (cfg : PoolTransportConfig) : TransportOptions :=
  { maxIdleConnsPerHost := intOrDefault cfg.maxIdlePerHost 256
    maxConnsPerHost := nonNegative cfg.maxConnsPerHost
    idleConnTimeout := durationOrDefault cfg.idleConnTimeoutMS (90 * second) }

structure Breaker where
  enabled : Bool
  failureRateThresholdPercent : Int
  minimumRequests : Int
  evaluationWindow : Duration
  openDuration : Duration
  halfOpenMaxProbes : Int
  deriving DecidableEq, Repr

def breakerFromConfig (cfg : BreakerConfig) : Breaker :=
  { enabled := cfg.enabled
    failureRateThresholdPercent := intOrDefault cfg.failureRateThresholdPercent 50
    minimumRequests := intOrDefault cfg.minimumRequests 20
    evaluationWindow := durationOrDefault cfg.evaluationWindowMS (10 * second)
    openDuration := durationOrDefault cfg.openMS (2 * second)
    halfOpenMaxProbes := intOrDefault cfg.halfOpenMaxProbes 5 }

structure Outlier where
  enabled : Bool
  consecutiveFailures : Int
  errorRateThresholdPercent : Int
  errorRateWindow : Duration
  minRequests : Int
  baseEjectDuration : Duration
  maxEjectDuration : Duration
  maxEjectPercent : Int
  latencyEnabled : Bool
  latencyWindowSize : Int
  latencyEvalInterval : Duration
  latencyMinSamples : Int
  latencyMultiplier : Int
  latencyConsecutiveIntervals : Int
  deriving DecidableEq, Repr

def outlierFromConfig (cfg : OutlierConfig) : Outlier :=
  { enabled := cfg.enabled
    consecutiveFailures := intOrDefault cfg.consecutiveFailures 5
    errorRateThresholdPercent := intOrDefault cfg.errorRateThreshold 50
    errorRateWindow := durationOrDefault cfg.errorRateWindowMS (30 * second)
    minRequests := intOrDefault cfg.minRequests 20
    baseEjectDuration := durationOrDefault cfg.baseEjectMS (30 * second)
    maxEjectDuration := durationOrDefault cfg.maxEjectMS (10 * minute)
    maxEjectPercent := intOrDefault cfg.maxEjectPercent 50
    latencyEnabled := cfg.latencyEnabled
    latencyWindowSize := intOrDefault cfg.latencyWindowSize 128
    latencyEvalInterval := durationOrDefault cfg.latencyEvalIntervalMS (10 * second)
    latencyMinSamples := intOrDefault cfg.latencyMinSamples 50
    latencyMultiplier := intOrDefault cfg.latencyMultiplier 3
    latencyConsecutiveIntervals := intOrDefault cfg.latencyConsecutiveIntervals 3 }

structure PoolConfig where
  breaker : Breaker
  outlier : Outlier
  deriving DecidableEq, Repr

def poolConfig (cfg : Pool) : PoolConfig := ⟨breakerFromConfig cfg.breaker,outlierFromConfig cfg.outlier⟩

inductive FailureMode where
  | failOpen
  | failClosed
  deriving DecidableEq, Repr

structure PluginBreaker where
  enabled : Bool
  consecutiveFailures : Int
  openDuration : Duration
  halfOpenProbes : Int
  deriving DecidableEq, Repr

structure Filter where
  name : String
  addr : String
  requestTimeout : Duration
  responseTimeout : Duration
  failureMode : FailureMode
  breaker : PluginBreaker
  deriving DecidableEq, Repr

structure PluginPolicy where
  enabled : Bool
  filters : List Filter
  deriving DecidableEq, Repr

structure RetryPolicy where
  enabled : Bool
  maxAttempts : Int
  perTryTimeout : Duration
  totalRetryBudget : Duration
  retryOnStatus : List Int
  retryOnErrors : List String
  backoff : Duration
  backoffJitter : Duration
  deriving DecidableEq, Repr

structure RetryBudgetPolicy where
  enabled : Bool
  percentOfSuccesses : Int
  burst : Int
  deriving DecidableEq, Repr

structure ClientRetryCapPolicy where
  enabled : Bool
  key : String
  percentOfSuccesses : Int
  burst : Int
  lruSize : Int
  deriving DecidableEq, Repr

structure CachePolicy where
  enabled : Bool
  isPublic : Bool
  ttl : Duration
  maxObjectBytes : Int
  varyHeaders : List String
  coalesceEnabled : Bool
  coalesceTimeout : Duration
  onlyIfContentLength : Bool
  deriving DecidableEq, Repr

structure Policy where
  requestTimeout : Duration
  upstreamDialTimeout : Duration
  upstreamResponseHeaderTimeout : Duration
  retry : RetryPolicy
  retryBudget : RetryBudgetPolicy
  clientRetryCap : ClientRetryCapPolicy
  requireMTLS : Bool
  mtlsClientCA : String
  cache : CachePolicy
  plugins : PluginPolicy
  deriving DecidableEq, Repr

def retryStatusMap (values : List Int) : List Int :=
  (if values = [] then [502,503,504] else values).filter (· ≠ 0)

def retryErrorMap (values : List String) : List String :=
  (if values = [] then ["dial","timeout"] else values).filter (· ≠ "")

def retryFromConfig (cfg : RetryConfig) : RetryPolicy :=
  { enabled := cfg.enabled
    maxAttempts := intOrDefault cfg.maxAttempts 1
    perTryTimeout := durationOrZero cfg.perTryTimeoutMS
    totalRetryBudget := durationOrZero cfg.totalRetryBudgetMS
    retryOnStatus := retryStatusMap (items cfg.retryOnStatus)
    retryOnErrors := retryErrorMap (items cfg.retryOnErrors)
    backoff := durationOrZero cfg.backoffMS
    backoffJitter := durationOrZero cfg.backoffJitterMS }

def isASCII (value : String) : Bool := value.toList.all (fun c => decide (c.toNat ≤ 127))

def sanitizeVaryHeaders (routeID : String) : List String → Except Message (List String)
  | [] => .ok []
  | value :: rest =>
    let trimmed := trimSpace value
    if trimmed = "" then sanitizeVaryHeaders routeID rest
    else if 128 < (encodeText trimmed).length then
      .error (errorf "route %q cache vary header too long" [routeID])
    else if !isASCII trimmed then .error (errorf "route %q cache vary header must be ASCII" [routeID])
    else do
      let later ← sanitizeVaryHeaders routeID rest
      .ok (trimmed :: later)

def cachePolicyFromConfig (routeID : String) (cfg : CacheConfig) : Except Message CachePolicy := do
  let maxObjectBytes := if cfg.maxObjectBytes ≤ 0 then 1024 * 1024 else cfg.maxObjectBytes
  if maxObjectBytes < 1024 ∨ maxObjectBytes > 50 * 1024 * 1024 then
    .error (errorf "route %q cache max_object_bytes out of range" [routeID])
  else
    let varyHeaders ← sanitizeVaryHeaders routeID (items cfg.varyHeaders)
    let ttl := durationOrZero cfg.ttlMS
    if cfg.enabled ∧ ttl ≤ 0 then .error (errorf "route %q cache ttl_ms must be > 0" [routeID])
    else .ok {
      enabled := cfg.enabled
      isPublic := cfg.isPublic
      ttl := ttl
      maxObjectBytes := maxObjectBytes
      varyHeaders := varyHeaders
      coalesceEnabled := cfg.coalesceEnabled.getD true
      coalesceTimeout := durationOrDefault cfg.coalesceTimeoutMS (5 * second)
      onlyIfContentLength := cfg.onlyIfContentLength.getD true }

theorem cachePolicyOk {routeID : String} {cfg : CacheConfig} {c : CachePolicy}
    (ok : cachePolicyFromConfig routeID cfg = .ok c) :
    c.ttl = durationOrZero cfg.ttlMS ∧ c.coalesceTimeout = durationOrDefault cfg.coalesceTimeoutMS (5 * second) ∧
      (c.enabled = true → (0 : Int) < c.ttl) := by
  simp only [cachePolicyFromConfig, guardOk, thenOk, Except.ok.injEq] at ok
  obtain ⟨-,vary,-,live,rfl⟩ := ok
  exact ⟨rfl,rfl,fun enabled => Int.not_le.mp fun low => live ⟨enabled,low⟩⟩

def parseFailureMode (runes : RuneTables) (mode : String) : Except Message FailureMode :=
  let trimmed := trimSpace (runes.lower mode)
  if trimmed = "" then .ok .failOpen
  else if trimmed = "fail_open" then .ok .failOpen
  else if trimmed = "fail_closed" then .ok .failClosed
  else .error (newError "failure_mode must be fail_open or fail_closed")

def maxPluginFilters : Nat := 200

/- The names of every filter seen so far are shared by all routes of the build. -/
def addFilterName (names : List String) (name : String) : List String :=
  if name ∈ names then names else names ++ [name]

def filterOf (cfg : PluginFilter) (failureMode : FailureMode) : Filter where
  name := trimSpace cfg.name
  addr := trimSpace cfg.addr
  requestTimeout := durationOrDefault cfg.requestTimeoutMS (50 * millisecond)
  responseTimeout := durationOrDefault cfg.responseTimeoutMS (50 * millisecond)
  failureMode := failureMode
  breaker :=
    { enabled := cfg.breaker.enabled.getD true
      consecutiveFailures := intOrDefault cfg.breaker.consecutiveFailures 5
      openDuration := durationOrDefault cfg.breaker.openMS (2 * second)
      halfOpenProbes := intOrDefault cfg.breaker.halfOpenProbes 3 }

def filterFromConfig (runes : RuneTables) (routeID : String) (names : List String) (cfg : PluginFilter) :
    Except Message (Filter × List String) :=
  let name := trimSpace cfg.name
  let addr := trimSpace cfg.addr
  let names := addFilterName names name
  let requestTimeout := durationOrDefault cfg.requestTimeoutMS (50 * millisecond)
  let responseTimeout := durationOrDefault cfg.responseTimeoutMS (50 * millisecond)
  if name = "" then .error (errorf "route %q plugin filter name required" [routeID])
  else if addr = "" then .error (errorf "route %q plugin filter %q addr required" [routeID,name])
  else if (splitTextHostPort addr).toOption.isNone then
    .error (errorf "route %q plugin filter %q addr must be host:port" [routeID,name])
  else if maxPluginFilters < names.length then .error (errorf "plugin filter count exceeds %d" ["200"])
  else if requestTimeout ≤ 0 then
    .error (errorf "route %q plugin filter %q request_timeout_ms must be > 0" [routeID,name])
  else if responseTimeout ≤ 0 then
    .error (errorf "route %q plugin filter %q response_timeout_ms must be > 0" [routeID,name])
  else match parseFailureMode runes cfg.failureMode with
  | .error e => .error (errorf "route %q plugin filter %q %v" [routeID,name,e.format])
  | .ok failureMode => .ok (filterOf cfg failureMode,names)

def filtersFromConfig (runes : RuneTables) (routeID : String) :
    List String → List PluginFilter → Except Message (List Filter × List String)
  | names,[] => .ok ([],names)
  | names,cfg :: rest => do
    let (filter,names) ← filterFromConfig runes routeID names cfg
    let (later,names) ← filtersFromConfig runes routeID names rest
    .ok (filter :: later,names)

def pluginPolicyFromConfig (runes : RuneTables) (routeID : String) (cfg : PluginConfig)
    (names : List String) : Except Message (PluginPolicy × List String) := do
  if cfg.enabled ∧ items cfg.filters = [] then
    .error (errorf "route %q plugins enabled but no filters" [routeID])
  else
    let (filters,names) ← filtersFromConfig runes routeID names (items cfg.filters)
    .ok (⟨cfg.enabled,filters⟩,names)

section
variable {runes : RuneTables} {routeID : String} {names later : List String}

theorem filterFromConfigOk {f : PluginFilter} {g : Filter} (ok : filterFromConfig runes routeID names f = .ok (g,later)) :
    (∃ mode, parseFailureMode runes f.failureMode = .ok mode ∧ g = filterOf f mode) ∧
      (0 : Int) < g.requestTimeout ∧ (0 : Int) < g.responseTimeout := by
  unfold filterFromConfig at ok
  simp only [guardOk] at ok
  obtain ⟨-,-,-,-,request,response,ok⟩ := ok
  cases parsed : parseFailureMode runes f.failureMode with
  | error e =>
    rw [parsed] at ok
    cases ok
  | ok mode =>
    rw [parsed] at ok
    have made : filterOf f mode = g := congrArg Prod.fst (Except.ok.inj ok)
    subst made
    exact ⟨⟨mode,rfl,rfl⟩,Int.not_le.mp request,Int.not_le.mp response⟩

theorem filtersFromConfigOk {fs : List PluginFilter} {gs : List Filter}
    (ok : filtersFromConfig runes routeID names fs = .ok (gs,later)) :
    List.Forall₂ (fun f g => ∃ names later, filterFromConfig runes routeID names f = .ok (g,later)) fs gs := by
  induction fs generalizing names gs with
  | nil =>
    cases ok
    exact .nil
  | cons first rest ih =>
    simp only [filtersFromConfig, thenOk, Prod.exists, Except.ok.injEq, Prod.mk.injEq] at ok
    obtain ⟨g,next,one,tail,last,others,rfl,rfl⟩ := ok
    exact .cons ⟨names,next,one⟩ (ih others)

theorem pluginPolicyOk {cfg : PluginConfig} {p : PluginPolicy}
    (ok : pluginPolicyFromConfig runes routeID cfg names = .ok (p,later)) :
    p.enabled = cfg.enabled ∧ filtersFromConfig runes routeID names (items cfg.filters) = .ok (p.filters,later) := by
  simp only [pluginPolicyFromConfig, guardOk, thenOk, Prod.exists, Except.ok.injEq, Prod.mk.injEq] at ok
  obtain ⟨-,filters,last,made,rfl,rfl⟩ := ok
  exact ⟨rfl,made⟩

end

structure Cohort where
  enabled : Bool := false
  key : String := ""
  deriving DecidableEq, Repr

structure Overload where
  enabled : Bool := false
  maxInflight : Int := 0
  maxQueue : Int := 0
  queueTimeout : Duration := 0
  deriving DecidableEq, Repr

structure AutoDrain where
  enabled : Bool := false
  window : Duration := 0
  minRequests : Int := 0
  errorRateMultiplier : Rat := 0
  cooloff : Duration := 0
  deriving DecidableEq, Repr

structure Traffic where
  enabled : Bool := false
  stableWeight : Int := 0
  canaryWeight : Int := 0
  cohort : Cohort := {}
  overload : Overload := {}
  autoDrain : AutoDrain := {}
  deriving DecidableEq, Repr

structure TrafficChoice where
  config : Traffic := {}
  stablePool : String := ""
  canaryPool : String := ""
  deriving DecidableEq, Repr

def checkTraffic (routeID : String) (cfg : TrafficConfig) : Except Message Unit :=
  if cfg.cohort.enabled ∧ trimSpace cfg.cohort.key = "" then
    .error (errorf "route %q traffic cohort key missing" [routeID])
  else if cfg.overload.enabled ∧ cfg.overload.maxInflight ≤ 0 then
    .error (errorf "route %q traffic overload max_inflight must be > 0" [routeID])
  else if cfg.overload.enabled ∧ cfg.overload.maxQueue < 0 then
    .error (errorf "route %q traffic overload max_queue must be >= 0" [routeID])
  else if cfg.overload.enabled ∧ cfg.overload.maxQueue > 0 ∧ cfg.overload.queueTimeoutMS ≤ 0 then
    .error (errorf "route %q traffic overload queue_timeout_ms must be > 0" [routeID])
  else if cfg.autoDrain.enabled ∧ cfg.autoDrain.windowMS ≤ 0 then
    .error (errorf "route %q traffic autodrain window_ms must be > 0" [routeID])
  else if cfg.autoDrain.enabled ∧ cfg.autoDrain.minRequests ≤ 0 then
    .error (errorf "route %q traffic autodrain min_requests must be > 0" [routeID])
  else if cfg.autoDrain.enabled ∧ cfg.autoDrain.errorRateMultiplier ≤ 0 then
    .error (errorf "route %q traffic autodrain error_rate_multiplier must be > 0" [routeID])
  else if cfg.autoDrain.enabled ∧ cfg.autoDrain.cooloffMS ≤ 0 then
    .error (errorf "route %q traffic autodrain cooloff_ms must be > 0" [routeID])
  else .ok ()

def trafficChoice (cfg : TrafficConfig) (stableWeight : Int) : TrafficChoice :=
  { config :=
      { enabled := cfg.enabled
        stableWeight := stableWeight
        canaryWeight := cfg.canaryWeight
        cohort := ⟨cfg.cohort.enabled,trimSpace cfg.cohort.key⟩
        overload := ⟨cfg.overload.enabled,cfg.overload.maxInflight,cfg.overload.maxQueue,
          durationOrZero cfg.overload.queueTimeoutMS⟩
        autoDrain := ⟨cfg.autoDrain.enabled,durationOrZero cfg.autoDrain.windowMS,
          cfg.autoDrain.minRequests,cfg.autoDrain.errorRateMultiplier,
          durationOrZero cfg.autoDrain.cooloffMS⟩ }
    stablePool := trimSpace cfg.stablePool
    canaryPool := trimSpace cfg.canaryPool }

def trafficConfigFromRoute (routeID : String) (cfg : TrafficConfig) : Except Message TrafficChoice := do
  if !cfg.enabled then .ok {}
  else
    let stablePool := trimSpace cfg.stablePool
    let canaryPool := trimSpace cfg.canaryPool
    if stablePool = "" then .error (errorf "route %q traffic stable_pool missing" [routeID])
    else if cfg.stableWeight < 0 ∨ cfg.canaryWeight < 0 then
      .error (errorf "route %q traffic weights must be non-negative" [routeID])
    else
      let stableWeight :=
        if canaryPool = "" ∧ cfg.stableWeight = 0 ∧ cfg.canaryWeight = 0 then 100 else cfg.stableWeight
      if canaryPool = "" ∧ cfg.canaryWeight > 0 then
        .error (errorf "route %q traffic canary_pool required when canary_weight > 0" [routeID])
      else if stableWeight = 0 ∧ cfg.canaryWeight = 0 then
        .error (errorf "route %q traffic weights cannot both be zero" [routeID])
      else
        checkTraffic routeID cfg
        .ok (trafficChoice cfg stableWeight)

def stableShare (cfg : TrafficConfig) : Int :=
  if trimSpace cfg.canaryPool = "" ∧ cfg.stableWeight = 0 ∧ cfg.canaryWeight = 0 then 100 else cfg.stableWeight

theorem trafficConfigIff {routeID : String} {cfg : TrafficConfig} {choice : TrafficChoice} (enabled : cfg.enabled = true) :
    trafficConfigFromRoute routeID cfg = .ok choice ↔
      trimSpace cfg.stablePool ≠ "" ∧ ¬(cfg.stableWeight < 0 ∨ cfg.canaryWeight < 0) ∧
      ¬(trimSpace cfg.canaryPool = "" ∧ cfg.canaryWeight > 0) ∧ ¬(stableShare cfg = 0 ∧ cfg.canaryWeight = 0) ∧
      checkTraffic routeID cfg = .ok () ∧ trafficChoice cfg (stableShare cfg) = choice := by
  unfold trafficConfigFromRoute stableShare
  simp only [enabled, Bool.not_true, Bool.false_eq_true, if_false, guardOk, checkOk, Except.ok.injEq, ne_eq]

theorem trafficConfigOk {routeID : String} {cfg : TrafficConfig} {choice : TrafficChoice}
    (ok : trafficConfigFromRoute routeID cfg = .ok choice) :
    choice.config.enabled = cfg.enabled ∧ (cfg.enabled = false → choice = {}) ∧
      (cfg.enabled = true → choice.stablePool = trimSpace cfg.stablePool ∧ choice.canaryPool = trimSpace cfg.canaryPool) := by
  cases enabled : cfg.enabled with
  | false =>
    have blank : choice = {} := by simpa [trafficConfigFromRoute,enabled] using ok.symm
    subst blank
    simp
  | true =>
    obtain ⟨-,-,-,-,-,rfl⟩ := (trafficConfigIff enabled).mp ok
    exact ⟨enabled,by simp,fun _ => ⟨rfl,rfl⟩⟩

structure TLSStore where
  certs : List (String × Bytes)
  defaultCert : Bytes
  clientCA : Option Bytes
  deriving DecidableEq, Repr

def loadCerts (platform : Platform) : List TLSCert → Except Message (List (String × Bytes))
  | [] => .ok []
  | spec :: rest => do
    if spec.serverName = "" then .error (newError "certificate server name is required")
    else if spec.certFile = "" ∨ spec.keyFile = "" then
      .error (errorf "certificate files missing for %s" [spec.serverName])
    else match platform.loadX509KeyPair spec.certFile spec.keyFile with
      | .error e => .error (errorf "load cert for %s: %w" [spec.serverName,e.format])
      | .ok cert =>
        let later ← loadCerts platform rest
        .ok ((platform.runes.lower spec.serverName,cert) :: later)

def loadStore (platform : Platform) (certs : List TLSCert) (clientCAFile : String) :
    Except Message TLSStore := do
  let loaded ← loadCerts platform certs
  match loaded with
  | [] => .error (newError "no certificates configured")
  | (name,cert) :: rest =>
    if clientCAFile = "" then .ok ⟨(name,cert) :: rest,cert,none⟩
    else match platform.readFile clientCAFile with
      | .error e => .error (errorf "read client CA: %w" [e.format])
      | .ok data => match platform.appendCertsFromPEM data with
        | none => .error (newError "parse client CA")
        | some pool => .ok ⟨(name,cert) :: rest,cert,some pool⟩

def parseTLSMinVersion (value : String) : Except Message Nat :=
  let trimmed := trimSpace value
  if trimmed = "" ∨ trimmed = "1.2" then .ok 0x0303
  else if trimmed = "1.3" then .ok 0x0304
  else .error (errorf "unsupported tls min_version %q" [value])

def parseCipherSuites (suites : List (String × Nat)) : List String → Except Message (List Nat)
  | [] => .ok []
  | name :: rest =>
    if name = "" then parseCipherSuites suites rest
    else match suites.reverse.find? (fun s => s.1 = name) with
      | none => .error (errorf "unknown tls cipher suite %q" [name])
      | some suite => do
        let later ← parseCipherSuites suites rest
        .ok (suite.2 :: later)

end ReverseProxy.PolicyBuild
