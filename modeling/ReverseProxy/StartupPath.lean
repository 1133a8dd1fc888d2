import ReverseProxy.BuildAcceptance

/-! cmd/proxy: main parses its config file and builds the first snapshot on new
registries. config.Validate is not called on this path, so a process can be running
on a config that no later apply of the same bytes accepts. -/
namespace ReverseProxy.StartupPath
open GoValues FiniteMap CallScript ConfigData ConfigValidation PolicyBuild SnapshotBuild
open ApplyManager BuildAcceptance
open ApplyAgreement (assembled resolvedInTime targets targetsGrounded)
open PlanHistory (Lived groundedNew)
open RegistryEffect (callFails runFails fullFails)

def start (platform : Platform) (c : Circumstance) (raw : Bytes) : Except Message Compiled × Registries :=
  match platform.parseJSON raw with
  | .error e => (.error e,{})
  | .ok cfg =>
    let script := buildSnapshot platform cfg (c.buildRange cfg.pools)
    match run (perform platform.runes) {} (stamp c.clock script.calls) with
    | (.error e,t) => (.error e,t)
    | (.ok replies,t) => (script.result.map (linkPlans replies),t)

def tokenEnv (m : MetricsConfig) : String :=
  if trimSpace m.tokenEnv = "" then defaultMetricsTokenEnv else trimSpace m.tokenEnv

structure Gapless (platform : Platform) (cfg : Config) : Prop where
  body : cfg.limits.maxBodyBytes ≠ some 0
  header : limitsConfigured cfg.limits = true → cfg.limits.readHeaderTimeoutMS ≠ 0
  token : ∀ m, cfg.metrics = some m → m.requireToken = true → trimSpace (platform.getenv (tokenEnv m)) ≠ ""
  retry : ∀ route ∈ items cfg.routes, route.policy.retry.enabled = true → 0 < route.policy.retry.maxAttempts
  overload : ∀ route ∈ items cfg.routes, route.policy.traffic.enabled = false →
    route.policy.traffic.overload.enabled = true → 0 < route.policy.traffic.overload.maxInflight
  clientCA : ∀ route ∈ items cfg.routes, route.policy.requireMTLS = true → trimSpace cfg.tls.clientCAFile ≠ ""

section
variable {platform : Platform} {c : Circumstance} {raw : Bytes} {cfg : Config}

theorem ranOk {compiled : Compiled} {range : cfg.pools.Range} (builds : Builds platform cfg range.order compiled) :
    (∃ replies, (run (perform platform.runes) {} (stamp c.clock (buildSnapshot platform cfg range).calls)).1 = .ok replies) ↔
      (buildRoutes platform.runes cfg.pools [] [] (items cfg.routes)).calls.any (callFails platform.runes Map.empty) = false := by
  have distinct := (buildTidy platform cfg range).routes
  rw [← stampCalls c.clock (buildSnapshot platform cfg range).calls] at distinct
  have fails := @runFails platform.runes {} _ distinct
  rw [stampCalls,funext (groundedNew platform.runes _).fails,buildSnapshotCalls builds,fullFails,← buildSnapshotCalls builds] at fails
  rw [← fails]
  cases (run (perform platform.runes) {} (stamp c.clock (buildSnapshot platform cfg range).calls)).1 <;>
    simp [Except.toOption]

theorem startedIff (parsed : platform.parseJSON raw = .ok cfg) :
    (∃ compiled, (start platform c raw).1 = .ok compiled) ↔ Bootable platform cfg := by
  unfold start
  rw [parsed]
  dsimp only
  constructor
  · rintro ⟨compiled,ok⟩
    cases ran : run (perform platform.runes) {} (stamp c.clock (buildSnapshot platform cfg (c.buildRange cfg.pools)).calls) with
    | mk answer t =>
      cases answer with
      | error e =>
        rw [ran] at ok
        cases ok
      | ok replies =>
        rw [ran] at ok
        cases built : (buildSnapshot platform cfg (c.buildRange cfg.pools)).result with
        | error e =>
          rw [built] at ok
          cases ok
        | ok made =>
          have builds := buildSnapshotOk.mp built
          have plans := (ranOk builds).mp ⟨replies,by rw [ran]⟩
          exact ⟨⟨_,builds.limits⟩,fun e member => builds.endpoints e ((PoolMap.rangeMember _).mpr member),
            routesPass.mp ⟨⟨_,builds.routed⟩,plans⟩,_,builtMTLS builds.routed ▸ builds.secured⟩
  · intro bootable
    obtain ⟨limits,limited⟩ := bootable.limited
    obtain ⟨⟨routes,routed⟩,plans⟩ := routesPass.mpr bootable.routes
    obtain ⟨tls,secured⟩ := bootable.secured
    rw [← builtMTLS routed] at secured
    have builds : Builds platform cfg (c.buildRange cfg.pools).order
        (assembled routes (c.buildRange cfg.pools).order tls limits cfg.logging) :=
      ⟨limited,fun e member => bootable.endpoints e ((PoolMap.rangeMember _).mp member),routed,secured,rfl,rfl,rfl,rfl⟩
    obtain ⟨replies,ran⟩ := (ranOk builds).mpr plans
    cases whole : run (perform platform.runes) {} (stamp c.clock (buildSnapshot platform cfg (c.buildRange cfg.pools)).calls) with
    | mk answer t =>
      rw [whole] at ran
      cases ran
      exact ⟨_,by rw [buildSnapshotOk.mpr builds]; rfl⟩

theorem validateLimitsIff {limits : LimitsConfig} {l : Limits} (made : limitsFromConfig limits = .ok l) :
    validateLimits limits = .ok () ↔ limits.maxBodyBytes ≠ some 0 ∧
      (limitsConfigured limits = true → limits.readHeaderTimeoutMS ≠ 0) := by
  simp only [limitsFromConfig, guardOk] at made
  obtain ⟨header,-,-,-,body,-⟩ := made
  simp only [validateLimits, guardOk, and_true, Bool.and_eq_true, decide_eq_true_eq, not_and]
  refine and_congr ?_ (imp_congr_right fun _ => by omega)
  cases given : limits.maxBodyBytes with
  | none => simp
  | some b =>
    simp only [limitsOf, given, Option.getD_some] at body
    simp only [Option.any_some, decide_eq_true_eq, ne_eq, Option.some.injEq]
    omega

theorem validateMetricsIff {metrics : Option MetricsConfig} :
    validateMetrics platform metrics = .ok () ↔
      ∀ m, metrics = some m → m.requireToken = true → trimSpace (platform.getenv (tokenEnv m)) ≠ "" := by
  unfold validateMetrics
  cases metrics with
  | none => simp
  | some m =>
    cases required : m.requireToken with
    | false => simp [required]
    | true =>
      simp only [if_true, Option.some.injEq, forall_eq', required, true_imp_iff]
      change (if trimSpace (platform.getenv (tokenEnv m)) = "" then _ else _) = _ ↔ _
      split <;> simp_all

theorem routeChecked {runes : RuneTables} {pools : PoolMap} {seen names : List String} {routes : List Route}
    (passed : RoutesPass runes pools seen names routes) {route : Route} (inside : route ∈ routes) :
    ∃ seen names policy choice later, checkRoute runes pools seen names route = .ok (policy,choice,later) := by
  induction passed with
  | nil => cases inside
  | cons checked _ _ ih =>
    rcases List.mem_cons.mp inside with rfl | deeper
    · exact ⟨_,_,_,_,_,checked⟩
    · exact ih deeper

theorem overloadChecked {routeID : String} {traffic : TrafficConfig} (checked : checkTraffic routeID traffic = .ok ())
    (limited : traffic.overload.enabled = true) : 0 < traffic.overload.maxInflight := by
  simp only [checkTraffic, guardOk] at checked
  have enough := checked.2.1
  simp only [limited, true_and] at enough
  omega

theorem mtlsSecured {tls : TLSConfig} {compiled : CompiledTLS} (ok : compileTLS platform tls true = .ok compiled) :
    tls.enabled = true := by
  cases enabled : tls.enabled with
  | true => rfl
  | false => simp [compileTLS,enabled] at ok

theorem validateRouteIff {tls : TLSConfig} {route : Route} (secured : route.policy.requireMTLS = true → tls.enabled = true)
    (overload : route.policy.traffic.enabled = true → route.policy.traffic.overload.enabled = true →
      0 < route.policy.traffic.overload.maxInflight) :
    validateRoute tls route = .ok () ↔
      (route.policy.retry.enabled = true → 0 < route.policy.retry.maxAttempts) ∧
      (route.policy.traffic.enabled = false → route.policy.traffic.overload.enabled = true →
        0 < route.policy.traffic.overload.maxInflight) ∧
      (route.policy.requireMTLS = true → trimSpace tls.clientCAFile ≠ "") := by
  have whole : (route.policy.traffic.enabled = false → route.policy.traffic.overload.enabled = true →
      0 < route.policy.traffic.overload.maxInflight) ↔
      (route.policy.traffic.overload.enabled = true → 0 < route.policy.traffic.overload.maxInflight) := by
    constructor
    · intro off limited
      cases enabled : route.policy.traffic.enabled with
      | false => exact off enabled limited
      | true => exact overload enabled limited
    · exact fun always _ => always
  rw [whole]
  simp only [validateRoute, guardOk, Bool.and_eq_true, decide_eq_true_eq, not_and, Bool.not_eq_true', and_true]
  constructor
  · rintro ⟨retry,limits,-,file⟩
    exact ⟨fun on => by have := retry on; omega,fun on => by have := limits on; omega,file⟩
  · rintro ⟨retry,limits,file⟩
    exact ⟨fun on => by have := retry on; omega,fun on => by have := limits on; omega,fun on => by simp [secured on],file⟩

theorem validIff (bootable : Bootable platform cfg) : Valid platform cfg ↔ Gapless platform cfg := by
  obtain ⟨limits,limited⟩ := bootable.limited
  have mtls : ∀ route ∈ items cfg.routes, route.policy.requireMTLS = true → cfg.tls.enabled = true := by
    intro route inside required
    obtain ⟨tls,secured⟩ := bootable.secured
    rw [List.any_eq_true.mpr ⟨route,inside,required⟩] at secured
    exact mtlsSecured secured
  have overload : ∀ route ∈ items cfg.routes, route.policy.traffic.enabled = true →
      route.policy.traffic.overload.enabled = true → 0 < route.policy.traffic.overload.maxInflight := by
    intro route inside enabled
    obtain ⟨_,_,_,_,_,checked⟩ := routeChecked bootable.routes inside
    obtain ⟨-,-,-,-,traffic,-⟩ := (trafficConfigIff enabled).mp (checkRouteOk checked).traffic
    exact overloadChecked traffic
  constructor
  · intro valid
    obtain ⟨body,header⟩ := (validateLimitsIff limited).mp valid.limits
    have each := fun r inside => (validateRouteIff (mtls r inside) (overload r inside)).mp (valid.routes r inside)
    exact ⟨body,header,validateMetricsIff.mp valid.metrics,fun r inside => (each r inside).1,
      fun r inside => (each r inside).2.1,fun r inside => (each r inside).2.2⟩
  · intro gapless
    exact ⟨(validateLimitsIff limited).mpr ⟨gapless.body,gapless.header⟩,validateMetricsIff.mpr gapless.token,
      fun r inside => (validateRouteIff (mtls r inside) (overload r inside)).mpr
        ⟨gapless.retry r inside,gapless.overload r inside,gapless.clientCA r inside⟩⟩

end

theorem startAgreesWithApply {platform : Platform} {m : Manager} {c d : Circumstance} {live : Live} {raw : Bytes}
    {source : String} {version : Bytes} {mode : Mode} (lived : Lived platform.runes live.registries.traffic)
    (small : (raw.length : Int) ≤ if m.maxConfigBytes ≤ 0 then defaultMaxConfigBytes else m.maxConfigBytes)
    (relaxed : (m.checksPressure && live.store.underPressure) = false) (timely : d.timing = .inTime) :
    ((∃ compiled, (start platform c raw).1 = .ok compiled) ↔
      ∃ r, (applyResolvedVersion platform m d live raw source version mode).result = .ok r) ↔
    ∀ cfg, platform.parseJSON raw = .ok cfg → Bootable platform cfg → Gapless platform cfg := by
  have checks : checkRequest platform m live raw = platform.parseJSON raw := by
    unfold checkRequest
    dsimp only
    rw [if_neg (by omega),relaxed]
    rfl
  cases parsed : platform.parseJSON raw with
  | error e =>
    have neither : (start platform c raw).1 = .error e := by simp [start,parsed]
    have nor : (applyResolvedVersion platform m d live raw source version mode).result = .error e := by
      simp [applyResolvedVersion,checks,parsed]
    simp [neither,nor]
  | ok cfg =>
    have applied : (∃ r, (applyResolvedVersion platform m d live raw source version mode).result = .ok r) ↔
        Valid platform cfg ∧ Bootable platform cfg := by
      rw [(resolvedInTime (checks.trans parsed) timely).1,← @acceptedIff platform d _ cfg (targetsGrounded lived mode)]
      cases (execute platform d (targets live mode) (compileResolved platform d cfg)).1 <;> simp [Except.map]
    have asked : (∀ x, Except.ok (ε := Message) cfg = .ok x → Bootable platform x → Gapless platform x) ↔
        (Bootable platform cfg → Gapless platform cfg) := by simp
    rw [startedIff parsed,applied,asked]
    constructor
    · intro same bootable
      exact (validIff bootable).mp (same.mp bootable).1
    · intro gap
      exact ⟨fun bootable => ⟨(validIff bootable).mpr (gap bootable),bootable⟩,fun both => both.2⟩

def closedBody : Config := { limits := { maxBodyBytes := some 0, readHeaderTimeoutMS := 2000 } }

theorem zeroBodyStartsOnly :
    (∃ compiled, (start (decoding closedBody) calm document).1 = .ok compiled) ∧
      (applyResolvedVersion (decoding closedBody) {} calm {} document "file" [] .apply).result =
        .error (newError "limits.max_body_bytes must be > 0") := ⟨⟨_,rfl⟩,rfl⟩

/- Limits, a metrics token, retries and an overload limit, each as Validate wants it. -/
def complete : Config :=
  { limits := { maxBodyBytes := some 1048576, readHeaderTimeoutMS := 2000 }
    metrics := some { requireToken := true }
    routes := some [{ id := "r", host := "h", pathPrefix := "/", pool := "p", policy := {
      retry := { enabled := true, maxAttempts := 2 }
      traffic := { overload := ⟨true,8,2,50⟩ } } }]
    pools := (onePool "p").pools }

def tokened : Platform := { decoding complete with getenv := fun _ => "t" }

theorem completeStartReapplies : (∃ compiled, (start tokened calm document).1 = .ok compiled) ∧
    ∃ r, (applyResolvedVersion tokened {} calm {} document "file" [] .apply).result = .ok r := by
  have starts : ∃ compiled, (start tokened calm document).1 = .ok compiled := ⟨_,rfl⟩
  refine ⟨starts,((startAgreesWithApply ⟨5 * minute,[],rfl⟩ (by decide) rfl rfl).mpr ?_).mp starts⟩
  rintro cfg ⟨⟩ -
  exact ⟨by decide,by decide,by simp [complete,tokened]; decide,by simp [complete,items],by simp [complete,items],
    by simp [complete,items]⟩

end ReverseProxy.StartupPath
