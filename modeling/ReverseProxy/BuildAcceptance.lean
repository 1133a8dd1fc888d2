import ReverseProxy.ApplyAgreement
import ReverseProxy.PlanHistory

/-! Which configs BuildSnapshot and Validate accept, as conditions on the config and
the environment alone: route by route, with the ids and filter names seen before. On
registries of any age the answer is the same. -/
namespace ReverseProxy.BuildAcceptance
open GoValues FiniteMap CallScript ConfigData ConfigValidation PolicyBuild SnapshotBuild
open ApplyManager RegistryEffect
open ApplyAgreement (Buildable executedIff)
open PlanHistory (Grounded)
open TrafficRegistry (Holds rejects)

def Plannable (runes : RuneTables) (route : Route) (choice : TrafficChoice) : Prop :=
  choice.config.enabled = true → route.id ≠ "" ∧ rejects runes choice.config = false

inductive RoutesPass (runes : RuneTables) (pools : PoolMap) : List String → List String → List Route → Prop where
  | nil (seen names : List String) : RoutesPass runes pools seen names []
  | cons {seen names later : List String} {route : Route} {routes : List Route} {policy : Policy} {choice : TrafficChoice}
      (checked : checkRoute runes pools seen names route = .ok (policy,choice,later))
      (planned : Plannable runes route choice) (rest : RoutesPass runes pools (route.id :: seen) later routes) :
      RoutesPass runes pools seen names (route :: routes)

structure Bootable (platform : Platform) (cfg : Config) : Prop where
  limited : ∃ limits, limitsFromConfig cfg.limits = .ok limits
  endpoints : ∀ e ∈ cfg.pools.entries, hasEndpoints e = true
  routes : RoutesPass platform.runes cfg.pools [] [] (items cfg.routes)
  secured : ∃ tls, compileTLS platform cfg.tls ((items cfg.routes).any (·.policy.requireMTLS)) = .ok tls

structure Valid (platform : Platform) (cfg : Config) : Prop where
  limits : validateLimits cfg.limits = .ok ()
  metrics : validateMetrics platform cfg.metrics = .ok ()
  routes : ∀ route ∈ items cfg.routes, validateRoute cfg.tls route = .ok ()

section
variable {runes : RuneTables} {pools : PoolMap} {seen names later : List String} {route : Route} {routes : List Route}
  {policy : Policy} {choice : TrafficChoice}

theorem buildRoutesRefused {e : Message} (refused : checkRoute runes pools seen names route = .error e) :
    (buildRoutes runes pools seen names (route :: routes)).result = .error e := by
  rw [buildRoutes,refused,Script.bindError (Script.checkResult _)]

theorem buildRoutesPassed (checked : checkRoute runes pools seen names route = .ok (policy,choice,later)) :
    (buildRoutes runes pools seen names (route :: routes)).calls =
        (reconcileRoute pools route choice).calls ++ (buildRoutes runes pools (route.id :: seen) later routes).calls ∧
      (buildRoutes runes pools seen names (route :: routes)).result =
        (buildRoutes runes pools (route.id :: seen) later routes).result.map (compiledRoute runes route policy choice :: ·) := by
  rw [buildRoutes,checked,Script.bindOk (Script.checkResult _)]
  change ([] ++ (reconcileRoute pools route choice >>= _).calls = _) ∧ (reconcileRoute pools route choice >>= _).result = _
  rw [Script.bindOk (reconcileRouteOk pools route choice)]
  cases others : (buildRoutes runes pools (route.id :: seen) later routes).result with
  | error e =>
    rw [Script.bindError others]
    exact ⟨rfl,rfl⟩
  | ok tail =>
    rw [Script.bindOk others]
    exact ⟨by simp,rfl⟩

theorem buildRoutesOne {compiled : List CompiledRoute}
    (ok : (buildRoutes runes pools seen names (route :: routes)).result = .ok compiled) :
    ∃ policy choice later tail, checkRoute runes pools seen names route = .ok (policy,choice,later) ∧
      (buildRoutes runes pools (route.id :: seen) later routes).result = .ok tail ∧
      compiled = compiledRoute runes route policy choice :: tail := by
  cases checked : checkRoute runes pools seen names route with
  | error e =>
    rw [buildRoutesRefused checked] at ok
    cases ok
  | ok parts =>
    obtain ⟨policy,choice,later⟩ := parts
    rw [(buildRoutesPassed checked).2] at ok
    cases others : (buildRoutes runes pools (route.id :: seen) later routes).result with
    | error e =>
      rw [others] at ok
      cases ok
    | ok tail =>
      rw [others] at ok
      cases ok
      exact ⟨policy,choice,later,tail,rfl,others,rfl⟩

theorem reconcileRouteFails :
    (reconcileRoute pools route choice).calls.any (callFails runes Map.empty) = false ↔ Plannable runes route choice := by
  have empty : ¬Holds Map.empty route.id choice.config := fun holds => nomatch holds.2
  unfold reconcileRoute Plannable
  cases enabled : choice.config.enabled with
  | false => simp [reconcileOutlier,callFails]
  | true =>
    rw [if_pos rfl,Script.bindOk (Script.callResult _)]
    have rest : ∀ build : Build Unit, build.calls.any (callFails runes Map.empty) = false →
        (reconcileOutlier pools route.id choice.stablePool >>= fun _ => build).calls.any (callFails runes Map.empty) = false := by
      intro build quiet
      rw [reconcileOutlier,Script.bindOk (Script.callResult _),Script.callCalls,List.any_append,quiet]
      rfl
    rw [Script.callCalls,List.any_append,rest]
    · simp [callFails,empty]
    · split <;> rfl

theorem routesPass :
    ((∃ compiled, (buildRoutes runes pools seen names routes).result = .ok compiled) ∧
      (buildRoutes runes pools seen names routes).calls.any (callFails runes Map.empty) = false) ↔
      RoutesPass runes pools seen names routes := by
  induction routes generalizing seen names with
  | nil => exact ⟨fun _ => .nil seen names,fun _ => ⟨⟨[],rfl⟩,rfl⟩⟩
  | cons route rest ih =>
    cases checked : checkRoute runes pools seen names route with
    | error e =>
      constructor
      · rintro ⟨⟨compiled,ok⟩,-⟩
        rw [buildRoutesRefused checked] at ok
        cases ok
      · intro passed
        cases passed with
        | cons checks _ _ =>
          rw [checked] at checks
          cases checks
    | ok parts =>
      obtain ⟨policy,choice,later⟩ := parts
      obtain ⟨calls,result⟩ := @buildRoutesPassed runes pools seen names later route rest policy choice checked
      rw [calls,result,List.any_append,Bool.or_eq_false_iff,reconcileRouteFails]
      constructor
      · rintro ⟨⟨compiled,ok⟩,planned,quiet⟩
        refine .cons checked planned (ih.mp ⟨?_,quiet⟩)
        cases others : (buildRoutes runes pools (route.id :: seen) later rest).result with
        | error e =>
          rw [others] at ok
          cases ok
        | ok tail => exact ⟨tail,rfl⟩
      · intro passed
        cases passed with
        | cons checks planned others =>
          rw [checked] at checks
          cases checks
          obtain ⟨⟨tail,ok⟩,quiet⟩ := ih.mpr others
          exact ⟨⟨_,by rw [ok]; rfl⟩,planned,quiet⟩

theorem builtDistinct {compiled : List CompiledRoute} (ok : (buildRoutes runes pools seen names routes).result = .ok compiled) :
    (routes.map Route.id).Nodup ∧ ∀ route ∈ routes, route.id ∉ seen := by
  induction routes generalizing seen names compiled with
  | nil => simp
  | cons route rest ih =>
    obtain ⟨policy,choice,later,tail,checked,others,-⟩ := buildRoutesOne ok
    obtain ⟨apart,fresh⟩ := ih others
    rw [List.map_cons,List.nodup_cons]
    refine ⟨⟨?_,apart⟩,?_⟩
    · intro again
      obtain ⟨other,inside,same⟩ := List.mem_map.mp again
      exact fresh other inside (by rw [same]; exact List.mem_cons_self)
    · intro other inside
      rcases List.mem_cons.mp inside with rfl | later
      · exact (checkRouteOk checked).fresh
      · exact fun old => fresh other later (List.mem_cons_of_mem _ old)

theorem builtMTLS {compiled : List CompiledRoute} (ok : (buildRoutes runes pools seen names routes).result = .ok compiled) :
    compiled.any (·.policy.requireMTLS) = routes.any (·.policy.requireMTLS) := by
  induction routes generalizing seen names compiled with
  | nil =>
    cases ok
    rfl
  | cons route rest ih =>
    obtain ⟨policy,choice,later,tail,checked,others,rfl⟩ := buildRoutesOne ok
    obtain ⟨-,⟨plugins,cache,-,-,rfl⟩,-⟩ := checkRouteIff.mp checked
    rw [List.any_cons,List.any_cons,ih others]
    rfl

end

section
variable {platform : Platform} {c : Circumstance} {s : Registries} {cfg : Config}

theorem validateRoutesOk {tls : TLSConfig} {routes : List Route} :
    (validateRoutes platform tls routes).toOption.isSome = true ↔ ∀ route ∈ routes, validateRoute tls route = .ok () := by
  induction routes with
  | nil => simp [validateRoutes,Except.toOption]
  | cons route rest ih =>
    rw [validateRoutes,List.forall_mem_cons,← ih]
    cases validateRoute tls route with
    | error e => simp [bind,Except.bind,Except.toOption]
    | ok _ => cases validateRoutes platform tls rest <;> simp [bind,Except.bind,Except.toOption]

theorem buildableIff :
    (∃ routes tls, Buildable platform Map.empty cfg routes tls) ↔
      (∀ route ∈ items cfg.routes, validateRoute cfg.tls route = .ok ()) ∧
      (∀ e ∈ cfg.pools.entries, hasEndpoints e = true) ∧ RoutesPass platform.runes cfg.pools [] [] (items cfg.routes) ∧
      ∃ tls, compileTLS platform cfg.tls ((items cfg.routes).any (·.policy.requireMTLS)) = .ok tls := by
  constructor
  · rintro ⟨routes,tls,builds⟩
    exact ⟨validateRoutesOk.mp builds.validated,builds.endpoints,routesPass.mp ⟨⟨routes,builds.routed⟩,builds.plans⟩,
      tls,builtMTLS builds.routed ▸ builds.secured⟩
  · rintro ⟨validated,endpoints,passed,tls,secured⟩
    obtain ⟨⟨routes,routed⟩,plans⟩ := routesPass.mpr passed
    exact ⟨routes,tls,validateRoutesOk.mpr validated,endpoints,routed,by rw [builtMTLS routed]; exact secured,plans⟩

theorem buildableGrounded (grounded : Grounded platform.runes s.traffic) {routes : List CompiledRoute} {tls : CompiledTLS} :
    Buildable platform s.traffic.assigned cfg routes tls ↔ Buildable platform Map.empty cfg routes tls := by
  have fails : callFails platform.runes s.traffic.assigned = callFails platform.runes Map.empty := funext grounded.fails
  constructor
  · rintro ⟨validated,endpoints,routed,secured,plans⟩
    exact ⟨validated,endpoints,routed,secured,fails ▸ plans⟩
  · rintro ⟨validated,endpoints,routed,secured,plans⟩
    exact ⟨validated,endpoints,routed,secured,fails ▸ plans⟩

theorem acceptedIff (grounded : Grounded platform.runes s.traffic) :
    (∃ r, (execute platform c s (compileResolved platform c cfg)).1 = .ok r) ↔ Valid platform cfg ∧ Bootable platform cfg := by
  have bare : (∃ routes tls, Buildable platform s.traffic.assigned cfg routes tls) ↔
      ∃ routes tls, Buildable platform Map.empty cfg routes tls :=
    exists_congr fun _ => exists_congr fun _ => buildableGrounded grounded
  rw [executedIff,bare,buildableIff]
  constructor
  · rintro ⟨limits,metrics,limited,validated,endpoints,passed,secured⟩
    exact ⟨⟨limits,metrics,validated⟩,limited,endpoints,passed,secured⟩
  · rintro ⟨valid,bootable⟩
    exact ⟨valid.limits,valid.metrics,bootable.limited,valid.routes,bootable.endpoints,bootable.routes,bootable.secured⟩

end

end ReverseProxy.BuildAcceptance
