import ReverseProxy.BuildAcceptance
import ReverseProxy.LockedWindow
import ReverseProxy.RequestIntake

/-! The masked config of a rollout's locked stage. It passes every check its original
passes, keeps all but plugins and weights, and its snapshot sends nobody to a canary
or through a filter, whatever becomes of the plans later. -/
namespace ReverseProxy.LockedMask
open GoValues FiniteMap CallScript ConfigData ConfigValidation PolicyBuild SnapshotBuild Rollout
open ApplyManager BuildAcceptance
open ApplyAgreement (buildRoutesCongr getAlike resolvedInTime targets)
open LockedWindow (Unfiltered maskedUnfiltered)
open PlanHistory (Grounded Lived Settings answersMember live runGrounded)
open RequestIntake (Inbound choose drained pickVariant)
open TrafficRegistry (Plan Registry buildPlan rejects)

section
variable {runes : RuneTables} {pools : PoolMap} {seen names later : List String} {route : Route} {routes : List Route}
  {policy : Policy} {choice : TrafficChoice}

theorem maskedEnabled (route : Route) : (maskRoute route).policy.traffic.enabled = route.policy.traffic.enabled := by
  dsimp only [maskRoute]
  split <;> rfl

theorem maskedOverload (route : Route) : (maskRoute route).policy.traffic.overload = route.policy.traffic.overload := by
  dsimp only [maskRoute]
  split <;> rfl

theorem maskedCanary {route : Route} (enabled : route.policy.traffic.enabled = true) :
    (maskRoute route).policy.traffic.canaryWeight = 0 := by
  dsimp only [maskRoute]
  rw [if_pos enabled]

theorem maskedValidates (tls : TLSConfig) (route : Route) : validateRoute tls (maskRoute route) = validateRoute tls route := by
  unfold validateRoute
  rw [maskedOverload]
  rfl

theorem maskRouteTwice (route : Route) : maskRoute (maskRoute route) = maskRoute route := by
  unfold maskRoute
  cases enabled : route.policy.traffic.enabled with
  | false => simp [enabled]
  | true =>
    simp only [enabled, if_true]
    split <;> simp_all

theorem maskTwice (cfg : Config) : maskLockedConfig (maskLockedConfig cfg) = maskLockedConfig cfg := by
  unfold maskLockedConfig
  cases cfg.routes with
  | none => rfl
  | some list =>
    have twice : maskRoute ∘ maskRoute = maskRoute := funext maskRouteTwice
    simp [twice]

def unmasked (masked original : Route) : Route :=
  { masked with policy := { masked.policy with
      plugins := original.policy.plugins
      traffic := { masked.policy.traffic with
        stableWeight := original.policy.traffic.stableWeight
        canaryWeight := original.policy.traffic.canaryWeight } } }

theorem unmaskedSame (route : Route) : unmasked (maskRoute route) route = route := by
  dsimp only [unmasked, maskRoute]
  split <;> rfl

theorem maskedRoutes (cfg : Config) : items (maskLockedConfig cfg).routes = (items cfg.routes).map maskRoute := by
  unfold maskLockedConfig
  cases cfg.routes <;> rfl

theorem unmaskedAll (cfg : Config) :
    List.Forall₂ (fun masked route => unmasked masked route = route) (items (maskLockedConfig cfg).routes) (items cfg.routes) := by
  rw [maskedRoutes]
  induction items cfg.routes with
  | nil => exact .nil
  | cons route rest ih => exact .cons (unmaskedSame route) ih

def reweighted (choice : TrafficChoice) (stable : Int) : TrafficChoice :=
  { choice with config := { choice.config with stableWeight := stable, canaryWeight := 0 } }

theorem maskedTraffic {routeID : String} {cfg : TrafficConfig} (ok : trafficConfigFromRoute routeID cfg = .ok choice) :
    ∃ stable, trafficConfigFromRoute routeID (if cfg.enabled then
      { cfg with canaryWeight := 0, stableWeight := if cfg.stableWeight = 0 then 100 else cfg.stableWeight } else cfg) =
        .ok (reweighted choice stable) := by
  cases enabled : cfg.enabled with
  | false =>
    have blank := (trafficConfigOk ok).2.1 enabled
    subst blank
    exact ⟨0,ok⟩
  | true =>
    obtain ⟨named,weighed,-,-,checked,rfl⟩ := (trafficConfigIff enabled).mp ok
    -- the masked weights are those the checks ask for: no canary, and a stable share
    have positive : 0 < (if cfg.stableWeight = 0 then 100 else cfg.stableWeight) := by
      split <;> omega
    generalize (if cfg.stableWeight = 0 then 100 else cfg.stableWeight) = stable at positive
    have share : stableShare { cfg with enabled := true, canaryWeight := 0, stableWeight := stable } = stable :=
      if_neg fun zero => Int.ne_of_gt positive zero.2.1
    rw [if_pos rfl]
    refine ⟨stable,(trafficConfigIff rfl).mpr ⟨named,?_,?_,?_,checked,?_⟩⟩
    · rintro (low | low)
      · exact absurd low (Int.not_lt.mpr (Int.le_of_lt positive))
      · exact absurd low (Int.lt_irrefl 0)
    · exact fun none => absurd none.2 (Int.lt_irrefl 0)
    · rw [share]
      exact fun zero => Int.ne_of_gt positive zero.1
    · rw [share]
      simp [trafficChoice,reweighted,enabled]

theorem maskedChecked (checked : checkRoute runes pools seen names route = .ok (policy,choice,later)) (before : List String) :
    ∃ stable, checkRoute runes pools seen before (maskRoute route) =
      .ok ({ policy with plugins := ⟨false,[]⟩ },reweighted choice stable,before) := by
  obtain ⟨named,⟨plugins,cache,-,cached,rfl⟩,traffic,stableKnown,canaryKnown⟩ := checkRouteIff.mp checked
  obtain ⟨stable,masked⟩ := maskedTraffic traffic
  exact ⟨stable,checkRouteIff.mpr ⟨named,⟨⟨false,[]⟩,cache,rfl,cached,rfl⟩,masked,stableKnown,canaryKnown⟩⟩

theorem maskedRejects (cfg : Traffic) (stable canary : Int) :
    rejects runes { cfg with stableWeight := stable, canaryWeight := canary } = rejects runes cfg := by
  unfold rejects buildPlan
  cases cfg.enabled with
  | false => rfl
  | true =>
    cases cfg.cohort.enabled with
    | false => rfl
    | true => cases TrafficRegistry.newCohortExtractor runes cfg.cohort.key <;> rfl

theorem maskedPass (passed : RoutesPass runes pools seen names routes) (before : List String) :
    RoutesPass runes pools seen before (routes.map maskRoute) := by
  induction passed with
  | nil => exact .nil _ _
  | cons checked planned rest ih =>
    obtain ⟨stable,masked⟩ := maskedChecked checked before
    refine .cons masked ?_ ih
    intro enabled
    obtain ⟨named,good⟩ := planned enabled
    exact ⟨named,(maskedRejects _ _ _).trans good⟩

end

section
variable {platform : Platform} {cfg : Config}

theorem maskedValid (valid : Valid platform cfg) : Valid platform (maskLockedConfig cfg) := by
  refine ⟨valid.limits,valid.metrics,?_⟩
  rw [maskedRoutes]
  intro masked inside
  obtain ⟨route,listed,rfl⟩ := List.mem_map.mp inside
  exact (maskedValidates cfg.tls route).trans (valid.routes route listed)

theorem maskedBootable (bootable : Bootable platform cfg) : Bootable platform (maskLockedConfig cfg) := by
  refine ⟨bootable.limited,bootable.endpoints,?_,?_⟩
  · rw [maskedRoutes]
    exact maskedPass bootable.routes []
  · rw [maskedRoutes,List.any_map]
    exact bootable.secured

theorem maskedPlans {pools : PoolMap} {compiled : List CompiledRoute}
    (ok : (buildRoutes platform.runes pools [] [] ((items cfg.routes).map maskRoute)).result = .ok compiled) {id : String}
    {traffic : Traffic}
    (asked : (id,traffic) ∈ planned (buildRoutes platform.runes pools [] [] ((items cfg.routes).map maskRoute)).calls) :
    traffic.canaryWeight = 0 := by
  obtain ⟨turns,routes,-,calls,went⟩ := buildRoutesOk ok
  rw [calls] at asked
  obtain ⟨call,called,is⟩ := List.mem_filterMap.mp asked
  obtain ⟨t,inside,own⟩ := List.mem_flatMap.mp called
  have planned : (id,traffic) ∈ planned (reconcileRoute pools t.route t.choice).calls :=
    List.mem_filterMap.mpr ⟨call,own,is⟩
  rw [reconcileRoutePlanned] at planned
  split at planned
  · rename_i enabled
    cases List.mem_singleton.mp planned
    obtain ⟨seen,names,later,checked⟩ := went t inside
    have listed : t.route ∈ (items cfg.routes).map maskRoute := routes ▸ List.mem_map_of_mem inside
    obtain ⟨route,-,masked⟩ := List.mem_map.mp listed
    have on : t.route.policy.traffic.enabled = true := (trafficConfigOk checked.traffic).1 ▸ enabled
    obtain ⟨-,-,-,-,-,same⟩ := (trafficConfigIff on).mp checked.traffic
    rw [← same,← masked]
    rw [← masked,maskedEnabled] at on
    exact maskedCanary on
  · cases planned

theorem chooseStable {s : TrafficRegistry.Split} (none : s.canaryWeight = 0) (value : Nat) : choose s value = .stable := by
  unfold choose
  exact if_pos (.inr (by omega))

theorem pickStable {p : Plan} (none : p.split.canaryWeight = 0) (r : Inbound) (now : Int) (random : Nat) :
    pickVariant p r now random = .stable := by
  have zero : (if drained p now then { p.split with canaryWeight := 0 } else p.split).canaryWeight = 0 := by
    split
    · rfl
    · exact none
  unfold pickVariant
  cases p.cohort.bind (RequestIntake.extract r) <;> exact chooseStable zero _

def AllStable (runes : RuneTables) (compiled : Compiled) (traffic : Registry) : Prop :=
  ∀ route ∈ compiled.routes, ∀ operations p, route.trafficPlan.bind (live runes traffic operations).plans.get = some p →
    ∀ r now random, pickVariant p r now random = .stable

variable {c : Circumstance} {s : Registries}

theorem maskedStable (grounded : Grounded platform.runes s.traffic) {r : CompileResult} {t : Registries}
    (done : execute platform c s (compileResolved platform c (maskLockedConfig cfg)) = (.ok r,t)) :
    AllStable platform.runes r.compiled t.traffic := by
  have ok : (execute platform c s (compileResolved platform c (maskLockedConfig cfg))).1 = .ok r := by rw [done]
  obtain ⟨made,replies,result,ran,rfl⟩ := executeOk.mp ok
  have state := (executeRun platform c s (compileResolved platform c (maskLockedConfig cfg))).symm.trans (congrArg Prod.snd done)
  obtain ⟨goes,given⟩ := runGrounded grounded (stamp c.clock (compileResolved platform c (maskLockedConfig cfg)).calls)
  rw [state] at goes given
  obtain ⟨-,builds,-⟩ := compileResolvedOk.mp result
  intro linked inside operations p found req now random
  obtain ⟨route,-,rfl⟩ := List.mem_map.mp inside
  obtain ⟨pid,pointer,there⟩ := Option.bind_eq_some_iff.mp found
  obtain ⟨entry,listed,points⟩ := Option.bind_eq_some_iff.mp pointer
  obtain ⟨⟨id,traffic⟩,asked,-,plan,built,stands⟩ := answersMember (given replies ran) (List.mem_of_find?_eq_some listed)
  rw [points] at stands
  have kept := stands.persists (goes.grounded.live operations).persists
  cases plan with
  | none => cases kept
  | some plan =>
    obtain ⟨q,here,same⟩ := kept
    cases there.symm.trans here
    apply pickStable
    rw [show p.split = plan.split from congrArg Settings.split same,(TrafficRegistry.buildPlanOk built).1]
    have routed := builds.routed
    rw [stampCalls,compileResolvedCalls result,fullPlanned] at asked
    rw [maskedRoutes] at routed asked
    exact maskedPlans routed asked

theorem sameDocumentAccepted {a b : Config} (same : SameDocument a b) (valid : Valid platform a) (bootable : Bootable platform a) :
    Valid platform b ∧ Bootable platform b := by
  obtain ⟨limits,metrics,routes,tls⟩ : b.limits = a.limits ∧ b.metrics = a.metrics ∧ b.routes = a.routes ∧ b.tls = a.tls := by
    rw [← same.sections]
    exact ⟨rfl,rfl,rfl,rfl⟩
  refine ⟨⟨limits ▸ valid.limits,metrics ▸ valid.metrics,?_⟩,limits ▸ bootable.limited,?_,?_,?_⟩
  · rw [routes,tls]
    exact valid.routes
  · exact fun e member => bootable.endpoints e (same.pools.mem_iff.mpr member)
  · rw [routes,← routesPass,← buildRoutesCongr (getAlike same.pools),routesPass]
    exact bootable.routes
  · rw [routes,tls]
    exact bootable.secured

theorem maskKeepsAcceptance {r : CompileResult} (lived : Lived platform.runes s.traffic)
    (accepted : (execute platform c s (compileResolved platform c cfg)).1 = .ok r) :
    (∀ d u, Lived platform.runes u.traffic →
      ∃ masked t, execute platform d u (compileResolved platform d (maskLockedConfig cfg)) = (.ok masked,t) ∧
        Unfiltered masked.compiled ∧ AllStable platform.runes masked.compiled t.traffic) ∧
    maskLockedConfig (maskLockedConfig cfg) = maskLockedConfig cfg ∧
    { maskLockedConfig cfg with routes := cfg.routes } = cfg ∧
    List.Forall₂ (fun masked route => unmasked masked route = route) (items (maskLockedConfig cfg).routes) (items cfg.routes) ∧
    (RoundTrips platform → ∀ m w now b sourceOverride t, Lived platform.runes now.registries.traffic →
      Admits platform m w now b sourceOverride t → t.config = cfg → w.locked.timing = .inTime →
      ∀ back, checkRequest platform t.manager now t.lockedBytes = .ok back →
        ∃ locked, (lockedStage platform w now b sourceOverride t).result = .ok locked) := by
  obtain ⟨valid,bootable⟩ := (acceptedIff lived.grounded).mp ⟨r,accepted⟩
  refine ⟨?_,maskTwice cfg,rfl,unmaskedAll cfg,?_⟩
  · intro d u old
    obtain ⟨masked,done⟩ := (@acceptedIff platform d u _ old.grounded).mpr ⟨maskedValid valid,maskedBootable bootable⟩
    refine ⟨masked,_,Prod.ext done rfl,?_,maskedStable old.grounded (Prod.ext done rfl)⟩
    exact maskedUnfiltered ⟨rfl,.refl _⟩ (executedFrom done)
  · rintro codec m w now b sourceOverride t old admits rfl timely back checked
    obtain ⟨read,parsed,same⟩ := codec _ _ admits.masked
    cases Except.ok.inj ((checkedParsed checked).symm.trans parsed)
    obtain ⟨made,done⟩ := (@acceptedIff platform w.locked now.registries _ old.grounded).mpr
      (sameDocumentAccepted same (maskedValid valid) (maskedBootable bootable))
    unfold lockedStage
    rw [(resolvedInTime checked timely).1]
    exact ⟨_,by rw [targets,done]; rfl⟩

end

def canaried : Config :=
  { routes := some [{ id := "r", host := "h", pathPrefix := "/", pool := "p", policy := {
      plugins := ⟨true,some [LockedWindow.authFilter]⟩
      traffic := { enabled := true, stablePool := "p", canaryPool := "q", canaryWeight := 100 } } }]
    pools := ⟨[("p",{ endpoints := some ["10.0.0.1:80"] }),("q",{ endpoints := some ["10.0.0.2:80"] })],by decide⟩ }

theorem canariedMasked : ∃ r masked t, (execute (codec canaried) calm {} (compileResolved (codec canaried) calm canaried)).1 = .ok r ∧
    execute (codec canaried) calm {} (compileResolved (codec canaried) calm (maskLockedConfig canaried)) = (.ok masked,t) ∧
    AllStable RuneTables.ascii masked.compiled t.traffic := by
  obtain ⟨r,accepted⟩ : ∃ r, (execute (codec canaried) calm {} (compileResolved (codec canaried) calm canaried)).1 = .ok r := ⟨_,rfl⟩
  have fresh : Lived (codec canaried).runes ({} : Registries).traffic := ⟨5 * minute,[],rfl⟩
  obtain ⟨masked,t,done,-,stable⟩ := (maskKeepsAcceptance fresh accepted).1 calm {} fresh
  exact ⟨r,masked,t,accepted,done,stable⟩

end ReverseProxy.LockedMask
