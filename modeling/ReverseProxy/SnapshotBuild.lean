import Mathlib.Data.List.TakeWhile
import ReverseProxy.CallScript
import ReverseProxy.ConfigValidation
import ReverseProxy.OutlierRegistry
import ReverseProxy.PoolRegistry
import ReverseProxy.TrafficRegistry

/-! runtime.BuildSnapshot. The build interleaves its checks with calls on the live
pool, traffic and outlier registries; it is recorded as a script of those calls,
whose order and error exits are the source's. Only a Plan call can fail, and no
later check reads a reply, so the script is a function of the configuration. -/
namespace ReverseProxy.SnapshotBuild
open GoValues FiniteMap CallScript ConfigData PolicyBuild
open PoolRegistry (PoolKey)

inductive Call where
  | reconcile (key : PoolKey) (endpoints : List String) (health : Health) (transport : TransportOptions)
  | prune (desired : List PoolKey)
  | plan (routeID : String) (cfg : Traffic)
  | outlier (key : String) (endpoints : List String) (cfg : Outlier)
  deriving DecidableEq, Repr

abbrev Build (α : Type) := Script Call Message α

structure Registries where
  registry : PoolRegistry.Registry := {}
  traffic : TrafficRegistry.Registry := {}
  outlier : OutlierRegistry.Registry := {}

abbrev Reply := List (String × Option Nat)

def perform (runes : RuneTables) (s : Registries) (timed : Int × Call) : Except Message Reply × Registries :=
  match timed with
  | (now,.reconcile key endpoints health _) => -- the options are for its transports (TransportRegistry)
    (.ok [],{ s with registry := s.registry.reconcile key endpoints health now })
  | (_,.prune desired) => (.ok [],{ s with registry := s.registry.prunePools desired })
  | (now,.plan routeID cfg) =>
    let answer := s.traffic.plan runes routeID cfg now
    (answer.1.map (fun id => [(routeID,id)]),{ s with traffic := answer.2 })
  | (now,.outlier key endpoints cfg) =>
    (.ok [],{ s with outlier := s.outlier.reconcile key endpoints cfg now })

/- policy.Route; `methods` is the set of upper-cased methods, none for nil. -/
structure CompiledRoute where
  id : String
  host : String
  pathPrefix : String
  methods : Option (List String)
  poolName : String
  canaryPoolName : String
  stablePoolKey : String
  canaryPoolKey : String
  trafficPlan : Option Nat
  policy : Policy
  deriving DecidableEq, Repr

structure TLSSettings where
  minVersion : Nat
  cipherSuites : List Nat
  deriving DecidableEq, Repr

structure CompiledTLS where
  enabled : Bool
  store : Option TLSStore
  config : Option TLSSettings
  addr : String
  deriving DecidableEq, Repr

/- The parts of a Snapshot the configuration decides. Version, source and ID are
set by the caller; the time stamps are left out. -/
structure Compiled where
  routes : List CompiledRoute
  pools : Map String PoolKey
  poolConfigs : Map String PoolConfig
  tls : CompiledTLS
  routeCount : Nat
  limits : Limits
  logging : LoggingConfig

def reconcilePools : List (String × Pool) → Build Unit
  | [] => pure ()
  | (name,pool) :: rest =>
    if items pool.endpoints = [] then Script.fail (errorf "pool %q has no endpoints" [name])
    else do
      Script.call (.reconcile name (items pool.endpoints) (healthFromConfig pool.health) (transportFromConfig pool.transport))
      reconcilePools rest

def methodSet (runes : RuneTables) (methods : List String) : Option (List String) :=
  let named := (methods.filter (· ≠ "")).map runes.upper
  if named = [] then none else some named

def policyFromConfig (cfg : RoutePolicy) (cache : CachePolicy) (plugins : PluginPolicy) : Policy :=
  { requestTimeout := durationOrDefault cfg.requestTimeoutMS (30 * second)
    upstreamDialTimeout := durationOrDefault cfg.upstreamDialTimeoutMS second
    upstreamResponseHeaderTimeout := durationOrDefault cfg.upstreamResponseHeaderTimeoutMS (5 * second)
    retry := retryFromConfig cfg.retry
    retryBudget := ⟨cfg.retryBudget.enabled,nonNegative cfg.retryBudget.percentOfSuccesses,
      nonNegative cfg.retryBudget.burst⟩
    clientRetryCap := ⟨cfg.clientRetryCap.enabled,cfg.clientRetryCap.key,
      nonNegative cfg.clientRetryCap.percentOfSuccesses,nonNegative cfg.clientRetryCap.burst,
      intOrDefault cfg.clientRetryCap.lruSize 10000⟩
    requireMTLS := cfg.requireMTLS
    mtlsClientCA := cfg.mtlsClientCA
    cache := cache
    plugins := plugins }

def checkRoute (runes : RuneTables) (pools : PoolMap) (seen names : List String) (route : Route) :
    Except Message (Policy × TrafficChoice × List String) := do
  if route.host = "" then .error (errorf "route %q host is empty" [route.id])
  else if !hasPrefix route.pathPrefix "/" then
    .error (errorf "route %q path prefix must start with /" [route.id])
  else if route.id ∈ seen then .error (errorf "route id %q is not unique" [route.id])
  else if (pools.get route.pool).isNone then
    .error (errorf "route %q references missing pool %q" [route.id,route.pool])
  else if route.policy.requireMTLS ∧ route.policy.mtlsClientCA ≠ "" ∧ route.policy.mtlsClientCA ≠ "default" then
    .error (errorf "route %q mtls_client_ca must be default" [route.id])
  else
    let (plugins,names) ← pluginPolicyFromConfig runes route.id route.policy.plugins names
    let cache ← cachePolicyFromConfig route.id route.policy.cache
    let choice ← trafficConfigFromRoute route.id route.policy.traffic
    if choice.config.enabled ∧ (pools.get choice.stablePool).isNone then
      .error (errorf "route %q traffic stable_pool missing pool %q" [route.id,choice.stablePool])
    else if choice.config.enabled ∧ choice.canaryPool ≠ "" ∧ (pools.get choice.canaryPool).isNone then
      .error (errorf "route %q traffic canary_pool missing pool %q" [route.id,choice.canaryPool])
    else .ok (policyFromConfig route.policy cache plugins,choice,names)

def routePoolKey (routeID pool : String) : String := routeID ++ "::" ++ pool

def reconcileOutlier (pools : PoolMap) (routeID pool : String) : Build Unit :=
  Script.call (.outlier (routePoolKey routeID pool) (items (pools.getD pool).endpoints)
    (outlierFromConfig (pools.getD pool).outlier))

def reconcileRoute (pools : PoolMap) (route : Route) (choice : TrafficChoice) : Build Unit :=
  if choice.config.enabled then do
    Script.call (.plan route.id choice.config)
    reconcileOutlier pools route.id choice.stablePool
    if choice.canaryPool ≠ "" then reconcileOutlier pools route.id choice.canaryPool else pure ()
  else reconcileOutlier pools route.id route.pool

def compiledRoute (runes : RuneTables) (route : Route) (policy : Policy) (choice : TrafficChoice) :
    CompiledRoute :=
  let stable := if choice.config.enabled then choice.stablePool else route.pool
  { id := route.id
    host := route.host
    pathPrefix := route.pathPrefix
    methods := methodSet runes (items route.methods)
    poolName := stable
    canaryPoolName := choice.canaryPool
    stablePoolKey := routePoolKey route.id stable
    canaryPoolKey := if choice.config.enabled ∧ choice.canaryPool ≠ "" then
      routePoolKey route.id choice.canaryPool else ""
    trafficPlan := none
    policy := policy }

def buildRoutes (runes : RuneTables) (pools : PoolMap) :
    List String → List String → List Route → Build (List CompiledRoute)
  | _,_,[] => pure []
  | seen,names,route :: rest => do
    let (policy,choice,names) ← Script.check (checkRoute runes pools seen names route)
    reconcileRoute pools route choice
    let later ← buildRoutes runes pools (route.id :: seen) names rest
    pure (compiledRoute runes route policy choice :: later)

def compileTLS (platform : Platform) (cfg : TLSConfig) (requiresMTLS : Bool) : Except Message CompiledTLS := do
  if cfg.enabled then
    if items cfg.certs = [] then .error (newError "tls enabled but no certs configured")
    else if requiresMTLS ∧ cfg.clientCAFile = "" then
      .error (newError "mtls required but client_ca_file missing")
    else
      let store ← loadStore platform (items cfg.certs) cfg.clientCAFile
      let minVersion ← parseTLSMinVersion cfg.minVersion
      let suites ← parseCipherSuites platform.cipherSuites (items cfg.cipherSuites)
      .ok ⟨true,some store,some ⟨minVersion,suites⟩,stringOrDefault cfg.addr "127.0.0.1:8443"⟩
  else if requiresMTLS then .error (newError "mtls required but tls disabled")
  else .ok ⟨false,none,none,""⟩

def buildSnapshot (platform : Platform) (cfg : Config) (range : cfg.pools.Range) : Build Compiled := do
  let limits ← Script.check (limitsFromConfig cfg.limits)
  reconcilePools range.order
  Script.call (.prune (range.order.map (·.1)))
  let routes ← buildRoutes platform.runes cfg.pools [] [] (items cfg.routes)
  let tls ← Script.check (compileTLS platform cfg.tls (routes.any (·.policy.requireMTLS)))
  pure {
    routes := routes
    pools := Map.keyed (range.order.map (fun e => (e.1,e.1)))
    poolConfigs := Map.keyed (range.order.map (fun e => (e.1,poolConfig e.2)))
    tls := tls
    routeCount := routes.length
    limits := limits
    logging := cfg.logging }

def linkPlans (plans : List Reply) (c : Compiled) : Compiled :=
  { c with routes := c.routes.map (fun r =>
      { r with trafficPlan := (plans.flatten.find? (fun p => p.1 = r.id)).bind (·.2) }) }

namespace Call

def pool? : Call → Option (PoolKey × List String)
  | .reconcile key endpoints _ _ => some (key,endpoints)
  | _ => none

def route? : Call → Option (String × Traffic)
  | .plan routeID cfg => some (routeID,cfg)
  | _ => none

theorem routeShape {c : Call} {p : String × Traffic} (found : c.route? = some p) : c = .plan p.1 p.2 := by
  cases c <;> cases found
  rfl

def watch? : Call → Option (String × (Outlier × (String → Bool)))
  | .outlier key endpoints cfg => some (key,cfg,fun addr => decide (addr ∈ endpoints))
  | _ => none

end Call

def reconciled (calls : List Call) : List (PoolKey × List String) := calls.filterMap Call.pool?

def planned (calls : List Call) : List (String × Traffic) := calls.filterMap Call.route?

structure Tidy (calls : List Call) : Prop where
  pools : ((reconciled calls).map (·.1)).Nodup
  kept : ∀ desired, .prune desired ∈ calls → ∀ p ∈ reconciled calls, p.1 ∈ desired
  routes : ((planned calls).map (·.1)).Nodup
  named : ∀ key endpoints cfg, .outlier key endpoints cfg ∈ calls → key ≠ ""

theorem Tidy.sublist {a b : List Call} (sub : a.Sublist b) (tidy : Tidy b) : Tidy a where
  pools := ((sub.filterMap _).map _).nodup tidy.pools
  kept desired member p inside := tidy.kept desired (sub.subset member) p ((sub.filterMap _).subset inside)
  routes := ((sub.filterMap _).map _).nodup tidy.routes
  named key endpoints cfg member := tidy.named key endpoints cfg (sub.subset member)

def poolCall (e : String × Pool) : Call :=
  .reconcile e.1 (items e.2.endpoints) (healthFromConfig e.2.health) (transportFromConfig e.2.transport)

def hasEndpoints (e : String × Pool) : Bool := items e.2.endpoints ≠ []

theorem reconcilePoolsCalls (order : List (String × Pool)) :
    (reconcilePools order).calls = (order.takeWhile hasEndpoints).map poolCall := by
  induction order with
  | nil => rfl
  | cons e rest ih =>
    rw [reconcilePools, List.takeWhile_cons]
    by_cases empty : items e.2.endpoints = []
    · simp [empty,hasEndpoints]
    · rw [if_neg empty, Script.bindOk (Script.callResult _), ih]
      simp [hasEndpoints,empty,poolCall]

theorem reconcilePoolsOk {order : List (String × Pool)} (ok : (reconcilePools order).result = .ok ()) :
    ∀ e ∈ order, hasEndpoints e = true := by
  induction order with
  | nil => simp
  | cons e rest ih =>
    rw [reconcilePools] at ok
    by_cases empty : items e.2.endpoints = []
    · rw [if_pos empty] at ok
      cases ok
    · rw [if_neg empty, Script.bindOk (Script.callResult _)] at ok
      intro x member
      rcases List.mem_cons.mp member with rfl | later
      · simpa [hasEndpoints] using empty
      · exact ih ok x later

theorem reconcilePoolsAll {order : List (String × Pool)} (full : ∀ e ∈ order, hasEndpoints e = true) :
    (reconcilePools order).result = .ok () := by
  induction order with
  | nil => rfl
  | cons e rest ih =>
    have some : items e.2.endpoints ≠ [] := by simpa [hasEndpoints] using full e List.mem_cons_self
    rw [reconcilePools,if_neg some,Script.bindOk (Script.callResult _)]
    exact ih (fun x member => full x (List.mem_cons_of_mem _ member))

def OfRoute (routeID : String) (c : Call) : Prop :=
  c.pool? = none ∧ (∀ desired, c ≠ .prune desired) ∧
  (∀ p, c.route? = some p → p.1 = routeID) ∧ ∀ key endpoints cfg, c = .outlier key endpoints cfg → key ≠ ""

theorem routePoolKeyNamed (routeID pool : String) : routePoolKey routeID pool ≠ "" := by
  intro empty
  have length := congrArg String.length empty
  simp [routePoolKey,String.length_append] at length

theorem reconcileOutlierCalls (pools : PoolMap) (routeID pool : String) :
    ∀ c ∈ (reconcileOutlier pools routeID pool).calls, OfRoute routeID c ∧ c.route? = none := by
  intro c member
  cases List.mem_singleton.mp member
  refine ⟨⟨rfl,?_,?_,?_⟩,rfl⟩
  · intro desired same
    cases same
  · intro p found
    cases found
  · intro key endpoints cfg same
    cases same
    exact routePoolKeyNamed routeID pool

def outlierCall (pools : PoolMap) (routeID pool : String) : Call :=
  .outlier (routePoolKey routeID pool) (items (pools.getD pool).endpoints) (outlierFromConfig (pools.getD pool).outlier)

theorem reconcileRouteList (pools : PoolMap) (route : Route) (choice : TrafficChoice) :
    (reconcileRoute pools route choice).calls =
      if choice.config.enabled then
        .plan route.id choice.config :: outlierCall pools route.id choice.stablePool ::
          (if choice.canaryPool ≠ "" then [outlierCall pools route.id choice.canaryPool] else [])
      else [outlierCall pools route.id route.pool] := by
  unfold reconcileRoute
  split
  · split <;> rfl
  · rfl

theorem reconcileRouteOk (pools : PoolMap) (route : Route) (choice : TrafficChoice) :
    (reconcileRoute pools route choice).result = .ok () := by
  unfold reconcileRoute
  split
  · split <;> rfl
  · rfl

theorem reconcileRouteCalls (pools : PoolMap) (route : Route) (choice : TrafficChoice) :
    ∀ c ∈ (reconcileRoute pools route choice).calls, OfRoute route.id c := by
  have outlier : ∀ pool, ∀ c ∈ (reconcileOutlier pools route.id pool).calls, OfRoute route.id c :=
    fun pool c member => (reconcileOutlierCalls pools route.id pool c member).1
  unfold reconcileRoute
  split
  · apply Script.bindCalls
    · intro c member
      cases List.mem_singleton.mp member
      refine ⟨rfl,?_,?_,?_⟩
      · intro desired same
        cases same
      · intro p found
        cases found
        rfl
      · intro key endpoints cfg same
        cases same
    · intro _ _
      apply Script.bindCalls (outlier _)
      intro _ _
      split
      · exact outlier _
      · simp
  · exact outlier _

theorem reconcileRoutePlanned (pools : PoolMap) (route : Route) (choice : TrafficChoice) :
    planned (reconcileRoute pools route choice).calls =
      if choice.config.enabled then [(route.id,choice.config)] else [] := by
  unfold reconcileRoute
  split
  · split <;> rfl
  · rfl

theorem checkRouteIff {runes pools seen names route policy choice later} :
    checkRoute runes pools seen names route = .ok (policy,choice,later) ↔
      (route.host ≠ "" ∧ hasPrefix route.pathPrefix "/" = true ∧ route.id ∉ seen ∧ (pools.get route.pool).isSome = true ∧
        ¬(route.policy.requireMTLS = true ∧ route.policy.mtlsClientCA ≠ "" ∧ route.policy.mtlsClientCA ≠ "default")) ∧
      (∃ plugins cache, pluginPolicyFromConfig runes route.id route.policy.plugins names = .ok (plugins,later) ∧
        cachePolicyFromConfig route.id route.policy.cache = .ok cache ∧
        policyFromConfig route.policy cache plugins = policy) ∧
      trafficConfigFromRoute route.id route.policy.traffic = .ok choice ∧
      ¬(choice.config.enabled = true ∧ (pools.get choice.stablePool).isNone = true) ∧
      ¬(choice.config.enabled = true ∧ choice.canaryPool ≠ "" ∧ (pools.get choice.canaryPool).isNone = true) := by
  simp only [checkRoute, guardOk, thenOk, Prod.exists, Except.ok.injEq, Prod.mk.injEq]
  constructor
  · rintro ⟨host,path,fresh,pool,default,plugins,last,plugged,cache,cached,own,traffic,stable,canary,rfl,rfl,rfl⟩
    exact ⟨⟨host,by simpa using path,fresh,by simpa [Option.isSome_iff_ne_none] using pool,default⟩,⟨plugins,cache,plugged,cached,rfl⟩,traffic,stable,canary⟩
  · rintro ⟨⟨host,path,fresh,pool,default⟩,⟨plugins,cache,plugged,cached,rfl⟩,traffic,stable,canary⟩
    exact ⟨host,by simpa using path,fresh,by simpa [Option.isSome_iff_ne_none] using pool,default,plugins,later,plugged,cache,
      cached,choice,traffic,stable,canary,rfl,rfl,rfl⟩

structure Checked (runes : RuneTables) (pools : PoolMap) (seen names : List String) (route : Route) (policy : Policy)
    (choice : TrafficChoice) (later : List String) : Prop where
  fresh : route.id ∉ seen
  pool : (pools.get route.pool).isSome = true
  plugins : pluginPolicyFromConfig runes route.id route.policy.plugins names = .ok (policy.plugins,later)
  traffic : trafficConfigFromRoute route.id route.policy.traffic = .ok choice
  stable : choice.config.enabled = true → (pools.get choice.stablePool).isSome = true
  canary : choice.config.enabled = true → choice.canaryPool ≠ "" → (pools.get choice.canaryPool).isSome = true

theorem checkRouteOk {runes pools seen names route policy choice later}
    (ok : checkRoute runes pools seen names route = .ok (policy,choice,later)) :
    Checked runes pools seen names route policy choice later := by
  obtain ⟨⟨-,-,fresh,pool,-⟩,⟨plugins,cache,plugged,-,rfl⟩,traffic,stable,canary⟩ := checkRouteIff.mp ok
  refine ⟨fresh,pool,plugged,traffic,?_,?_⟩
  · intro enabled
    simpa [enabled,Option.isSome_iff_ne_none] using stable
  · intro enabled named
    simpa [enabled,named,Option.isSome_iff_ne_none] using canary

structure Turn where
  route : Route
  policy : Policy
  choice : TrafficChoice

def Turn.compiled (runes : RuneTables) (t : Turn) : CompiledRoute := compiledRoute runes t.route t.policy t.choice

def Turn.calls (pools : PoolMap) (t : Turn) : List Call := (reconcileRoute pools t.route t.choice).calls

theorem buildRoutesTurns {runes : RuneTables} {pools : PoolMap} {seen names : List String} {routes : List Route}
    {compiled : List CompiledRoute} (ok : (buildRoutes runes pools seen names routes).result = .ok compiled) :
    ∃ turns : List Turn, turns.map Turn.route = routes ∧ turns.map (Turn.compiled runes) = compiled ∧
      (buildRoutes runes pools seen names routes).calls = turns.flatMap (Turn.calls pools) ∧
      ∀ t ∈ turns, ∃ seen names later, checkRoute runes pools seen names t.route = .ok (t.policy,t.choice,later) := by
  induction routes generalizing seen names compiled with
  | nil =>
    cases ok
    exact ⟨[],rfl,rfl,rfl,by simp⟩
  | cons route rest ih =>
    rw [buildRoutes] at ok ⊢
    cases checked : checkRoute runes pools seen names route with
    | error e =>
      rw [checked,Script.bindError (Script.checkResult _)] at ok
      cases ok
    | ok parts =>
      obtain ⟨policy,choice,next⟩ := parts
      rw [checked,Script.bindOk (Script.checkResult _)] at ok
      rw [Script.bindOk (Script.checkResult _)]
      change (reconcileRoute pools route choice >>= _).result = _ at ok
      rw [Script.bindOk (reconcileRouteOk pools route choice)] at ok
      change ∃ turns : List Turn, _ ∧ _ ∧ [] ++ (reconcileRoute pools route choice >>= _).calls = _ ∧ _
      rw [Script.bindOk (reconcileRouteOk pools route choice)]
      cases others : (buildRoutes runes pools (route.id :: seen) next rest).result with
      | error e =>
        rw [Script.bindError others] at ok
        cases ok
      | ok tail =>
        rw [Script.bindOk others] at ok
        cases ok
        obtain ⟨turns,same,compiled,calls,went⟩ := ih others
        refine ⟨⟨route,policy,choice⟩ :: turns,by rw [List.map_cons, same],by rw [List.map_cons, compiled]; rfl,?_,?_⟩
        · rw [Script.bindOk others, calls, List.flatMap_cons]
          simp [Turn.calls]
        · intro t inside
          rcases List.mem_cons.mp inside with rfl | later
          · exact ⟨seen,names,next,checked⟩
          · exact went t later

theorem buildRoutesOk {runes : RuneTables} {pools : PoolMap} {seen names : List String} {routes : List Route}
    {compiled : List CompiledRoute} (ok : (buildRoutes runes pools seen names routes).result = .ok compiled) :
    ∃ turns : List Turn, turns.map Turn.route = routes ∧ turns.map (Turn.compiled runes) = compiled ∧
      (buildRoutes runes pools seen names routes).calls = turns.flatMap (Turn.calls pools) ∧
      ∀ t ∈ turns, ∃ seen names later, Checked runes pools seen names t.route t.policy t.choice later := by
  obtain ⟨turns,same,rows,calls,went⟩ := buildRoutesTurns ok
  refine ⟨turns,same,rows,calls,fun t inside => ?_⟩
  obtain ⟨seen,names,later,checked⟩ := went t inside
  exact ⟨seen,names,later,checkRouteOk checked⟩

structure RouteCalls (seen : List String) (calls : List Call) : Prop where
  noPool : ∀ c ∈ calls, c.pool? = none
  noPrune : ∀ desired, .prune desired ∉ calls
  named : ∀ key endpoints cfg, .outlier key endpoints cfg ∈ calls → key ≠ ""
  distinct : ((planned calls).map (·.1)).Nodup
  fresh : ∀ p ∈ planned calls, p.1 ∉ seen

theorem RouteCalls.nil (seen : List String) : RouteCalls seen [] where
  noPool := by simp
  noPrune := by simp
  named := by simp
  distinct := by simp [planned]
  fresh := by simp [planned]

theorem RouteCalls.cons {pools : PoolMap} {seen : List String} {route : Route} {choice : TrafficChoice} {later}
    (new : route.id ∉ seen) (rest : RouteCalls (route.id :: seen) later) :
    RouteCalls seen ((reconcileRoute pools route choice).calls ++ later) := by
  have own := reconcileRouteCalls pools route choice
  have plans : planned ((reconcileRoute pools route choice).calls ++ later) =
      (if choice.config.enabled then [(route.id,choice.config)] else []) ++ planned later := by
    rw [planned, List.filterMap_append, ← planned, ← planned, reconcileRoutePlanned]
  constructor
  · intro c member
    rcases List.mem_append.mp member with left | right
    · exact (own c left).1
    · exact rest.noPool c right
  · intro desired member
    rcases List.mem_append.mp member with left | right
    · exact (own _ left).2.1 desired rfl
    · exact rest.noPrune desired right
  · intro key endpoints cfg member
    rcases List.mem_append.mp member with left | right
    · exact (own _ left).2.2.2 key endpoints cfg rfl
    · exact rest.named key endpoints cfg right
  · rw [plans]
    split
    · simp only [List.cons_append, List.nil_append, List.map_cons, List.nodup_cons]
      refine ⟨?_,rest.distinct⟩
      intro member
      obtain ⟨p,inside,same⟩ := List.mem_map.mp member
      exact rest.fresh p inside (by simp [same])
    · exact rest.distinct
  · rw [plans]
    intro p member
    rcases List.mem_append.mp member with left | right
    · split at left
      · cases List.mem_singleton.mp left
        exact new
      · cases left
    · exact fun old => rest.fresh p right (List.mem_cons_of_mem _ old)

theorem buildRoutesCalls (runes : RuneTables) (pools : PoolMap) (seen names : List String) (routes : List Route) :
    RouteCalls seen (buildRoutes runes pools seen names routes).calls := by
  induction routes generalizing seen names with
  | nil => exact .nil seen
  | cons route rest ih =>
    rw [buildRoutes]
    cases checked : checkRoute runes pools seen names route with
    | error e =>
      rw [Script.bindError (Script.checkResult _)]
      exact .nil seen
    | ok parts =>
      obtain ⟨policy,choice,later⟩ := parts
      rw [Script.bindOk (Script.checkResult _), Script.checkCalls, List.nil_append]
      change RouteCalls seen (reconcileRoute pools route choice >>= _).calls
      rw [Script.bindOk (reconcileRouteOk pools route choice)]
      apply RouteCalls.cons (checkRouteOk checked).fresh
      have tail := ih (route.id :: seen) later
      cases outcome : (buildRoutes runes pools (route.id :: seen) later rest).result with
      | error e => rw [Script.bindError outcome]; exact tail
      | ok compiled =>
        rw [Script.bindOk outcome]
        simpa using tail

theorem unlimitedCalls {platform : Platform} {cfg : Config} {range : cfg.pools.Range} {e : Message}
    (bad : limitsFromConfig cfg.limits = .error e) : (buildSnapshot platform cfg range).calls = [] := by
  unfold buildSnapshot
  rw [bad, Script.bindError (Script.checkResult _)]
  rfl

theorem limitedCalls {platform : Platform} {cfg : Config} {range : cfg.pools.Range} {limits : Limits}
    (limited : limitsFromConfig cfg.limits = .ok limits) :
    (buildSnapshot platform cfg range).calls = (range.order.takeWhile hasEndpoints).map poolCall ++
      if ∀ e ∈ range.order, hasEndpoints e = true then
        .prune (range.order.map (·.1)) :: (buildRoutes platform.runes cfg.pools [] [] (items cfg.routes)).calls
      else [] := by
  unfold buildSnapshot
  rw [limited, Script.bindOk (Script.checkResult _)]
  cases pooled : (reconcilePools range.order).result with
  | error e =>
    have empty : ¬∀ e ∈ range.order, hasEndpoints e = true := by
      intro full
      rw [reconcilePoolsAll full] at pooled
      cases pooled
    rw [Script.bindError pooled, if_neg empty, List.append_nil]
    exact reconcilePoolsCalls range.order
  | ok _ =>
    rw [Script.bindOk pooled, Script.bindOk (Script.callResult _), reconcilePoolsCalls, if_pos (reconcilePoolsOk pooled)]
    simp only [Script.checkCalls, List.nil_append, Script.callCalls]
    cases routed : (buildRoutes platform.runes cfg.pools [] [] (items cfg.routes)).result with
    | error e =>
      rw [Script.bindError routed]
      rfl
    | ok routes =>
      rw [Script.bindOk routed]
      cases secured : compileTLS platform cfg.tls (routes.any (·.policy.requireMTLS)) with
      | error e => simp [Script.bindError (Script.checkResult _)]
      | ok tls => simp [Script.bindOk (Script.checkResult _)]

theorem buildCalls (platform : Platform) (cfg : Config) (range : cfg.pools.Range) :
    (buildSnapshot platform cfg range).calls = [] ∨
    (buildSnapshot platform cfg range).calls = (range.order.takeWhile hasEndpoints).map poolCall ∨
    ∃ later, RouteCalls [] later ∧ (∀ e ∈ range.order, hasEndpoints e = true) ∧
      (buildSnapshot platform cfg range).calls =
        range.order.map poolCall ++ .prune (range.order.map (·.1)) :: later := by
  cases limited : limitsFromConfig cfg.limits with
  | error e => exact .inl (unlimitedCalls limited)
  | ok limits =>
    right
    rw [limitedCalls limited]
    split
    · rename_i full
      exact .inr ⟨_,buildRoutesCalls _ _ _ _ _,full,by rw [List.takeWhile_eq_self_iff.mpr full]⟩
    · exact .inl (List.append_nil _)

theorem reconciledPools (order : List (String × Pool)) :
    reconciled (order.map poolCall) = order.map (fun e => (e.1,items e.2.endpoints)) := by
  rw [reconciled, List.filterMap_map]
  exact congrFun List.filterMap_eq_map' order

theorem fullReconciled {order : List (String × Pool)} {names : List PoolKey} {later : List Call} (routes : RouteCalls [] later) :
    reconciled (order.map poolCall ++ .prune names :: later) = order.map (fun e => (e.1,items e.2.endpoints)) := by
  have quiet : reconciled later = [] := List.filterMap_eq_nil_iff.mpr routes.noPool
  rw [reconciled, List.filterMap_append, ← reconciled, reconciledPools, List.filterMap_cons_none (by rfl), ← reconciled,
    quiet, List.append_nil]

theorem fullPruned {order : List (String × Pool)} {names desired : List PoolKey} {later : List Call}
    (routes : RouteCalls [] later) (member : .prune desired ∈ order.map poolCall ++ .prune names :: later) :
    desired = names := by
  rcases List.mem_append.mp member with left | right
  · obtain ⟨e,-,impossible⟩ := List.mem_map.mp left
    cases impossible
  · rcases List.mem_cons.mp right with first | rest
    · cases first
      rfl
    · exact absurd rest (routes.noPrune desired)

theorem fullPlanned (order : List (String × Pool)) (names : List String) (later : List Call) :
    planned (order.map poolCall ++ .prune names :: later) = planned later := by
  have none : planned (order.map poolCall) = [] := by
    apply List.filterMap_eq_nil_iff.mpr
    intro c member
    obtain ⟨e,-,rfl⟩ := List.mem_map.mp member
    rfl
  rw [planned, List.filterMap_append, ← planned, none, List.filterMap_cons_none (by rfl), ← planned,
    List.nil_append]

theorem fullTidy {order : List (String × Pool)} {later : List Call} (unique : (order.map (·.1)).Nodup)
    (routes : RouteCalls [] later) :
    Tidy (order.map poolCall ++ .prune (order.map (·.1)) :: later) := by
  constructor
  · rw [fullReconciled routes, List.map_map]
    exact unique
  · intro desired member p inside
    rw [fullReconciled routes] at inside
    obtain ⟨e,inOrder,rfl⟩ := List.mem_map.mp inside
    rw [fullPruned routes member]
    exact List.mem_map.mpr ⟨e,inOrder,rfl⟩
  · rw [fullPlanned]
    exact routes.distinct
  · intro key endpoints cfg member
    rcases List.mem_append.mp member with left | right
    · obtain ⟨e,-,impossible⟩ := List.mem_map.mp left
      cases impossible
    · rcases List.mem_cons.mp right with first | rest
      · cases first
      · exact routes.named key endpoints cfg rest

theorem buildTidy (platform : Platform) (cfg : Config) (range : cfg.pools.Range) :
    Tidy (buildSnapshot platform cfg range).calls := by
  have unique := PoolMap.rangeUnique range
  have poolsOnly : Tidy (range.order.map poolCall) := (fullTidy unique (.nil [])).sublist (List.sublist_append_left ..)
  rcases buildCalls platform cfg range with none | pools | ⟨later,routes,-,whole⟩
  · rw [none]
    exact poolsOnly.sublist (List.nil_sublist _)
  · rw [pools]
    exact poolsOnly.sublist ((List.takeWhile_sublist _).map _)
  · rw [whole]
    exact fullTidy unique routes

structure Builds (platform : Platform) (cfg : Config) (order : List (String × Pool)) (compiled : Compiled) : Prop where
  limits : limitsFromConfig cfg.limits = .ok compiled.limits
  endpoints : ∀ e ∈ order, hasEndpoints e = true
  routed : (buildRoutes platform.runes cfg.pools [] [] (items cfg.routes)).result = .ok compiled.routes
  secured : compileTLS platform cfg.tls (compiled.routes.any (·.policy.requireMTLS)) = .ok compiled.tls
  pools : compiled.pools = Map.keyed (order.map (fun e => (e.1,e.1)))
  poolConfigs : compiled.poolConfigs = Map.keyed (order.map (fun e => (e.1,poolConfig e.2)))
  routeCount : compiled.routeCount = compiled.routes.length
  logging : compiled.logging = cfg.logging

theorem Builds.poolsKnown {platform : Platform} {cfg : Config} {range : cfg.pools.Range} {compiled : Compiled}
    (builds : Builds platform cfg range.order compiled) {name : String} {key : PoolKey} :
    compiled.pools.get name = some key ↔ name = key ∧ key ∈ range.order.map (·.1) := by
  have unique : ((range.order.map (fun e => (e.1,e.1))).map (·.1)).Nodup := by
    rw [List.map_map]
    exact PoolMap.rangeUnique range
  rw [builds.pools,Map.keyedMember unique]
  constructor
  · intro listed
    obtain ⟨e,inside,same⟩ := List.mem_map.mp listed
    cases same
    exact ⟨rfl,List.mem_map.mpr ⟨e,inside,rfl⟩⟩
  · rintro ⟨rfl,named⟩
    obtain ⟨e,inside,same⟩ := List.mem_map.mp named
    exact List.mem_map.mpr ⟨e,inside,by rw [same]⟩

theorem Builds.poolConfigured {platform : Platform} {cfg : Config} {range : cfg.pools.Range} {compiled : Compiled}
    (builds : Builds platform cfg range.order compiled) {name : String} {pool : Pool} (named : cfg.pools.get name = some pool) :
    compiled.poolConfigs.get name = some (poolConfig pool) := by
  have unique : ((range.order.map (fun e => (e.1,poolConfig e.2))).map (·.1)).Nodup := by
    rw [List.map_map]
    exact PoolMap.rangeUnique range
  rw [builds.poolConfigs, Map.keyedMember unique]
  exact List.mem_map.mpr ⟨(name,pool),(PoolMap.rangeMember range).mpr (PoolMap.getMember.mp named),rfl⟩

theorem buildSnapshotOk {platform : Platform} {cfg : Config} {range : cfg.pools.Range} {compiled : Compiled} :
    (buildSnapshot platform cfg range).result = .ok compiled ↔ Builds platform cfg range.order compiled := by
  unfold buildSnapshot
  constructor
  · intro ok
    cases limited : limitsFromConfig cfg.limits with
    | error e =>
      rw [limited,Script.bindError (Script.checkResult _)] at ok
      cases ok
    | ok limits =>
      rw [limited,Script.bindOk (Script.checkResult _)] at ok
      cases pooled : (reconcilePools range.order).result with
      | error e =>
        rw [Script.bindError pooled] at ok
        cases ok
      | ok _ =>
        rw [Script.bindOk pooled,Script.bindOk (Script.callResult _)] at ok
        cases routed : (buildRoutes platform.runes cfg.pools [] [] (items cfg.routes)).result with
        | error e =>
          rw [Script.bindError routed] at ok
          cases ok
        | ok routes =>
          rw [Script.bindOk routed] at ok
          cases secured : compileTLS platform cfg.tls (routes.any (·.policy.requireMTLS)) with
          | error e =>
            rw [secured,Script.bindError (Script.checkResult _)] at ok
            cases ok
          | ok tls =>
            rw [secured,Script.bindOk (Script.checkResult _)] at ok
            cases ok
            exact ⟨limited,reconcilePoolsOk pooled,routed,secured,rfl,rfl,rfl,rfl⟩
  · intro builds
    rw [builds.limits,Script.bindOk (Script.checkResult _),Script.bindOk (reconcilePoolsAll builds.endpoints),
      Script.bindOk (Script.callResult _),Script.bindOk builds.routed,builds.secured,
      Script.bindOk (Script.checkResult _)]
    obtain ⟨routes,pools,poolConfigs,tls,routeCount,limits,logging⟩ := compiled
    have same : pools = _ ∧ poolConfigs = _ ∧ routeCount = routes.length ∧ logging = cfg.logging :=
      ⟨builds.pools,builds.poolConfigs,builds.routeCount,builds.logging⟩
    obtain ⟨rfl,rfl,rfl,rfl⟩ := same
    rfl

theorem buildSnapshotCalls {platform : Platform} {cfg : Config} {range : cfg.pools.Range} {compiled : Compiled}
    (builds : Builds platform cfg range.order compiled) :
    (buildSnapshot platform cfg range).calls = range.order.map poolCall ++ .prune (range.order.map (·.1)) ::
      (buildRoutes platform.runes cfg.pools [] [] (items cfg.routes)).calls := by
  rw [limitedCalls builds.limits, if_pos builds.endpoints, List.takeWhile_eq_self_iff.mpr builds.endpoints]

end ReverseProxy.SnapshotBuild
