import Mathlib.Data.List.Nodup
import ReverseProxy.BuildAcceptance
import ReverseProxy.PoolCoverage
import ReverseProxy.RequestIntake

/-! What the handler finds behind a route of an accepted config: the builder's checks
on default, stable and canary pools and on TLS against the lookups of ServeHTTP. The
one name that gets through and cannot be looked up is the empty one. -/
namespace ReverseProxy.PoolLookup
open GoValues FiniteMap CallScript ConfigData PolicyBuild SnapshotBuild RegistryEffect
open ApplyManager BuildAcceptance
open CacheKey (Request)
open PoolCoverage (Held)
open PoolRegistry (Registry)
open RequestIntake (Variant matchRoute poolFor selectPool)
open SnapshotStore (Snapshot)

structure Found (compiled : Compiled) (registry : Registry) (name : String) : Prop where
  registered : ∃ key, compiled.pools.get name = some key ∧ key ≠ "" ∧
    ∃ p addr e, registry.pools.get key = some p ∧ p.endpoints.get addr = some e
  configured : (compiled.poolConfigs.get name).isSome = true

def VerifiesClients (compiled : Compiled) : Prop := ∃ store ca, compiled.tls.store = some store ∧ store.clientCA = some ca

def Served (compiled : Compiled) (name : String) : Prop :=
  ∀ snapshot : Snapshot, snapshot.compiled = compiled → ∃ config, poolFor snapshot name = .ok config

section
variable {platform : Platform} {c : Circumstance} {s t : Registries} {cfg : Config} {r : CompileResult}

theorem matchedMember {routes : List CompiledRoute} {request : Request} {route : CompiledRoute}
    (matched : matchRoute routes request = some route) : route ∈ routes := by
  unfold matchRoute at matched
  split at matched
  · cases matched
  · rename_i first found
    split at matched
    · cases matched
      exact List.mem_of_find?_eq_some found
    · split at matched
      · cases matched
        exact List.mem_of_find?_eq_some found
      · cases matched

theorem executedHeld (done : execute platform c s (compileResolved platform c cfg) = (.ok r,t)) {e : String × Pool}
    (listed : e ∈ cfg.pools.entries) : Held t.registry.shape e := by
  have ok : (execute platform c s (compileResolved platform c cfg)).1 = .ok r := by rw [done]
  obtain ⟨made,replies,result,ran,-⟩ := executeOk.mp ok
  have tidy := ApplyRejection.compileResolvedTidy platform c cfg
  have distinct : ((planned ((stamp c.clock (compileResolved platform c cfg).calls).map (·.2))).map (·.1)).Nodup := by
    rw [stampCalls]
    exact tidy.routes
  have quiet : ∀ call ∈ (compileResolved platform c cfg).calls, callFails platform.runes s.traffic.assigned call = false := by
    have fails := @runFails platform.runes s _ distinct
    rw [ran,stampCalls] at fails
    exact fun call inside => by simpa using List.any_eq_false.mp fails.symm call inside
  have shape : t.registry.shape = (compileResolved platform c cfg).calls.foldl poolStep s.registry.shape := by
    have state : (run (perform platform.runes) s (stamp c.clock (compileResolved platform c cfg).calls)).2 = t :=
      (executeRun platform c s (compileResolved platform c cfg)).symm.trans (congrArg Prod.snd done)
    rw [← state,runState,afterPools,reachedCalls distinct,stampCalls,throughAll quiet]
  rw [shape,PoolCoverage.heldRun (PoolCoverage.compileResolvedWithin platform c cfg) (PoolCoverage.compiledTouches result e.1)]
  exact ⟨e.2,listed,fun _ inside => inside⟩

theorem heldEndpoint {e : String × Pool} {registry : Registry} (held : Held registry.shape e) (some_ : hasEndpoints e = true) :
    ∃ p addr x, registry.pools.get e.1 = some p ∧ p.endpoints.get addr = some x := by
  obtain ⟨shape,there,all⟩ := held
  obtain ⟨addr,inside⟩ := List.exists_mem_of_ne_nil (items e.2.endpoints) (by simpa [hasEndpoints] using some_)
  obtain ⟨p,found,rfl⟩ := Option.map_eq_some_iff.mp there
  obtain ⟨x,lives,-⟩ := Option.map_eq_some_iff.mp (all addr inside)
  exact ⟨p,addr,x,found,lives⟩

theorem executedFound (done : execute platform c s (compileResolved platform c cfg) = (.ok r,t)) {name : String}
    (known : (cfg.pools.get name).isSome = true) (named : name ≠ "") : Found r.compiled t.registry name := by
  have ok : (execute platform c s (compileResolved platform c cfg)).1 = .ok r := by rw [done]
  obtain ⟨made,replies,result,-,rfl⟩ := executeOk.mp ok
  obtain ⟨-,builds,-⟩ := compileResolvedOk.mp result
  obtain ⟨pool,found⟩ := Option.isSome_iff_exists.mp known
  have listed : (name,pool) ∈ cfg.pools.entries := PoolMap.getMember.mp found
  have ordered : (name,pool) ∈ (c.buildRange cfg.pools).order := (PoolMap.rangeMember _).mpr listed
  refine ⟨⟨name,builds.poolsKnown.mpr ⟨rfl,List.mem_map.mpr ⟨_,ordered,rfl⟩⟩,named,
    heldEndpoint (executedHeld done listed) (builds.endpoints _ ordered)⟩,?_⟩
  change (made.compiled.poolConfigs.get name).isSome = true
  rw [builds.poolConfigured found]
  rfl

theorem Found.served {compiled : Compiled} {registry : Registry} {name : String} (found : Found compiled registry name) :
    Served compiled name := by
  rintro snapshot rfl
  obtain ⟨⟨key,there,named,-⟩,configured⟩ := found
  obtain ⟨config,is⟩ := Option.isSome_iff_exists.mp configured
  exact ⟨config,by simp [poolFor,there,named,is]⟩

theorem unnamedLost (done : execute platform c s (compileResolved platform c cfg) = (.ok r,t)) : ¬Found r.compiled t.registry "" := by
  have ok : (execute platform c s (compileResolved platform c cfg)).1 = .ok r := by rw [done]
  obtain ⟨made,replies,result,-,rfl⟩ := executeOk.mp ok
  obtain ⟨-,builds,-⟩ := compileResolvedOk.mp result
  rintro ⟨⟨key,there,named,-⟩,-⟩
  exact named (builds.poolsKnown.mp there).1.symm

theorem loadStoreCA {certs : List TLSCert} {file : String} {store : TLSStore} (ok : loadStore platform certs file = .ok store)
    (named : file ≠ "") : ∃ ca, store.clientCA = some ca := by
  obtain ⟨loaded,-,rest⟩ := thenOk.mp ok
  cases loaded with
  | nil => cases rest
  | cons first others =>
    dsimp only at rest
    rw [if_neg named] at rest
    cases read : platform.readFile file with
    | error e => simp [read] at rest
    | ok data =>
      cases parsed : platform.appendCertsFromPEM data with
      | none => simp [read,parsed] at rest
      | some pool =>
        simp only [read, parsed, Except.ok.injEq] at rest
        exact ⟨pool,by rw [← rest]⟩

theorem securedClients {tls : TLSConfig} {compiled : CompiledTLS} (ok : compileTLS platform tls true = .ok compiled) :
    ∃ store ca, compiled.store = some store ∧ store.clientCA = some ca := by
  unfold compileTLS at ok
  split at ok
  · simp only [guardOk, thenOk, true_and, Except.ok.injEq] at ok
    obtain ⟨-,file,store,loaded,_,-,_,-,rfl⟩ := ok
    obtain ⟨ca,is⟩ := loadStoreCA loaded file
    exact ⟨store,ca,rfl,is⟩
  · cases ok

structure MadeFrom (cfg : Config) (source : Route) (choice : TrafficChoice) (route : CompiledRoute) : Prop where
  id : route.id = source.id
  pool : (cfg.pools.get source.pool).isSome = true
  traffic : trafficConfigFromRoute source.id source.policy.traffic = .ok choice
  poolName : route.poolName = if choice.config.enabled then choice.stablePool else source.pool
  canaryPoolName : route.canaryPoolName = choice.canaryPool
  stable : choice.config.enabled = true → (cfg.pools.get choice.stablePool).isSome = true
  canary : choice.config.enabled = true → choice.canaryPool ≠ "" → (cfg.pools.get choice.canaryPool).isSome = true

theorem madeFrom (done : execute platform c s (compileResolved platform c cfg) = (.ok r,t)) {route : CompiledRoute}
    (inside : route ∈ r.compiled.routes) : ∃ source ∈ items cfg.routes, ∃ choice, MadeFrom cfg source choice route := by
  have ok : (execute platform c s (compileResolved platform c cfg)).1 = .ok r := by rw [done]
  obtain ⟨made,replies,result,-,rfl⟩ := executeOk.mp ok
  obtain ⟨-,builds,-⟩ := compileResolvedOk.mp result
  obtain ⟨turns,routes,compiled,-,went⟩ := buildRoutesOk builds.routed
  obtain ⟨own,listed,rfl⟩ := List.mem_map.mp inside
  rw [← compiled] at listed
  obtain ⟨turn,here,rfl⟩ := List.mem_map.mp listed
  obtain ⟨seen,names,later,checked⟩ := went turn here
  exact ⟨turn.route,routes ▸ List.mem_map_of_mem here,turn.choice,rfl,checked.pool,checked.traffic,rfl,rfl,checked.stable,
    checked.canary⟩

theorem MadeFrom.selected {source : Route} {choice : TrafficChoice} {route : CompiledRoute} (made : MadeFrom cfg source choice route)
    (variant : Option Variant) :
    (cfg.pools.get (selectPool route variant).1).isSome = true ∧
      ((selectPool route variant).1 ≠ "" ↔ source.policy.traffic.enabled = true ∨ source.pool ≠ "") := by
  obtain ⟨same,off,-⟩ := trafficConfigOk made.traffic
  cases enabled : source.policy.traffic.enabled with
  | false =>
    -- without traffic settings there is the default pool and no canary
    have blank := off enabled
    have only : (selectPool route variant).1 = source.pool := by
      simp [selectPool,made.canaryPoolName,made.poolName,blank]
    rw [only]
    exact ⟨made.pool,by simp⟩
  | true =>
    have on : choice.config.enabled = true := same.trans enabled
    obtain ⟨named,-,-,-,-,rfl⟩ := (trafficConfigIff enabled).mp made.traffic
    have stable : route.poolName = trimSpace source.policy.traffic.stablePool := by rw [made.poolName,if_pos on]; rfl
    unfold selectPool
    split
    · rename_i canary
      have other : route.canaryPoolName ≠ "" := canary.2
      rw [made.canaryPoolName] at other ⊢
      exact ⟨made.canary on other,by simp [other]⟩
    · dsimp only
      rw [stable]
      exact ⟨made.stable on,by simp [named]⟩

end

theorem matchedPoolFound {platform : Platform} {c : Circumstance} {s t : Registries} {cfg : Config} {r : CompileResult}
    (done : execute platform c s (compileResolved platform c cfg) = (.ok r,t)) {request : Request} {route : CompiledRoute}
    (matched : matchRoute r.compiled.routes request = some route) (variant : Option Variant) :
    (Found r.compiled t.registry (selectPool route variant).1 ∧ Served r.compiled (selectPool route variant).1 ∧
      (route.policy.requireMTLS = true → VerifiesClients r.compiled)) ↔
    ∀ source ∈ items cfg.routes, source.id = route.id → source.policy.traffic.enabled = true ∨ source.pool ≠ "" := by
  have inside := matchedMember matched
  obtain ⟨source,listed,choice,made⟩ := madeFrom done inside
  obtain ⟨known,named⟩ := made.selected variant
  have ok : (execute platform c s (compileResolved platform c cfg)).1 = .ok r := by rw [done]
  obtain ⟨first,replies,result,-,same⟩ := executeOk.mp ok
  obtain ⟨validated,builds,-⟩ := compileResolvedOk.mp result
  -- the ids of a config's routes are distinct, so its own route is the only one of that id
  have only : ∀ other ∈ items cfg.routes, other.id = route.id → other = source := by
    intro other also is
    exact List.inj_on_of_nodup_map (builtDistinct builds.routed).1 also listed (is.trans made.id)
  have secured : route.policy.requireMTLS = true → VerifiesClients r.compiled := by
    intro required
    have any : first.compiled.routes.any (·.policy.requireMTLS) = true := by
      rw [same] at inside
      obtain ⟨own,there,rfl⟩ := List.mem_map.mp inside
      exact List.any_eq_true.mpr ⟨own,there,required⟩
    have store := builds.secured
    rw [any] at store
    rw [same]
    exact securedClients store
  constructor
  · rintro ⟨found,-,-⟩ other also is
    rw [only other also is]
    refine named.mp fun empty => ?_
    rw [empty] at found
    exact unnamedLost done found
  · intro condition
    have found := executedFound done known (named.mpr (condition source listed made.id.symm))
    exact ⟨found,found.served,secured⟩

def oneRoute (pool : String) : Config :=
  { routes := some [{ id := "r", host := "h", pathPrefix := "/", pool := pool }]
    pools := .single pool { endpoints := some ["10.0.0.1:80"] } }

def getRoot : Request := ⟨encodeText "GET",encodeText "h",encodeText "/",[],Map.empty⟩

theorem namedPoolFound : ∃ r t route,
    execute (decoding (oneRoute "p")) calm {} (compileResolved (decoding (oneRoute "p")) calm (oneRoute "p")) = (.ok r,t) ∧
    matchRoute r.compiled.routes getRoot = some route ∧ Found r.compiled t.registry (selectPool route none).1 := by
  obtain ⟨r,t,route,done,matched⟩ : ∃ r t route,
      execute (decoding (oneRoute "p")) calm {} (compileResolved (decoding (oneRoute "p")) calm (oneRoute "p")) = (.ok r,t) ∧
      matchRoute r.compiled.routes getRoot = some route := ⟨_,_,_,rfl,rfl⟩
  refine ⟨r,t,route,done,matched,((matchedPoolFound done matched none).mpr ?_).1⟩
  intro source inside _
  cases List.mem_singleton.mp inside
  exact .inr (by decide)

theorem namelessPoolLost : ∃ r t route,
    execute (decoding (oneRoute "")) calm {} (compileResolved (decoding (oneRoute "")) calm (oneRoute "")) = (.ok r,t) ∧
    matchRoute r.compiled.routes getRoot = some route ∧
    poolFor ⟨1,[],"file",r.compiled⟩ (selectPool route none).1 = .error (RequestFlow.badGateway "pool not found") :=
  ⟨_,_,_,rfl,rfl,rfl⟩

end ReverseProxy.PoolLookup
