import ReverseProxy.ApplyRejection

/-! What the registry calls of one configuration do to one pool. A pool the calls
do not touch stays as it is; one they touch ends up with exactly what the
configuration says about it, whatever part of the calls was made and however often. -/
namespace ReverseProxy.PoolCoverage
open GoValues FiniteMap CallScript ConfigData SnapshotBuild RegistryEffect
open PoolRegistry (PoolKey reconcileShape)
open ApplyManager (Circumstance Live CompileResult compileResolved compileResolvedOk compileResolvedCalls checkRequest
  execute progressed stamp stampCalls applyResolvedVersion)
open ApplyRejection (submitted madeAtReturn compileResolvedTidy executeState)

def Held (pools : Map PoolKey (Map String Bool)) (e : String × Pool) : Prop :=
  ∃ shape, pools.get e.1 = some shape ∧ ∀ addr ∈ items e.2.endpoints, shape.get addr = some false

def Covers (cfg : Config) (e : String × Pool) : Prop :=
  ∃ pool, (e.1,pool) ∈ cfg.pools.entries ∧ ∀ addr ∈ items e.2.endpoints, addr ∈ items pool.endpoints

def Touched (calls : List Call) (key : PoolKey) : Prop :=
  key ∈ (reconciled calls).map (·.1) ∨ ∃ desired, .prune desired ∈ calls ∧ key ∉ desired

structure Within (cfg : Config) (calls : List Call) : Prop where
  pools : ∀ p ∈ reconciled calls, ∃ pool, (p.1,pool) ∈ cfg.pools.entries ∧ p.2 = items pool.endpoints
  kept : ∀ desired, .prune desired ∈ calls → ∀ key, key ∈ desired ↔ key ∈ cfg.pools.names

def Kept (before : Map PoolKey (Map String Bool)) (cfg : Config) (calls : List Call) (e : String × Pool) : Prop :=
  (Touched calls e.1 → Covers cfg e) ∧ (¬Touched calls e.1 → Held before e)

theorem Within.sublist {cfg : Config} {a b : List Call} (sub : a.Sublist b) (within : Within cfg b) : Within cfg a where
  pools p member := within.pools p ((sub.filterMap _).subset member)
  kept desired member := within.kept desired (sub.subset member)

theorem Within.alike {cfg other : Config} {calls : List Call} (perm : cfg.pools.entries.Perm other.pools.entries)
    (within : Within cfg calls) : Within other calls where
  pools p member := by
    obtain ⟨pool,inside,same⟩ := within.pools p member
    exact ⟨pool,perm.mem_iff.mp inside,same⟩
  kept desired member key := (within.kept desired member key).trans (perm.map _).mem_iff

theorem coversNamed {cfg : Config} {e : String × Pool} (covers : Covers cfg e) : e.1 ∈ cfg.pools.names := by
  obtain ⟨pool,inside,-⟩ := covers
  exact List.mem_map.mpr ⟨_,inside,rfl⟩

theorem reconciledHeld {pools : Map PoolKey (Map String Bool)} {cfg : Config} {e : String × Pool} {pool : Pool}
    (old : Map String Bool) (inside : (e.1,pool) ∈ cfg.pools.entries)
    (found : pools.get e.1 = some (reconcileShape old (items pool.endpoints))) :
    Held pools e ↔ Covers cfg e := by
  have one : ∀ addr, (reconcileShape old (items pool.endpoints)).get addr = some false ↔ addr ∈ items pool.endpoints := by
    intro addr
    obtain ⟨active,rest⟩ := PoolRegistry.reconcileSettles old (items pool.endpoints)
    exact ⟨fun h => Decidable.byContradiction fun outside => rest addr outside h,active addr⟩
  constructor
  · rintro ⟨shape,same,all⟩
    cases Option.some.inj (found.symm.trans same)
    exact ⟨pool,inside,fun addr member => (one addr).mp (all addr member)⟩
  · rintro ⟨other,also,all⟩
    -- a config has one pool of a name
    cases Option.some.inj ((PoolMap.getMember.mpr inside).symm.trans (PoolMap.getMember.mpr also))
    exact ⟨_,found,fun addr member => (one addr).mpr (all addr member)⟩

theorem frameRun {pools : Map PoolKey (Map String Bool)} {calls : List Call} {key : PoolKey}
    (untouched : ¬Touched calls key) : (calls.foldl poolStep pools).get key = pools.get key := by
  apply poolsFrame (fun inside => untouched (.inl inside))
  intro desired member
  exact Decidable.byContradiction fun outside => untouched (.inr ⟨desired,member,outside⟩)

theorem heldStep {pools : Map PoolKey (Map String Bool)} {cfg : Config} {call : Call} {e : String × Pool}
    (within : Within cfg [call]) (touched : Touched [call] e.1) : Held (poolStep pools call) e ↔ Covers cfg e := by
  cases call with
  | reconcile key endpoints health opts =>
    have same : e.1 = key := by simpa [Touched,reconciled,Call.pool?] using touched
    obtain ⟨pool,inside,listed⟩ := within.pools (key,endpoints) (by simp [reconciled,Call.pool?])
    subst same listed
    exact reconciledHeld _ inside (Map.getInsertSame _ _ _)
  | prune desired =>
    have outside : e.1 ∉ desired := by simpa [Touched,reconciled,Call.pool?] using touched
    have gone : (poolStep pools (.prune desired)).get e.1 = none := by
      rw [poolStep,Map.getKeep,if_neg (by simpa using outside)]
    constructor
    · rintro ⟨shape,found,-⟩
      cases gone.symm.trans found
    · intro covers
      exact absurd ((within.kept desired (by simp) e.1).mpr (coversNamed covers)) outside
  | plan routeID cfg => simp [Touched,reconciled,Call.pool?] at touched
  | outlier key endpoints cfg => simp [Touched,reconciled,Call.pool?] at touched

theorem touchedCons {call : Call} {rest : List Call} {key : PoolKey} :
    Touched (call :: rest) key ↔ Touched [call] key ∨ Touched rest key := by
  have split : reconciled (call :: rest) = reconciled [call] ++ reconciled rest := by
    rw [reconciled,reconciled,reconciled,← List.filterMap_append,List.singleton_append]
  unfold Touched
  simp only [split,List.map_append,List.mem_append,List.mem_cons,List.not_mem_nil,or_false,or_and_right,exists_or]
  exact or_or_or_comm

theorem heldRun {pools : Map PoolKey (Map String Bool)} {cfg : Config} {calls : List Call} {e : String × Pool}
    (within : Within cfg calls) (touched : Touched calls e.1) : Held (calls.foldl poolStep pools) e ↔ Covers cfg e := by
  induction calls generalizing pools with
  | nil => simp [Touched,reconciled] at touched
  | cons call rest ih =>
    rw [List.foldl_cons]
    by_cases later : Touched rest e.1
    · exact ih (within.sublist (List.sublist_cons_self ..)) later
    · have first : Touched [call] e.1 := (touchedCons.mp touched).resolve_right later
      have alone : Within cfg [call] := within.sublist (List.singleton_sublist.mpr List.mem_cons_self)
      unfold Held
      rw [frameRun later]
      exact heldStep alone first

theorem heldAfter {pools : Map PoolKey (Map String Bool)} {cfg : Config} {calls : List Call} {e : String × Pool}
    (within : Within cfg calls) : Held (calls.foldl poolStep pools) e ↔ Kept pools cfg calls e := by
  by_cases touched : Touched calls e.1
  · rw [heldRun within touched]
    exact ⟨fun covers => ⟨fun _ => covers,fun no => absurd touched no⟩,fun kept => kept.1 touched⟩
  · have frame := @frameRun pools calls e.1 touched
    unfold Held
    rw [frame]
    exact ⟨fun held => ⟨fun yes => absurd yes touched,fun _ => held⟩,fun kept => kept.2 touched⟩

theorem buildWithin (platform : Platform) (cfg : Config) (range : cfg.pools.Range) :
    Within cfg (buildSnapshot platform cfg range).calls := by
  have whole : ∀ {later : List Call}, RouteCalls [] later →
      Within cfg (range.order.map poolCall ++ .prune (range.order.map (·.1)) :: later) := by
    intro later routes
    constructor
    · intro p member
      rw [fullReconciled routes] at member
      obtain ⟨e,inside,rfl⟩ := List.mem_map.mp member
      exact ⟨e.2,(PoolMap.rangeMember range).mp inside,rfl⟩
    · intro desired member key
      rw [fullPruned routes member]
      exact (range.perm.map _).mem_iff
  rcases buildCalls platform cfg range with none | pools | ⟨later,routes,-,all⟩
  · rw [none]
    exact (whole (.nil [])).sublist (List.nil_sublist _)
  · rw [pools]
    exact (whole (.nil [])).sublist (((List.takeWhile_sublist _).map _).trans (List.sublist_append_left ..))
  · rw [all]
    exact whole routes

theorem compileResolvedWithin (platform : Platform) (c : Circumstance) (cfg : Config) :
    Within cfg (compileResolved platform c cfg).calls := by
  have within := buildWithin platform cfg (c.buildRange cfg.pools)
  rcases ApplyManager.compileResolvedBuild platform c cfg with none | build
  · rw [none]
    exact within.sublist (List.nil_sublist _)
  · rw [build]
    exact within

theorem compiledTouches {platform : Platform} {c : Circumstance} {cfg : Config} {r : CompileResult}
    (ok : (compileResolved platform c cfg).result = .ok r) (key : PoolKey) :
    Touched (compileResolved platform c cfg).calls key := by
  rw [compileResolvedCalls ok]
  by_cases named : key ∈ (c.buildRange cfg.pools).order.map (·.1)
  · left
    rw [fullReconciled (buildRoutesCalls ..),List.map_map]
    exact named
  · exact .inr ⟨_,by simp,named⟩

section
variable {platform : Platform} {m : ApplyManager.Manager} {c : Circumstance} {live : Live} {raw : Bytes}
  {source : String} {version : Bytes} {cfg : Config}

theorem progressedShape {s : Registries} {script : Build CompileResult} (tidy : Tidy script.calls) (made : Nat) :
    (progressed platform c s script made).registry.shape =
      (reachedFrom platform.runes (view s) (script.calls.take made)).foldl poolStep s.registry.shape := by
  have calls : ((stamp c.clock script.calls).take made).map (·.2) = script.calls.take made := by
    rw [List.map_take,stampCalls]
  have short : Tidy (((stamp c.clock script.calls).take made).map (·.2)) := by
    rw [calls]
    exact tidy.sublist (List.take_sublist ..)
  rw [progressed,runState,afterPools,reachedCalls short.routes,calls]
  rfl

def callsAtReturn (platform : Platform) (m : ApplyManager.Manager) (c : Circumstance) (live : Live) (raw : Bytes)
    (version : Bytes) : List Call :=
  let calls := submitted platform m c live raw (.resolved version)
  reachedFrom platform.runes (view live.registries) (calls.take (madeAtReturn c calls))

theorem callsChecked (checked : checkRequest platform m live raw = .ok cfg) :
    callsAtReturn platform m c live raw version = reachedFrom platform.runes (view live.registries)
      ((compileResolved platform c cfg).calls.take (madeAtReturn c (compileResolved platform c cfg).calls)) := by
  simp only [callsAtReturn,submitted,checked]

theorem callsWithin (checked : checkRequest platform m live raw = .ok cfg) :
    Within cfg (callsAtReturn platform m c live raw version) := by
  rw [callsChecked checked]
  exact (compileResolvedWithin platform c cfg).sublist ((throughSublist _ _).trans (List.take_sublist ..))

theorem resolvedShape :
    (applyResolvedVersion platform m c live raw source version .apply).live.registries.registry.shape =
      (callsAtReturn platform m c live raw version).foldl poolStep live.registries.registry.shape := by
  cases checked : checkRequest platform m live raw with
  | error e => simp [applyResolvedVersion,callsAtReturn,submitted,checked,reachedFrom,through]
  | ok cfg =>
    have tidy := compileResolvedTidy platform c cfg
    rw [callsChecked checked]
    unfold applyResolvedVersion madeAtReturn
    rw [checked]
    dsimp only
    cases timely : c.timing with
    | late cause progress =>
      cases progress with
      | loading => exact @progressedShape platform c live.registries _ tidy 0
      | calls made => exact @progressedShape platform c live.registries _ tidy made
    | inTime =>
      have ended := @executeState platform c live (compileResolved platform c cfg)
      rw [← progressedShape (c := c) tidy,← ended]
      dsimp only
      cases execute platform c live.registries (compileResolved platform c cfg) with
      | mk answer t => cases answer <;> rfl

end
end ReverseProxy.PoolCoverage
