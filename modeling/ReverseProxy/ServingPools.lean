import ReverseProxy.ControlPlane

/-! Whether a request finds its pool. A registry pool serves while it has an ordered
endpoint that does not drain; every step but a prune keeps the pools that serve. A
prune drops whatever its own config does not name, so the pools of the current
snapshot, of snapshots still held and of builds under way are safe only from prunes
that name them. -/
namespace ReverseProxy.ServingPools
open GoValues FiniteMap CallScript ConfigData SnapshotBuild SnapshotStore ControlPlane
open Transition (Runs runAll runAllRuns anyStep)
open ApplyManager (Manager Circumstance CompileResult compile compileResolved compileResolvedOk applyResolvedVersion
  compileMerged adminProvider document decoding calm onePool)
open PoolRegistry (PoolKey EndpointRuntime PoolRuntime PickResult Registry)

def Serving (p : PoolRuntime) : Prop :=
  ∃ addr ∈ p.order, ∃ e, p.endpoints.get addr = some e ∧ e.isDraining = false

def Serves (r : Registry) (key : PoolKey) : Prop := ∃ p, r.pools.get key = some p ∧ Serving p

theorem pickFromSome {p : PoolRuntime} {from_ : List (String × EndpointRuntime)} (some_ : from_ ≠ []) :
    ∃ picked ∈ from_, p.pickFrom from_ = some picked := by
  have bound : p.rr % 2^64 % from_.length < from_.length := Nat.mod_lt _ (List.length_pos_iff.mpr some_)
  exact ⟨_,List.getElem_mem bound,List.getElem?_eq_getElem bound⟩

theorem servingCandidates {p : PoolRuntime} (serving : Serving p) (scan : List String) :
    ∃ x ∈ p.candidates scan, x.2.isDraining = false := by
  obtain ⟨addr,ordered,e,found,active⟩ := serving
  have listed : (addr,e) ∈ p.order.filterMap (fun a => (p.endpoints.get a).map (a,·)) :=
    List.mem_filterMap.mpr ⟨addr,ordered,by rw [found]; rfl⟩
  refine ⟨(addr,e),?_,active⟩
  unfold PoolRuntime.candidates
  rw [if_neg (List.ne_nil_of_mem listed)]
  exact listed

theorem servingPicks {p : PoolRuntime} (serving : Serving p) (scan : List String) (outlierEjected : String → Bool)
    (now : Int) :
    (p.pick scan outlierEjected now).1.selectedHealthy = true ∨
    (p.pick scan outlierEjected now).1.selectedFailOpen = true := by
  obtain ⟨x,candidate,active⟩ := servingCandidates serving scan
  have open_ : (p.candidates scan).filter (fun e => !e.2.isDraining) ≠ [] :=
    List.ne_nil_of_mem (List.mem_filter.mpr ⟨candidate,by simp [active]⟩)
  unfold PoolRuntime.pick
  dsimp only
  by_cases healthy : (p.candidates scan).filter (PoolRuntime.eligible outlierEjected now) = []
  · rw [if_neg (not_not_intro healthy),if_pos open_]
    obtain ⟨picked,-,found⟩ := @pickFromSome p _ open_
    rw [found]
    exact .inr rfl
  · rw [if_pos healthy]
    obtain ⟨picked,-,found⟩ := @pickFromSome p _ healthy
    rw [found]
    exact .inl rfl

theorem servesPicks {r : Registry} {key : PoolKey} (serves : Serves r key) (scan : List String)
    (outlierEjected : String → Bool) (now : Int) :
    ∃ result, (r.pick key scan outlierEjected now).1 = some result ∧
      (result.selectedHealthy = true ∨ result.selectedFailOpen = true) := by
  obtain ⟨p,found,serving⟩ := serves
  refine ⟨_,?_,servingPicks serving scan outlierEjected now⟩
  unfold Registry.pick
  rw [found]

def Open (p : PoolRuntime) (addr : String) : Prop := ∃ e, p.endpoints.get addr = some e ∧ e.isDraining = false

structure Tends (p p' : PoolRuntime) : Prop where
  order : p'.order = p.order
  opens : ∀ addr, Open p addr → Open p' addr

theorem Tends.refl (p : PoolRuntime) : Tends p p := ⟨rfl,fun _ active => active⟩

theorem Tends.serving {p p' : PoolRuntime} (tends : Tends p p') (serving : Serving p) : Serving p' := by
  obtain ⟨addr,ordered,active⟩ := serving
  exact ⟨addr,tends.order ▸ ordered,tends.opens addr active⟩

theorem endpointTends {p : PoolRuntime} {addr : String} {old new : EndpointRuntime} (found : p.endpoints.get addr = some old)
    (same : new.isDraining = old.isDraining) : Tends p { p with endpoints := p.endpoints.insert addr new } := by
  refine ⟨rfl,?_⟩
  rintro a ⟨e,present,active⟩
  by_cases own : a = addr
  · subst own
    cases Option.some.inj (found.symm.trans present)
    exact ⟨new,Map.getInsertSame _ _ _,same.trans active⟩
  · exact ⟨e,(Map.getInsertOther _ _ own).trans present,active⟩

theorem markSeenTends (p : PoolRuntime) (addr : String) (now : Int) : Tends p (p.markSeen addr now) := by
  unfold PoolRuntime.markSeen
  cases seen : p.endpoints.get addr with
  | none => exact ⟨rfl,fun _ active => active⟩
  | some e =>
    have kept := @endpointTends p addr e { e with lastSeen := now } seen rfl
    exact ⟨rfl,kept.opens⟩

theorem pickTends (p : PoolRuntime) (scan : List String) (outlierEjected : String → Bool) (now : Int) :
    Tends p (p.pick scan outlierEjected now).2 := by
  unfold PoolRuntime.pick
  dsimp only
  split
  · cases p.pickFrom _ with
    | none => exact .refl p
    | some picked => exact markSeenTends p picked.1 now
  · cases p.pickFrom _ with
    | none => exact .refl p
    | some picked => exact markSeenTends p picked.1 now

theorem reapTends (p : PoolRuntime) (now : Int) : Tends p (p.reap now) := by
  refine ⟨rfl,?_⟩
  rintro a ⟨e,present,active⟩
  refine ⟨e,?_,active⟩
  simp [PoolRuntime.reap,FiniteMap.Map.get,show p.endpoints a = some e from present,active]

theorem reconcileServing (p : PoolRuntime) {endpoints : List String} (some_ : endpoints ≠ []) (cfg : PolicyBuild.Health)
    (timeout : Duration) (now : Int) : Serving (p.reconcile endpoints cfg timeout now) := by
  obtain ⟨addr,member⟩ := List.exists_mem_of_ne_nil endpoints some_
  have shape := PoolRegistry.reconciledShape p endpoints cfg timeout now
  have active : (p.reconcile endpoints cfg timeout now).shape.get addr = some false := by
    rw [shape]
    exact if_pos member
  obtain ⟨e,found,draining⟩ := Option.map_eq_some_iff.mp active
  exact ⟨addr,member,e,found,draining⟩

theorem judgedDraining {e moved kept : EndpointRuntime} {p : Prop} [Decidable p] (active : moved.isDraining = false)
    (same : kept.isDraining = e.isDraining) :
    (if e.isDraining then e else if p then moved else kept).isDraining = e.isDraining := by
  cases draining : e.isDraining with
  | true => simp [draining]
  | false =>
    rw [if_neg Bool.false_ne_true]
    split
    · exact active
    · exact same.trans draining

theorem updateDraining (r : Report) (e : EndpointRuntime) : (r.update e).isDraining = e.isDraining := by
  cases r with
  | inflightStart => rfl
  | inflightDone => rfl
  | passiveSuccess => rfl
  | _ => exact judgedDraining rfl rfl

structure Tended (r r' : Registry) : Prop where
  pools : ∀ key, (r.pools.get key = none ∧ r'.pools.get key = none) ∨
    ∃ p p', r.pools.get key = some p ∧ r'.pools.get key = some p' ∧ Tends p p'

theorem Tended.refl (r : Registry) : Tended r r := by
  refine ⟨fun key => ?_⟩
  cases found : r.pools.get key with
  | none => exact .inl ⟨rfl,rfl⟩
  | some p => exact .inr ⟨p,p,rfl,rfl,.refl p⟩

theorem Tended.serves {r r' : Registry} (tended : Tended r r') {key : PoolKey} (serves : Serves r key) : Serves r' key := by
  obtain ⟨p,found,serving⟩ := serves
  rcases tended.pools key with ⟨absent,-⟩ | ⟨q,p',there,now,tends⟩
  · cases absent.symm.trans found
  · cases Option.some.inj (there.symm.trans found)
    exact ⟨p',now,tends.serving serving⟩

theorem poolTended {r : Registry} {k : PoolKey} {p p' : PoolRuntime} (found : r.pools.get k = some p) (tends : Tends p p') :
    Tended r { r with pools := r.pools.insert k p' } := by
  refine ⟨fun key => ?_⟩
  by_cases same : key = k
  · subst same
    exact .inr ⟨p,p',found,Map.getInsertSame _ _ _,tends⟩
  · have other := Map.getInsertOther r.pools p' same
    dsimp only
    rw [other]
    exact (Tended.refl r).pools key

theorem reportTended (r : Registry) (k : PoolKey) (addr : String) (x : Report) : Tended r (r.onEndpoint k addr x.update) := by
  unfold Registry.onEndpoint
  cases pool : r.pools.get k with
  | none => exact .refl r
  | some p =>
    dsimp only
    cases endpoint : p.endpoints.get addr with
    | none => exact .refl r
    | some old => exact poolTended pool (endpointTends endpoint (updateDraining x old))

theorem reapTended (r : Registry) (now : Int) : Tended r (r.reapOnce now) := by
  refine ⟨fun key => ?_⟩
  have reaped : (r.reapOnce now).pools.get key = (r.pools.get key).map (fun p => p.reap now) := rfl
  rw [reaped]
  cases found : r.pools.get key with
  | none => exact .inl ⟨rfl,rfl⟩
  | some p => exact .inr ⟨p,p.reap now,rfl,rfl,reapTends p now⟩

theorem reapPoolTended (r : Registry) (k : PoolKey) (now : Int) : Tended r (r.reapPool k now) := by
  refine ⟨fun key => ?_⟩
  have reaped : (r.reapPool k now).pools.get key = if key = k then (r.pools.get key).map (fun p => p.reap now)
      else r.pools.get key := rfl
  rw [reaped]
  split
  · exact (reapTended r now).pools key
  · exact (Tended.refl r).pools key

theorem pickTended (r : Registry) (k : PoolKey) (scan : List String) (outlierEjected : String → Bool) (now : Int) :
    Tended r (r.pick k scan outlierEjected now).2 := by
  unfold Registry.pick
  cases pool : r.pools.get k with
  | none => exact .refl r
  | some p => exact poolTended pool (pickTends p scan outlierEjected now)

theorem reconcileServes {r : Registry} {key : PoolKey} {endpoints : List String} (some_ : endpoints ≠ [])
    (cfg : PolicyBuild.Health) (now : Int) {k : PoolKey} (serves : key = k ∨ Serves r key) :
    Serves (r.reconcile k endpoints cfg now) key := by
  by_cases same : key = k
  · subst same
    exact ⟨_,Map.getInsertSame _ _ _,reconcileServing _ some_ cfg _ now⟩
  · obtain ⟨p,found,serving⟩ := serves.resolve_left same
    exact ⟨p,(Map.getInsertOther _ _ same).trans found,serving⟩

theorem enterServes {r : Registry} {key : PoolKey} (k : PoolKey) (cfg : PolicyBuild.Health) (serves : Serves r key) :
    Serves (r.enter k cfg) key := by
  obtain ⟨p,found,serving⟩ := serves
  unfold Registry.enter
  cases there : r.pools.get k with
  | some q => exact ⟨p,found,serving⟩
  | none =>
    have apart : key ≠ k := by
      rintro rfl
      cases there.symm.trans found
    exact ⟨p,(Map.getInsertOther _ _ apart).trans found,serving⟩

theorem pruneServes {r : Registry} {key : PoolKey} {desired : List PoolKey} (named : key ∈ desired)
    (serves : Serves r key) : Serves (r.prunePools desired) key := by
  obtain ⟨p,found,serving⟩ := serves
  refine ⟨p,?_,serving⟩
  change (r.pools.keep _).get key = _
  rw [Map.getKeep,if_pos (by simpa using named),found]

structure Sound (script : Build CompileResult) : Prop where
  tidy : Tidy script.calls
  endpoints : ∀ p ∈ reconciled script.calls, p.2 ≠ []
  pools : ∀ r, script.result = .ok r → ∀ name key, r.compiled.pools.get name = some key →
    key ∈ (reconciled script.calls).map (·.1)

theorem buildEndpoints (platform : Platform) (cfg : Config) (range : cfg.pools.Range) :
    ∀ p ∈ reconciled (buildSnapshot platform cfg range).calls, p.2 ≠ [] := by
  rcases buildCalls platform cfg range with none | pools | ⟨later,routes,full,all⟩
  · rw [none]
    simp [reconciled]
  · rw [pools,reconciledPools]
    intro p member
    obtain ⟨e,inside,rfl⟩ := List.mem_map.mp member
    simpa [hasEndpoints] using List.mem_takeWhile_imp inside
  · rw [all,fullReconciled routes]
    intro p member
    obtain ⟨e,inside,rfl⟩ := List.mem_map.mp member
    simpa [hasEndpoints] using full e inside

theorem compileResolvedSound (platform : Platform) (c : Circumstance) (cfg : Config) :
    Sound (compileResolved platform c cfg) where
  tidy := ApplyRejection.compileResolvedTidy platform c cfg
  endpoints := by
    rcases ApplyManager.compileResolvedBuild platform c cfg with none | build
    · rw [none]
      simp [reconciled]
    · rw [build]
      exact buildEndpoints platform cfg (c.buildRange cfg.pools)
  pools := by
    intro r ok name key known
    obtain ⟨-,builds,-⟩ := compileResolvedOk.mp ok
    rw [ApplyManager.compileResolvedCalls ok,fullReconciled (buildRoutesCalls ..),List.map_map]
    exact (builds.poolsKnown.mp known).2

theorem compileSound (platform : Platform) (c : Circumstance) (providers : List ProviderMerge.Provider) :
    Sound (compile platform c providers) := by
  rcases ApplyManager.compileCases platform c providers with ⟨e,failed⟩ | ⟨cfg,-,same⟩
  · have tidy := ApplyRejection.compileTidy platform c providers
    rw [failed] at tidy ⊢
    exact ⟨tidy,by simp [reconciled],fun r ok => nomatch ok⟩
  · rw [same]
    exact compileResolvedSound platform c cfg

def Uses (snapshot : Snapshot) (key : PoolKey) : Prop := ∃ name, snapshot.compiled.pools.get name = some key

def Pending (t : Task) (key : PoolKey) : Prop :=
  t.mode = .apply ∧ t.caller = .waiting ∧
  match t.worker with
  | .calling script made _ => key ∈ (reconciled (script.calls.take made)).map (·.1)
  | .finished (.ok r) => ∃ name, r.compiled.pools.get name = some key
  | _ => False

def Needed (s : State) (key : PoolKey) : Prop :=
  (∃ snapshot, s.live.store.current = some snapshot ∧ Uses snapshot key) ∨
  (∃ snapshot, some snapshot ∈ s.requests ∧ Uses snapshot key) ∨
  ∃ t ∈ s.tasks, Pending t key

def Shielded (s : State) (i : Nat) (key : PoolKey) : Prop :=
  (∃ snapshot, s.live.store.current = some snapshot ∧ Uses snapshot key) ∨
  (∃ snapshot, some snapshot ∈ s.requests ∧ Uses snapshot key) ∨
  ∃ k t, k ≠ i ∧ s.tasks[k]? = some t ∧ Pending t key

def nextCall : Worker → Option Call
  | .calling script made _ => script.calls[made]?
  | _ => none

def Spares (s : State) (a : Action) : Prop :=
  ∀ i now t desired, a = .call i now → s.tasks[i]? = some t → nextCall t.worker = some (.prune desired) →
    ∀ key, Shielded s i key → key ∈ desired

structure Served (s : State) : Prop where
  pools : ∀ key, Needed s key → Serves s.live.registries.registry key
  scripts : ∀ t ∈ s.tasks, ∀ script made replies, t.worker = .calling script made replies → Sound script

structure Ready (s : State) : Prop where
  tasks : s.tasks = []
  requests : s.requests = []
  pools : ∀ snapshot key, s.live.store.current = some snapshot → Uses snapshot key →
    Serves s.live.registries.registry key

theorem readyServed {s : State} (ready : Ready s) : Served s := by
  constructor
  · intro key needed
    rcases needed with ⟨snapshot,current,uses⟩ | ⟨snapshot,held,-⟩ | ⟨t,member,-⟩
    · exact ready.pools snapshot key current uses
    · rw [ready.requests] at held
      cases held
    · rw [ready.tasks] at member
      cases member
  · intro t member
    rw [ready.tasks] at member
    cases member

section
variable {platform : Platform} {m : Manager} {s s' : State} {i : Nat} {t : Task}

theorem neededSet {before : State} {t' : Task} {key : PoolKey}
    (current : before.live.store.current = s.live.store.current) (requests : before.requests = s.requests)
    (tasks : before.tasks = s.tasks) (needed : Needed (setTask before i t') key) : Needed s key ∨ Pending t' key := by
  rcases needed with ⟨snapshot,now,uses⟩ | ⟨snapshot,held,uses⟩ | ⟨x,member,pending⟩
  · exact .inl (.inl ⟨snapshot,current.symm.trans now,uses⟩)
  · exact .inl (.inr (.inl ⟨snapshot,requests ▸ held,uses⟩))
  · have listed : x ∈ before.tasks.set i t' := member
    rw [tasks] at listed
    rcases List.mem_or_eq_of_mem_set listed with old | rfl
    · exact .inl (.inr (.inr ⟨x,old,pending⟩))
    · exact .inr pending

theorem scriptsSet {before : State} {t' : Task} (served : Served s) (tasks : before.tasks = s.tasks)
    (own : ∀ script made replies, t'.worker = .calling script made replies → Sound script) :
    ∀ x ∈ (setTask before i t').tasks, ∀ script made replies, x.worker = .calling script made replies → Sound script := by
  intro x member
  have listed : x ∈ before.tasks.set i t' := member
  rw [tasks] at listed
  rcases List.mem_or_eq_of_mem_set listed with old | rfl
  · exact served.scripts x old
  · exact own

theorem quietTask {before : State} {t' : Task} (served : Served s) (found : s.tasks[i]? = some t)
    (current : before.live.store.current = s.live.store.current) (requests : before.requests = s.requests)
    (tasks : before.tasks = s.tasks) (registry : before.live.registries.registry = s.live.registries.registry)
    (pending : ∀ key, Pending t' key → Pending t key)
    (own : ∀ script made replies, t'.worker = .calling script made replies → Sound script) :
    Served (setTask before i t') := by
  constructor
  · intro key needed
    change Serves before.live.registries.registry key
    rw [registry]
    rcases neededSet current requests tasks needed with old | new
    · exact served.pools key old
    · exact served.pools key (.inr (.inr ⟨t,List.mem_of_getElem? found,pending key new⟩))
  · exact scriptsSet served tasks own

theorem idlePending {t' : Task} (away : t'.caller ≠ .waiting) (key : PoolKey) : ¬Pending t' key :=
  fun pending => away pending.2.1

theorem takeReconciled {calls : List Call} {made : Nat} {call : Call} (next : calls[made]? = some call) {key : PoolKey}
    (member : key ∈ (reconciled (calls.take (made + 1))).map (·.1)) :
    key ∈ (reconciled (calls.take made)).map (·.1) ∨ ∃ endpoints health opts, call = .reconcile key endpoints health opts := by
  rw [List.take_add_one,next,Option.toList_some,reconciled,List.filterMap_append,List.map_append] at member
  rcases List.mem_append.mp member with old | new
  · exact .inl old
  · right
    cases call <;> simp [Call.pool?] at new
    subst new
    exact ⟨_,_,_,rfl⟩

theorem performServes {script : Build CompileResult} (sound : Sound script) {made : Nat} {call : Call}
    (next : script.calls[made]? = some call) {now : Int} {key : PoolKey}
    (named : ∀ desired, call = .prune desired → key ∈ desired)
    (serves : (∃ endpoints health opts, call = .reconcile key endpoints health opts) ∨ Serves s.live.registries.registry key) :
    Serves (perform platform.runes s.live.registries (now,call)).2.registry key := by
  have listed : call ∈ script.calls := List.mem_of_getElem? next
  cases call with
  | reconcile k endpoints health opts =>
    have some_ : endpoints ≠ [] := sound.endpoints (k,endpoints) (List.mem_filterMap.mpr ⟨_,listed,rfl⟩)
    refine reconcileServes some_ health now ?_
    rcases serves with ⟨_,_,_,same⟩ | before
    · cases same
      exact .inl rfl
    · exact .inr before
  | prune desired =>
    refine pruneServes (named desired rfl) ?_
    rcases serves with ⟨_,_,_,same⟩ | before
    · cases same
    · exact before
  | plan routeID cfg =>
    rcases serves with ⟨_,_,_,same⟩ | before
    · cases same
    · exact before
  | outlier k endpoints cfg =>
    rcases serves with ⟨_,_,_,same⟩ | before
    · cases same
    · exact before

theorem calledServed {script : Build CompileResult} {made : Nat} {replies : List Reply} {call : Call} {now : Int}
    (served : Served s) (found : s.tasks[i]? = some t) (worker : t.worker = .calling script made replies)
    (next : script.calls[made]? = some call) (spares : Spares s (.call i now)) :
    Served (setTask { s with live := { s.live with
      registries := (perform platform.runes s.live.registries (now,call)).2 } } i
      { t with worker := callWorker script made replies (perform platform.runes s.live.registries (now,call)).1 }) := by
  have member : t ∈ s.tasks := List.mem_of_getElem? found
  have sound := served.scripts t member script made replies worker
  have pending : ∀ answer key, Pending { t with worker := callWorker script made replies answer } key →
      Pending t key ∨ ∃ endpoints health opts, call = .reconcile key endpoints health opts := by
    intro answer key waiting
    obtain ⟨mode,caller,rest⟩ := waiting
    cases answer with
    | error e => cases rest
    | ok r =>
      rcases takeReconciled next rest with old | new
      · refine .inl ⟨mode,caller,?_⟩
        rw [worker]
        exact old
      · exact .inr new
  constructor
  · intro key needed
    have reason : Needed s key ∨ ∃ endpoints health opts, call = .reconcile key endpoints health opts := by
      rcases neededSet rfl rfl rfl needed with old | new
      · exact .inl old
      · rcases pending _ key new with waiting | now
        · exact .inl (.inr (.inr ⟨t,member,waiting⟩))
        · exact .inr now
    refine performServes sound next ?_ (reason.symm.imp_right (served.pools key))
    rintro desired rfl
    rcases reason with old | ⟨_,_,_,same⟩
    · -- what the call itself reconciled, its own prune names
      have own : Pending t key → key ∈ desired := by
        rintro ⟨-,-,rest⟩
        rw [worker] at rest
        obtain ⟨p,inside,rfl⟩ := List.mem_map.mp rest
        exact sound.tidy.kept desired (List.mem_of_getElem? next) p
          (((List.take_sublist ..).filterMap _).subset inside)
      have upcoming : nextCall t.worker = some (.prune desired) := by
        rw [worker]
        exact next
      rcases old with current | held | ⟨x,listed,waiting⟩
      · exact spares i now t desired rfl found upcoming key (.inl current)
      · exact spares i now t desired rfl found upcoming key (.inr (.inl held))
      · obtain ⟨k,at_⟩ := List.mem_iff_getElem?.mp listed
        by_cases same : k = i
        · subst same
          cases Option.some.inj (found.symm.trans at_)
          exact own waiting
        · exact spares i now t desired rfl found upcoming key (.inr (.inr ⟨k,x,same,at_,waiting⟩))
    · cases same
  · refine scriptsSet served rfl ?_
    intro script' made' replies' calling
    cases answer : (perform platform.runes s.live.registries (now,call)).1 with
    | error e => simp [answer,callWorker] at calling
    | ok r =>
      simp only [answer,callWorker,Worker.calling.injEq] at calling
      rw [← calling.1]
      exact sound

theorem registryServed {r : Registry} (served : Served s) (keeps : ∀ key, Serves s.live.registries.registry key → Serves r key) :
    Served (setRegistry s r) where
  pools key needed := keeps key (served.pools key needed)
  scripts := served.scripts

theorem awayTask {before : State} {caller : Caller} (served : Served s) (found : s.tasks[i]? = some t)
    (current : before.live.store.current = s.live.store.current) (requests : before.requests = s.requests)
    (tasks : before.tasks = s.tasks) (registry : before.live.registries.registry = s.live.registries.registry)
    (away : caller ≠ .waiting) : Served (setTask before i { t with caller := caller }) :=
  quietTask served found current requests tasks registry (fun key pending => absurd pending (idlePending away key))
    (served.scripts t (List.mem_of_getElem? found))

theorem loadedServed (served : Served s) (found : s.tasks[i]? = some t) :
    Served (setTask s i { t with worker := loadWorker platform m s.live t }) := by
  refine quietTask served found rfl rfl rfl rfl ?_ ?_
  · rintro key ⟨mode,caller,rest⟩
    have apply : t.mode = .apply := mode
    simp [loadWorker,apply,reconciled] at rest
  · intro script made replies calling
    unfold loadWorker at calling
    cases mode : t.mode with
    | apply =>
      simp only [mode,Worker.calling.injEq] at calling
      rw [← calling.1]
      exact compileSound platform t.around _
    | validate => simp [mode] at calling

theorem finishedServed {script : Build CompileResult} {made : Nat} {replies : List Reply} (served : Served s)
    (found : s.tasks[i]? = some t) (worker : t.worker = .calling script made replies)
    (all : script.calls.length ≤ made) :
    Served (setTask s i { t with worker := .finished (linked script replies) }) := by
  have sound := served.scripts t (List.mem_of_getElem? found) script made replies worker
  refine quietTask served found rfl rfl rfl rfl ?_ (fun _ _ _ calling => nomatch calling)
  rintro key ⟨mode,caller,rest⟩
  refine ⟨mode,caller,?_⟩
  rw [worker]
  dsimp only
  rw [List.take_of_length_le all]
  cases result : script.result with
  | error e =>
    simp only [linked,result,Except.map] at rest
  | ok r =>
    simp only [linked,result,Except.map] at rest
    obtain ⟨name,known⟩ := rest
    exact sound.pools r result name key known

theorem acceptedServed {r : CompileResult} (served : Served s) (found : s.tasks[i]? = some t)
    (caller : t.caller = .waiting) (worker : t.worker = .finished (.ok r)) :
    Served (setTask { s with live := (published platform s t r).2, installs := installed s t (published platform s t r).1 }
      i { t with caller := .leaving (.ok (published platform s t r).1) }) := by
  by_cases mode : t.mode = .apply
  · have waiting : ∀ name key, r.compiled.pools.get name = some key → Pending t key := by
      intro name key known
      refine ⟨mode,caller,?_⟩
      rw [worker]
      exact ⟨name,known⟩
    have registry : (published platform s t r).2.registries = s.live.registries := by
      simp [published,ApplyManager.publish,mode]
    have current : (published platform s t r).2.store.current = some (published platform s t r).1.snapshot := by
      simp [published,ApplyManager.publish,mode]
    constructor
    · intro key needed
      change Serves (published platform s t r).2.registries.registry key
      rw [registry]
      apply served.pools key
      rcases needed with ⟨snapshot,now,name,known⟩ | held | ⟨x,member,pending⟩
      · cases Option.some.inj (current.symm.trans now)
        exact .inr (.inr ⟨t,List.mem_of_getElem? found,waiting name key known⟩)
      · exact .inr (.inl held)
      · rcases List.mem_or_eq_of_mem_set member with old | rfl
        · exact .inr (.inr ⟨x,old,pending⟩)
        · exact absurd pending (idlePending (by simp) key)
    · exact scriptsSet served rfl (served.scripts t (List.mem_of_getElem? found))
  · refine awayTask served found ?_ rfl rfl ?_ (by simp)
    · simp [published,ApplyManager.publish,mode]
    · simp [published,ApplyManager.publish,mode]

theorem requestsServed {store : Store} {requests : List (Option Snapshot)} (served : Served s)
    (current : store.current = s.live.store.current)
    (known : ∀ snapshot, some snapshot ∈ requests → some snapshot ∈ s.requests ∨ s.live.store.current = some snapshot) :
    Served { s with live := { s.live with store := store }, requests := requests } where
  pools key needed := by
    apply served.pools key
    rcases needed with ⟨snapshot,now,uses⟩ | ⟨snapshot,held,uses⟩ | tasks
    · exact .inl ⟨snapshot,current.symm.trans now,uses⟩
    · rcases known snapshot held with old | taken
      · exact .inr (.inl ⟨snapshot,old,uses⟩)
      · exact .inl ⟨snapshot,taken,uses⟩
    · exact .inr (.inr tasks)
  scripts := served.scripts

theorem servedStep {a : Action} (served : Served s) (spares : Spares s a) (taken : step platform m s a = some s') :
    Served s' := by
  cases stepped taken with
  | turnedAway => exact served
  | arrived checked measured =>
    constructor
    · intro key needed
      apply served.pools key
      rcases needed with current | held | ⟨x,member,pending⟩
      · exact .inl current
      · exact .inr (.inl held)
      · rcases List.mem_append.mp member with old | new
        · exact .inr (.inr ⟨x,old,pending⟩)
        · cases List.mem_singleton.mp new
          exact absurd pending (idlePending (by simp) key)
    · intro x member script made replies calling
      rcases List.mem_append.mp member with old | new
      · exact served.scripts x old script made replies calling
      · cases List.mem_singleton.mp new
        cases calling
  | pushed found caller =>
    refine quietTask served found (by simp) rfl rfl (by simp) (fun key pending => ?_) (fun _ _ _ calling => nomatch calling)
    exact absurd pending.2.2 id
  | loaded found worker => exact loadedServed served found
  | called found worker next => exact calledServed served found worker next spares
  | finished found worker all => exact finishedServed served found worker all
  | refused found caller worker => exact awayTask served found rfl rfl rfl rfl (by simp)
  | accepted found caller worker => exact acceptedServed served found caller worker
  | gaveUp found caller => exact awayTask served found rfl rfl rfl rfl (by simp)
  | left found caller => exact awayTask served found (by simp) rfl rfl (by simp) (by simp)
  | acquired current =>
    exact requestsServed served (Store.acquireCurrent _) fun _ held => heldFrom (stepped taken) held
  | picked held known => exact registryServed served fun _ => (pickTended ..).serves
  | released =>
    exact requestsServed served (Store.releaseCurrent _ _) fun _ held => heldFrom (stepped taken) held
  | reaped => exact registryServed served fun _ => (reapTended ..).serves
  | reported => exact registryServed served fun _ => (reportTended ..).serves

end

def booted : State :=
  { live := (applyResolvedVersion (decoding (onePool "old")) {} calm {} document "boot" [] .apply).live }

def opening : List Action := [.acquire,.arrive document "api" .apply calm,.push 0]

def underway (name : String) : State :=
  (runAll (step (decoding (onePool name)) {}) anyStep booted opening).getD {}

def loading (name : String) : Task :=
  { raw := document, source := "api", mode := .apply, around := calm, config := onePool name, worker := .loading, caller := .waiting }

def loaded (name : String) : State :=
  setTask (underway name) 0 { loading name with
    worker := .calling (compileResolved (decoding (onePool name)) calm (onePool name)) 0 [] }

theorem mergeOnePool {name : String} (known : name = "old" ∨ name = "new") :
    ProviderMerge.merge calm.mergeRanges [adminProvider (some (onePool name))] = .ok (onePool name) := by
  rcases known with rfl | rfl <;>
  · simp [ProviderMerge.merge,ProviderMerge.loadAll,adminProvider,bind,Except.bind]
    rfl

theorem applyDropsPool :
    ∃ as s snapshot result, Runs (step (decoding (onePool "new")) {}) anyStep booted as s ∧
      s.tasks.map (·.caller) = [.returned (.ok result)] ∧ some snapshot ∈ s.requests ∧
      snapshot.compiled.pools.get "old" = some "old" ∧
      (s.live.registries.registry.pick "old" [] (fun _ => false) 0).1 = none := by
  have first : runAll (step (decoding (onePool "new")) {}) anyStep booted opening = some (underway "new") := rfl
  have load : step (decoding (onePool "new")) {} (underway "new") (.load 0) = some (loaded "new") :=
    @loadStep _ _ _ 0 (loading "new") _ rfl rfl rfl (compileMerged (mergeOnePool (.inr rfl)))
  obtain ⟨s,rest,snapshot,result,returned,held,known,gone⟩ :
      ∃ s, runAll (step (decoding (onePool "new")) {}) anyStep (loaded "new")
        [.call 0 0,.call 0 0,.finish 0,.receive 0,.leave 0] = some s ∧
      ∃ snapshot result, s.tasks.map (·.caller) = [.returned (.ok result)] ∧ some snapshot ∈ s.requests ∧
      snapshot.compiled.pools.get "old" = some "old" ∧
      (s.live.registries.registry.pick "old" [] (fun _ => false) 0).1 = none :=
    ⟨_,rfl,_,_,rfl,List.mem_cons_self,rfl,rfl⟩
  exact ⟨_,s,snapshot,result,(runAllRuns first).append (.cons trivial load (runAllRuns rest)),returned,held,known,gone⟩

def prunes (s : State) : Action → Bool
  | .call i _ =>
    match s.tasks[i]?.bind (fun t => nextCall t.worker) with
    | some (.prune _) => true
    | _ => false
  | _ => false

theorem otherStepsSpare (s : State) (a : Action) (other : prunes s a = false) : Spares s a := by
  rintro i now t desired rfl found next
  simp [prunes,found,next] at other

theorem bootedUses {snapshot : Snapshot} {key : PoolKey} (current : booted.live.store.current = some snapshot)
    (uses : Uses snapshot key) : key = "old" := by
  cases current
  obtain ⟨name,known⟩ := uses
  have unique : ((([("old","old")] : List (String × PoolKey))).map (·.1)).Nodup := by simp
  have listed : (name,key) ∈ [("old","old")] := (Map.keyedMember unique).mp known
  cases List.mem_singleton.mp listed
  rfl

theorem bootedReady : Ready booted := by
  refine ⟨rfl,rfl,?_⟩
  intro snapshot key current uses
  rw [bootedUses current uses]
  exact ⟨_,rfl,"10.0.0.1:80",List.mem_cons_self,_,rfl,rfl⟩

end ReverseProxy.ServingPools
