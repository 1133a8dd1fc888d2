import ReverseProxy.ServingPools

/-! Concurrent Apply calls against a serial order. Nothing locks the admin provider
and the registry across a call, so a call compiles whatever the provider holds when it
merges and restores what it once found there. Calls that do not overlap, and that do
not fail after their first registry call, come out as if made one after the other. -/
namespace ReverseProxy.SerialApplies
open GoValues FiniteMap CallScript ConfigData ProviderMerge SnapshotBuild SnapshotStore ControlPlane RegistryEffect
open ApplyManager (Manager Live Circumstance CompileResult Result CompiledFrom compile compileResolved compileResolvedOk
  compileCases compileMerged buildProviders configVersion calm decoding onePool)
open PoolRegistry (PoolKey)
open ServingPools (Uses mergeOnePool)
open Transition (Runs anyStep runAll runAllRuns)

def present (s : Registries) (key : PoolKey) : Bool := (s.registry.pools.get key).isSome

def keyStep (had : PoolKey → Bool) : Call → PoolKey → Bool
  | .reconcile k .. => fun key => decide (key = k) || had key
  | .prune desired => fun key => decide (key ∈ desired) && had key
  | _ => had

theorem performKeys (runes : RuneTables) (s : Registries) (now : Int) (call : Call) :
    present (perform runes s (now,call)).2 = keyStep (present s) call := by
  funext key
  cases call with
  | reconcile k endpoints health opts =>
    change ((s.registry.pools.insert k _).get key).isSome = _
    rw [Map.getInsert]
    by_cases same : key = k
    · simp [keyStep,same]
    · simp [keyStep,same,present]
  | prune desired =>
    change ((s.registry.pools.keep _).get key).isSome = _
    rw [Map.getKeep]
    by_cases named : key ∈ desired
    · simp [keyStep,named,present]
    · simp [keyStep,named]
  | plan routeID cfg => rfl
  | outlier k endpoints cfg => rfl

theorem reconciledKeys (order : List (String × Pool)) (had : PoolKey → Bool) (key : PoolKey) :
    (order.map poolCall).foldl keyStep had key = true ↔ key ∈ order.map (·.1) ∨ had key = true := by
  induction order generalizing had with
  | nil => simp
  | cons e rest ih =>
    rw [List.map_cons,List.foldl_cons,ih]
    simp only [poolCall,keyStep,Bool.or_eq_true,decide_eq_true_eq,List.map_cons,List.mem_cons]
    tauto

theorem routeKeys {later : List Call} (pools : ∀ c ∈ later, c.pool? = none) (prunes : ∀ desired, .prune desired ∉ later)
    (had : PoolKey → Bool) : later.foldl keyStep had = had := by
  induction later with
  | nil => rfl
  | cons call rest ih =>
    have quiet : keyStep had call = had := by
      cases call with
      | reconcile k endpoints health opts => cases pools _ List.mem_cons_self
      | prune desired => exact absurd List.mem_cons_self (prunes desired)
      | plan routeID cfg => rfl
      | outlier k endpoints cfg => rfl
    rw [List.foldl_cons,quiet]
    exact ih (fun c member => pools c (List.mem_cons_of_mem _ member))
      (fun desired member => prunes desired (List.mem_cons_of_mem _ member))

theorem compileKeys {platform : Platform} {c : Circumstance} {providers : List Provider} {r : CompileResult}
    (ok : (compile platform c providers).result = .ok r) (had : PoolKey → Bool) (key : PoolKey) :
    (compile platform c providers).calls.foldl keyStep had key = true ↔
      ∃ name, r.compiled.pools.get name = some key := by
  rcases compileCases platform c providers with ⟨e,failed⟩ | ⟨cfg,-,same⟩
  · rw [failed] at ok
    cases ok
  · rw [same] at ok ⊢
    have routes := buildRoutesCalls platform.runes cfg.pools [] [] (items cfg.routes)
    obtain ⟨-,builds,-⟩ := compileResolvedOk.mp ok
    rw [ApplyManager.compileResolvedCalls ok,List.foldl_append,List.foldl_cons,routeKeys routes.noPool routes.noPrune]
    simp only [keyStep,Bool.and_eq_true,decide_eq_true_eq,reconciledKeys,builds.poolsKnown]
    constructor
    · rintro ⟨named,-⟩
      exact ⟨key,rfl,named⟩
    · rintro ⟨name,-,named⟩
      exact ⟨named,.inl named⟩

structure Face where
  keys : PoolKey → Bool
  assigned : TrafficRegistry.Assigned
  current : Option Snapshot
  admin : Option Config

def face (live : Live) : Face :=
  ⟨present live.registries,live.registries.traffic.assigned,live.store.current,live.admin⟩

def Matches (f : Face) : Prop :=
  ∀ key, f.keys key = true ↔ ∃ snapshot, f.current = some snapshot ∧ Uses snapshot key

structure Genuine (platform : Platform) (m : Manager) (ins : Install) : Prop where
  parsed : platform.parseJSON ins.raw = .ok ins.config
  version : ins.snapshot.version = configVersion platform ins.raw
  compiled : ∃ held ranges out, (m.hasAdmin = true → held = some ins.config) ∧
    merge ranges (buildProviders m held ins.config) = .ok out ∧ CompiledFrom platform out ins.snapshot.compiled

def lastConfig (start : State) (installs : List Install) : Option Config :=
  (installs.getLast?.map (·.config)).or start.live.admin

def lastSnapshot (start : State) (installs : List Install) : Option Snapshot :=
  (installs.getLast?.map (·.snapshot)).or start.live.store.current

def Active (t : Task) : Prop := t.caller = .waiting ∨ ∃ result, t.caller = .leaving result

def Completes (runes : RuneTables) (assigned : TrafficRegistry.Assigned) (script : Build CompileResult) : Prop :=
  (script.calls = [] ∧ ∃ e, script.result = .error e) ∨
  ((∃ r, script.result = .ok r) ∧ ∀ call ∈ script.calls, callFails runes assigned call = false)

/- The guard: calls do not overlap, and one that applies is neither given up nor
fails after its first registry call. -/
def Apart (platform : Platform) (m : Manager) (s : State) : Action → Prop
  | .push i => ∀ k t, k ≠ i → s.tasks[k]? = some t → ¬Active t
  | .load i => ∀ t, s.tasks[i]? = some t → t.mode = .apply → Completes platform.runes
      s.live.registries.traffic.assigned (compile platform t.around (buildProviders m s.live.admin t.config))
  | .giveUp i _ => ∀ t, s.tasks[i]? = some t → t.mode = .validate
  | _ => True

section
variable (platform : Platform) (m : Manager)

structure Building (f : Face) (t : Task) (script : Build CompileResult) (made : Nat) : Prop where
  from_ : ∃ held, (m.hasAdmin = true → held = some t.config) ∧
    script = compile platform t.around (buildProviders m held t.config)
  ends : (script.calls = [] ∧ (∃ e, script.result = .error e) ∧ Matches f) ∨
    ∃ r, script.result = .ok r ∧
      (∀ key, (script.calls.drop made).foldl keyStep f.keys key = true ↔ ∃ name, r.compiled.pools.get name = some key) ∧
      ∀ call ∈ script.calls.drop made, callFails platform.runes f.assigned call = false

structure Finished (f : Face) (t : Task) (r : CompileResult) : Prop where
  from_ : ∃ held ranges out, (m.hasAdmin = true → held = some t.config) ∧
    merge ranges (buildProviders m held t.config) = .ok out ∧ CompiledFrom platform out r.compiled
  keys : ∀ key, f.keys key = true ↔ ∃ name, r.compiled.pools.get name = some key

def Working (f : Face) (t : Task) : Prop :=
  match t.mode,t.worker with
  | .apply,.calling script made _ => Building platform m f t script made
  | .apply,.finished (.ok r) => Finished platform m f t r
  | _,_ => Matches f

def Doing (last : Option Config) (f : Face) (t : Task) : Prop :=
  match t.caller with
  | .waiting => (m.hasAdmin = true → f.admin = some t.config ∧ t.previous = last) ∧ Working platform m f t
  | .leaving result => Matches f ∧ (m.hasAdmin = true →
      if t.mode = .validate ∨ result.toOption.isNone then t.previous = last else f.admin = last)
  | _ => True

structure Good (t : Task) : Prop where
  parsed : platform.parseJSON t.raw = .ok t.config
  waits : t.mode = .apply → (t.worker = .loading ∨ ∃ script made replies, t.worker = .calling script made replies) →
    t.caller = .waiting
  apart : t.mode = .validate → ∀ script made replies, t.worker ≠ .calling script made replies

structure Serial (start s : State) : Prop where
  installs : ∀ ins ∈ s.installs, Genuine platform m ins
  current : s.live.store.current = lastSnapshot start s.installs
  good : ∀ t ∈ s.tasks, Good platform t
  alone : ∀ (i j : Nat) (t u : Task), s.tasks[i]? = some t → s.tasks[j]? = some u → Active t → Active u → i = j
  doing : ∀ t ∈ s.tasks, Active t → Doing platform m (lastConfig start s.installs) (face s.live) t
  quiet : (∀ t ∈ s.tasks, ¬Active t) →
    Matches (face s.live) ∧ (m.hasAdmin = true → s.live.admin = lastConfig start s.installs)

end

section
variable {platform : Platform} {m : Manager} {start s : State} {i : Nat} {t : Task}

theorem Good.applies (good : Good platform t) {script : Build CompileResult} {made : Nat} {replies : List Reply}
    (worker : t.worker = .calling script made replies) : t.mode = .apply := by
  cases other : t.mode with
  | apply => rfl
  | validate => exact absurd worker (good.apart other script made replies)

theorem serialFrame {live : Live} {requests : List (Option Snapshot)} (serial : Serial platform m start s)
    (same : face live = face s.live) : Serial platform m start { s with live := live, requests := requests } where
  installs := serial.installs
  current := (congrArg Face.current same).trans serial.current
  good := serial.good
  alone := serial.alone
  doing t member active := by
    change Doing platform m _ (face live) t
    rw [same]
    exact serial.doing t member active
  quiet none := by
    have old := serial.quiet none
    refine ⟨?_,fun admin => (congrArg Face.admin same).trans (old.2 admin)⟩
    change Matches (face live)
    rw [same]
    exact old.1

theorem serialTurn {before : State} {t' : Task} (serial : Serial platform m start s)
    (others : ∀ k u, k ≠ i → s.tasks[k]? = some u → ¬Active u) (found : s.tasks[i]? = some t)
    (tasks : before.tasks = s.tasks) (installs : ∀ ins ∈ before.installs, Genuine platform m ins)
    (current : before.live.store.current = lastSnapshot start before.installs) (good : Good platform t')
    (doing : Active t' → Doing platform m (lastConfig start before.installs) (face before.live) t')
    (quiet : ¬Active t' → Matches (face before.live) ∧
      (m.hasAdmin = true → before.live.admin = lastConfig start before.installs)) :
    Serial platform m start (setTask before i t') := by
  have bound : i < s.tasks.length := (List.getElem?_eq_some_iff.mp found).choose
  have own : (s.tasks.set i t')[i]? = some t' := List.getElem?_set_self bound
  have rest : ∀ k u, k ≠ i → (s.tasks.set i t')[k]? = some u → ¬Active u := by
    intro k u other at_
    rw [List.getElem?_set_ne (Ne.symm other)] at at_
    exact others k u other at_
  have only : ∀ k u, (s.tasks.set i t')[k]? = some u → Active u → k = i := by
    intro k u at_ active
    exact Decidable.byContradiction fun other => rest k u other at_ active
  have listed : (setTask before i t').tasks = s.tasks.set i t' := by rw [← tasks]; rfl
  constructor
  · exact installs
  · exact current
  · rw [listed]
    intro u member
    rcases List.mem_or_eq_of_mem_set member with old | rfl
    · exact serial.good u old
    · exact good
  · rw [listed]
    intro k l u v first second active also
    rw [only k u first active,only l v second also]
  · rw [listed]
    intro u member active
    obtain ⟨k,at_⟩ := List.mem_iff_getElem?.mp member
    cases only k u at_ active
    cases Option.some.inj (own.symm.trans at_)
    exact doing active
  · rw [listed]
    intro none
    exact quiet (none t' (List.mem_of_getElem? own))

theorem activeOthers (serial : Serial platform m start s) (found : s.tasks[i]? = some t) (active : Active t) :
    ∀ k u, k ≠ i → s.tasks[k]? = some u → ¬Active u :=
  fun k u other at_ also => other (serial.alone k i u t at_ found also active)

theorem serialIdle {t' : Task} (serial : Serial platform m start s) (found : s.tasks[i]? = some t) (idle : ¬Active t)
    (still : ¬Active t') (good : Good platform t') : Serial platform m start (setTask s i t') := by
  have bound : i < s.tasks.length := (List.getElem?_eq_some_iff.mp found).choose
  have old : ∀ (k : Nat) (u : Task), (s.tasks.set i t')[k]? = some u → Active u → s.tasks[k]? = some u := by
    intro k u at_ active
    by_cases same : i = k
    · subst same
      rw [List.getElem?_set_self bound] at at_
      cases Option.some.inj at_
      exact absurd active still
    · rwa [List.getElem?_set_ne same] at at_
  constructor
  · exact serial.installs
  · exact serial.current
  · intro u member
    rcases List.mem_or_eq_of_mem_set member with before | rfl
    · exact serial.good u before
    · exact good
  · intro k l u v first second active also
    exact serial.alone k l u v (old k u first active) (old l v second also) active also
  · intro u member active
    rcases List.mem_or_eq_of_mem_set member with before | rfl
    · exact serial.doing u before active
    · exact absurd active still
  · intro none
    apply serial.quiet
    intro u member active
    obtain ⟨k,at_⟩ := List.mem_iff_getElem?.mp member
    by_cases same : i = k
    · subst same
      cases Option.some.inj (found.symm.trans at_)
      exact idle active
    · exact none u (List.mem_of_getElem? ((List.getElem?_set_ne same).trans at_)) active

theorem doingWaiting {last : Option Config} {f : Face} (caller : t.caller = .waiting) :
    Doing platform m last f t ↔
      (m.hasAdmin = true → f.admin = some t.config ∧ t.previous = last) ∧ Working platform m f t := by
  unfold Doing
  rw [caller]

theorem doingLeaving {last : Option Config} {f : Face} {result : Except Message Result}
    (caller : t.caller = .leaving result) :
    Doing platform m last f t ↔ Matches f ∧ (m.hasAdmin = true →
      if t.mode = .validate ∨ result.toOption.isNone then t.previous = last else f.admin = last) := by
  unfold Doing
  rw [caller]

theorem serialSilent {worker : Worker} (serial : Serial platform m start s) (found : s.tasks[i]? = some t)
    (good : Good platform { t with worker := worker })
    (working : ∀ f, t.caller = .waiting → f = face s.live → (m.hasAdmin = true → f.admin = some t.config) →
      Working platform m f t → Working platform m f { t with worker := worker }) :
    Serial platform m start (setTask s i { t with worker := worker }) := by
  by_cases active : Active t
  · refine serialTurn serial (activeOthers serial found active) found rfl serial.installs serial.current good ?_ ?_
    · intro _
      have doing := serial.doing t (List.mem_of_getElem? found) active
      rcases active with waiting | ⟨result,leaving⟩
      · obtain ⟨admin,work⟩ := (doingWaiting waiting).mp doing
        exact (doingWaiting (t := { t with worker := worker }) waiting).mpr
          ⟨admin,working _ waiting rfl (fun has => (admin has).1) work⟩
      · exact (doingLeaving (t := { t with worker := worker }) leaving).mpr ((doingLeaving leaving).mp doing)
    · exact fun idle => absurd active idle
  · exact serialIdle serial found active active good

theorem workingCalling {f : Face} {script : Build CompileResult} {made : Nat} {replies : List Reply}
    (mode : t.mode = .apply) (worker : t.worker = .calling script made replies) :
    Working platform m f t ↔ Building platform m f t script made := by
  unfold Working
  rw [mode,worker]

theorem workingFinished {f : Face} {r : CompileResult} (mode : t.mode = .apply) (worker : t.worker = .finished (.ok r)) :
    Working platform m f t ↔ Finished platform m f t r := by
  unfold Working
  rw [mode,worker]

theorem workingFailed {f : Face} {e : Message} (worker : t.worker = .finished (.error e)) :
    Working platform m f t ↔ Matches f := by
  unfold Working
  cases mode : t.mode <;> rw [worker]

theorem workingLoading {f : Face} (worker : t.worker = .loading) : Working platform m f t ↔ Matches f := by
  unfold Working
  cases mode : t.mode <;> rw [worker]

theorem workingValidate {f : Face} (mode : t.mode = .validate) : Working platform m f t ↔ Matches f := by
  unfold Working
  rw [mode]

theorem loadedSerial (serial : Serial platform m start s) (apart : Apart platform m s (.load i))
    (found : s.tasks[i]? = some t) (worker : t.worker = .loading) :
    Serial platform m start (setTask s i { t with worker := loadWorker platform m s.live t }) := by
  have good := serial.good t (List.mem_of_getElem? found)
  apply serialSilent serial found
  · refine ⟨good.parsed,?_,?_⟩
    · intro mode _
      exact good.waits mode (.inl worker)
    · intro mode script made replies calling
      have validate : t.mode = .validate := mode
      simp [loadWorker,validate] at calling
  · intro f waiting same admin working
    have matches_ : Matches f := (workingLoading worker).mp working
    subst same
    by_cases mode : t.mode = .apply
    · have script : loadWorker platform m s.live t =
          .calling (compile platform t.around (buildProviders m s.live.admin t.config)) 0 [] := by
        simp [loadWorker,mode]
      refine (workingCalling (t := { t with worker := loadWorker platform m s.live t }) mode script).mpr ⟨⟨s.live.admin,admin,rfl⟩,?_⟩
      rcases apart t found mode with ⟨none,failed⟩ | ⟨⟨r,ok⟩,quiet⟩
      · exact .inl ⟨none,failed,matches_⟩
      · exact .inr ⟨r,ok,fun key => compileKeys ok _ key,quiet⟩
    · have validate : t.mode = .validate := by
        cases other : t.mode with
        | apply => exact absurd other mode
        | validate => rfl
      exact (workingValidate (t := { t with worker := loadWorker platform m s.live t }) validate).mpr matches_

theorem finishedSerial {script : Build CompileResult} {made : Nat} {replies : List Reply}
    (serial : Serial platform m start s) (found : s.tasks[i]? = some t)
    (worker : t.worker = .calling script made replies) (all : script.calls.length ≤ made) :
    Serial platform m start (setTask s i { t with worker := .finished (linked script replies) }) := by
  have good := serial.good t (List.mem_of_getElem? found)
  have mode := good.applies worker
  apply serialSilent serial found
  · refine ⟨good.parsed,?_,?_⟩
    · rintro - (impossible | ⟨_,_,_,impossible⟩)
      · cases impossible
      · cases impossible
    · intro _ script made replies impossible
      cases impossible
  · intro f waiting same admin working
    obtain ⟨⟨held,own,rfl⟩,ends⟩ := (workingCalling mode worker).mp working
    rcases ends with ⟨-,⟨e,failed⟩,matches_⟩ | ⟨r,ok,keys,-⟩
    · have error : linked (compile platform t.around (buildProviders m held t.config)) replies = .error e := by
        simp [linked,failed,Except.map]
      exact (workingFailed (t := { t with worker := .finished (linked _ replies) })
        (congrArg Worker.finished error)).mpr matches_
    · have done : linked (compile platform t.around (buildProviders m held t.config)) replies =
          .ok { r with compiled := linkPlans replies r.compiled } := by
        simp [linked,ok,Except.map]
      refine (workingFinished (t := { t with worker := .finished (linked _ replies) }) mode
        (congrArg Worker.finished done)).mpr ⟨?_,?_⟩
      · rcases compileCases platform t.around (buildProviders m held t.config) with ⟨e,failed⟩ | ⟨out,merged,resolved⟩
        · rw [failed] at ok
          cases ok
        · rw [resolved] at ok
          exact ⟨held,_,out,own,merged,_,_,replies,(compileResolvedOk.mp ok).2.1,rfl⟩
      · intro key
        have last := keys key
        rwa [List.drop_eq_nil_of_le all] at last

theorem buildingStep {live : Live} {script : Build CompileResult} {made : Nat} {call : Call} {now : Int}
    (building : Building platform m (face live) t script made) (next : script.calls[made]? = some call) :
    (∃ reply, (perform platform.runes live.registries (now,call)).1 = .ok reply) ∧
    Building platform m
      (face { live with registries := (perform platform.runes live.registries (now,call)).2 }) t script (made + 1) := by
  obtain ⟨⟨held,own,rfl⟩,ends⟩ := building
  obtain ⟨bound,at_⟩ := List.getElem?_eq_some_iff.mp next
  have split : (compile platform t.around (buildProviders m held t.config)).calls.drop made =
      call :: (compile platform t.around (buildProviders m held t.config)).calls.drop (made + 1) := by
    rw [List.drop_eq_getElem_cons bound,at_]
  rcases ends with ⟨none,-,-⟩ | ⟨r,ok,keys,quiet⟩
  · rw [none] at next
    cases next
  · rw [split] at keys quiet
    have timed : ((now,call) :: ((compile platform t.around (buildProviders m held t.config)).calls.drop (made + 1)).map
        (now,·)).map (·.2) = call :: (compile platform t.around (buildProviders m held t.config)).calls.drop (made + 1) := by
      simp [Function.comp_def]
    have tidy : Tidy (call :: (compile platform t.around (buildProviders m held t.config)).calls.drop (made + 1)) := by
      rw [← split]
      exact (ApplyRejection.compileTidy ..).sublist (List.drop_sublist ..)
    have same := @laterFails platform.runes live.registries now call
      (((compile platform t.around (buildProviders m held t.config)).calls.drop (made + 1)).map (now,·))
      (by rw [timed]; exact tidy.routes)
    have answered : (perform platform.runes live.registries (now,call)).1.toOption.isNone = false :=
      (performFails now call).trans (quiet call List.mem_cons_self)
    refine ⟨?_,⟨held,own,rfl⟩,.inr ⟨r,ok,?_,?_⟩⟩
    · cases answer : (perform platform.runes live.registries (now,call)).1 with
      | error e => simp [answer,Except.toOption] at answered
      | ok reply => exact ⟨reply,rfl⟩
    · intro key
      change (List.foldl keyStep (present (perform platform.runes live.registries (now,call)).2) _) key = true ↔ _
      rw [performKeys]
      exact keys key
    · intro later member
      have listed : later ∈ (((compile platform t.around (buildProviders m held t.config)).calls.drop (made + 1)).map
          (now,·)).map (·.2) := by simpa [Function.comp_def] using member
      exact (same later listed).trans (quiet later (List.mem_cons_of_mem _ member))

theorem calledSerial {script : Build CompileResult} {made : Nat} {replies : List Reply} {call : Call} {now : Int}
    (serial : Serial platform m start s) (found : s.tasks[i]? = some t)
    (worker : t.worker = .calling script made replies) (next : script.calls[made]? = some call) :
    Serial platform m start (setTask { s with live := { s.live with
      registries := (perform platform.runes s.live.registries (now,call)).2 } } i
      { t with worker := callWorker script made replies (perform platform.runes s.live.registries (now,call)).1 }) := by
  have good := serial.good t (List.mem_of_getElem? found)
  have mode := good.applies worker
  have waiting : t.caller = .waiting := good.waits mode (.inr ⟨script,made,replies,worker⟩)
  obtain ⟨admin,working⟩ := (doingWaiting waiting).mp (serial.doing t (List.mem_of_getElem? found) (.inl waiting))
  obtain ⟨⟨reply,answer⟩,building⟩ := @buildingStep platform m t s.live script made call now
    ((workingCalling mode worker).mp working) next
  rw [answer]
  refine serialTurn serial (activeOthers serial found (.inl waiting)) found rfl serial.installs serial.current ?_ ?_ ?_
  · exact ⟨good.parsed,fun _ _ => waiting,fun validate => nomatch mode.symm.trans validate⟩
  · intro _
    refine (doingWaiting (t := { t with worker := callWorker script made replies (.ok reply) }) waiting).mpr ⟨admin,?_⟩
    exact (workingCalling (t := { t with worker := callWorker script made replies (.ok reply) }) mode rfl).mpr
      ⟨building.from_,building.ends⟩
  · exact fun idle => absurd (.inl waiting) idle

theorem pushedSerial (serial : Serial platform m start s) (apart : Apart platform m s (.push i))
    (found : s.tasks[i]? = some t) (caller : t.caller = .entered) :
    Serial platform m start (setTask { s with live := pushAdmin m s.live t.config } i
      { t with previous := s.live.admin, worker := .loading, caller := .waiting }) := by
  have good := serial.good t (List.mem_of_getElem? found)
  have none : ∀ u ∈ s.tasks, ¬Active u := by
    intro u member active
    obtain ⟨k,at_⟩ := List.mem_iff_getElem?.mp member
    by_cases same : k = i
    · subst same
      cases Option.some.inj (found.symm.trans at_)
      rcases active with waiting | ⟨result,leaving⟩
      · cases caller.symm.trans waiting
      · cases caller.symm.trans leaving
    · exact apart k u same at_ active
  obtain ⟨matches_,last⟩ := serial.quiet none
  have still : Matches (face (pushAdmin m s.live t.config)) := by
    simpa [Matches,face] using matches_
  refine serialTurn serial (fun k u _ at_ => none u (List.mem_of_getElem? at_)) found rfl serial.installs ?_ ?_ ?_ ?_
  · simpa using serial.current
  · exact ⟨good.parsed,fun _ _ => rfl,fun _ _ _ _ => nofun⟩
  · intro _
    refine (doingWaiting rfl).mpr ⟨?_,(workingLoading rfl).mpr still⟩
    intro has
    refine ⟨?_,last has⟩
    change (pushAdmin m s.live t.config).admin = _
    rw [pushAdmin,if_pos has]
  · exact fun idle => absurd (.inl rfl) idle

theorem refusedSerial {e : Message} (serial : Serial platform m start s) (found : s.tasks[i]? = some t)
    (caller : t.caller = .waiting) (worker : t.worker = .finished (.error e)) :
    Serial platform m start (setTask s i { t with caller := .leaving (.error e) }) := by
  have good := serial.good t (List.mem_of_getElem? found)
  obtain ⟨admin,working⟩ := (doingWaiting caller).mp (serial.doing t (List.mem_of_getElem? found) (.inl caller))
  refine serialTurn serial (activeOthers serial found (.inl caller)) found rfl serial.installs serial.current ?_ ?_ ?_
  · refine ⟨good.parsed,?_,good.apart⟩
    rintro - (other | ⟨_,_,_,other⟩)
    · cases worker.symm.trans other
    · cases worker.symm.trans other
  · intro _
    refine (doingLeaving rfl).mpr ⟨(workingFailed worker).mp working,fun has => ?_⟩
    rw [if_pos (.inr rfl)]
    exact (admin has).2
  · exact fun idle => absurd (.inr ⟨_,rfl⟩) idle

theorem gaveUpSerial {cause : Message} (serial : Serial platform m start s) (apart : Apart platform m s (.giveUp i cause))
    (found : s.tasks[i]? = some t) (caller : t.caller = .waiting) :
    Serial platform m start (setTask s i { t with caller := .leaving (.error cause) }) := by
  have good := serial.good t (List.mem_of_getElem? found)
  have mode : t.mode = .validate := apart t found
  obtain ⟨admin,working⟩ := (doingWaiting caller).mp (serial.doing t (List.mem_of_getElem? found) (.inl caller))
  refine serialTurn serial (activeOthers serial found (.inl caller)) found rfl serial.installs serial.current ?_ ?_ ?_
  · exact ⟨good.parsed,fun apply => (nomatch mode.symm.trans apply),good.apart⟩
  · intro _
    refine (doingLeaving rfl).mpr ⟨(workingValidate mode).mp working,fun has => ?_⟩
    rw [if_pos (.inl mode)]
    exact (admin has).2
  · exact fun idle => absurd (.inr ⟨_,rfl⟩) idle

theorem acceptedSerial {r : CompileResult} (serial : Serial platform m start s) (found : s.tasks[i]? = some t)
    (caller : t.caller = .waiting) (worker : t.worker = .finished (.ok r)) :
    Serial platform m start
      (setTask { s with live := (published platform s t r).2, installs := installed s t (published platform s t r).1 } i
        { t with caller := .leaving (.ok (published platform s t r).1) }) := by
  have good := serial.good t (List.mem_of_getElem? found)
  obtain ⟨admin,working⟩ := (doingWaiting caller).mp (serial.doing t (List.mem_of_getElem? found) (.inl caller))
  have still : Good platform { t with caller := .leaving (.ok (published platform s t r).1) } := by
    refine ⟨good.parsed,?_,good.apart⟩
    rintro - (other | ⟨_,_,_,other⟩)
    · cases worker.symm.trans other
    · cases worker.symm.trans other
  have others := activeOthers serial found (.inl caller)
  by_cases mode : t.mode = .apply
  · have stored : installed s t (published platform s t r).1 =
        s.installs ++ [⟨t.raw,t.config,(published platform s t r).1.snapshot⟩] := by
      rw [installed,if_pos mode]
    have live : (published platform s t r).2 = { s.live with
        store := s.live.store.swap (some (published platform s t r).1.snapshot) t.around.swapTime } := by
      rw [published,ApplyManager.publish,if_pos mode]
    obtain ⟨from_,keys⟩ := (workingFinished mode worker).mp working
    rw [stored,live]
    refine serialTurn serial others found rfl ?_ ?_ still ?_ ?_
    · intro ins member
      rcases List.mem_append.mp member with old | new
      · exact serial.installs ins old
      · cases List.mem_singleton.mp new
        exact ⟨good.parsed,rfl,from_⟩
    · simp [lastSnapshot]
    · intro _
      refine (doingLeaving rfl).mpr ⟨?_,fun has => ?_⟩
      · intro key
        refine (keys key).trans ⟨?_,?_⟩
        · rintro ⟨name,known⟩
          exact ⟨(published platform s t r).1.snapshot,Store.swapCurrent ..,name,known⟩
        · rintro ⟨snapshot,same,name,known⟩
          cases Option.some.inj ((Store.swapCurrent ..).symm.trans same)
          exact ⟨name,known⟩
      · rw [if_neg (by simp [mode,Except.toOption])]
        refine ((admin has).1 : s.live.admin = some t.config).trans ?_
        simp [lastConfig]
    · exact fun idle => absurd (.inr ⟨_,rfl⟩) idle
  · have validate : t.mode = .validate := by
      cases other : t.mode with
      | apply => exact absurd other mode
      | validate => rfl
    have stored : installed s t (published platform s t r).1 = s.installs := by
      rw [installed,if_neg mode]
    have live : (published platform s t r).2 = s.live := by
      rw [published,ApplyManager.publish,if_neg mode]
    rw [stored,live]
    refine serialTurn serial others found rfl serial.installs serial.current still ?_ ?_
    · intro _
      refine (doingLeaving rfl).mpr ⟨(workingValidate validate).mp working,fun has => ?_⟩
      rw [if_pos (.inl validate)]
      exact (admin has).2
    · exact fun idle => absurd (.inr ⟨_,rfl⟩) idle

theorem leftSerial {result : Except Message Result} (serial : Serial platform m start s) (found : s.tasks[i]? = some t)
    (caller : t.caller = .leaving result) :
    Serial platform m start (setTask { s with live := restoreAdmin m s.live t result } i
      { t with caller := .returned result }) := by
  have good := serial.good t (List.mem_of_getElem? found)
  have active : Active t := .inr ⟨result,caller⟩
  obtain ⟨matches_,admin⟩ := (doingLeaving caller).mp (serial.doing t (List.mem_of_getElem? found) active)
  refine serialTurn serial (activeOthers serial found active) found rfl serial.installs ?_ ?_ ?_ ?_
  · simpa using serial.current
  · refine ⟨good.parsed,fun mode works => ?_,good.apart⟩
    cases caller.symm.trans (good.waits mode works)
  · rintro (waiting | ⟨_,leaving⟩)
    · cases waiting
    · cases leaving
  · intro _
    refine ⟨by simpa [Matches,face] using matches_,fun has => ?_⟩
    have last := admin has
    change (restoreAdmin m s.live t result).admin = _
    unfold restoreAdmin
    by_cases undone : t.mode = .validate ∨ result.toOption.isNone
    · rw [if_pos undone] at last
      rw [if_pos ⟨has,undone⟩]
      exact last
    · rw [if_neg undone] at last
      rw [if_neg (fun both => undone both.2)]
      exact last

theorem arrivedSerial {raw : Bytes} {source : String} {mode : ApplyManager.Mode} {around : Circumstance} {cfg : Config}
    (serial : Serial platform m start s) (parsed : platform.parseJSON raw = .ok cfg) :
    Serial platform m start { s with tasks := s.tasks ++
      [{ raw := raw, source := source, mode := mode, around := around, config := cfg }] } := by
  have fresh : ¬Active { raw := raw, source := source, mode := mode, around := around, config := cfg } := by
    rintro (waiting | ⟨_,leaving⟩)
    · cases waiting
    · cases leaving
  have old : ∀ (k : Nat) (u : Task), (s.tasks ++ [⟨raw,source,mode,around,cfg,none,.idle,.entered⟩])[k]? = some u →
      Active u → s.tasks[k]? = some u := by
    intro k u at_ active
    rw [List.getElem?_append] at at_
    split at at_
    · exact at_
    · have new := List.mem_singleton.mp (List.mem_of_getElem? at_)
      rw [new] at active
      exact absurd active fresh
  constructor
  · exact serial.installs
  · exact serial.current
  · intro u member
    rcases List.mem_append.mp member with before | new
    · exact serial.good u before
    · cases List.mem_singleton.mp new
      refine ⟨parsed,?_,fun _ _ _ _ => nofun⟩
      rintro - (other | ⟨_,_,_,other⟩)
      · cases other
      · cases other
  · intro k l u v first second active also
    exact serial.alone k l u v (old k u first active) (old l v second also) active also
  · intro u member active
    obtain ⟨k,at_⟩ := List.mem_iff_getElem?.mp member
    exact serial.doing u (List.mem_of_getElem? (old k u at_ active)) active
  · exact fun none => serial.quiet (fun u member => none u (List.mem_append_left _ member))

theorem registrySerial {r : PoolRegistry.Registry} (serial : Serial platform m start s)
    (keys : ∀ key, (r.pools.get key).isSome = (s.live.registries.registry.pools.get key).isSome) :
    Serial platform m start (setRegistry s r) := by
  have same : present { s.live.registries with registry := r } = present s.live.registries := funext keys
  refine serialFrame serial ?_
  unfold face
  rw [same]

theorem pickKeys (r : PoolRegistry.Registry) (k : PoolKey) (scan : List String) (outlierEjected : String → Bool)
    (now : Int) (key : PoolKey) :
    ((r.pick k scan outlierEjected now).2.pools.get key).isSome = (r.pools.get key).isSome := by
  unfold PoolRegistry.Registry.pick
  cases pool : r.pools.get k with
  | none => rfl
  | some p => exact Map.isSomeInsert pool _ key

theorem reapKeys (r : PoolRegistry.Registry) (now : Int) (key : PoolKey) :
    ((r.reapOnce now).pools.get key).isSome = (r.pools.get key).isSome := by
  change ((r.pools.mapValues _).get key).isSome = _
  rw [Map.getMapValues,Option.isSome_map]

theorem reportKeys (r : PoolRegistry.Registry) (k : PoolKey) (addr : String)
    (f : PoolRegistry.EndpointRuntime → PoolRegistry.EndpointRuntime) (key : PoolKey) :
    ((r.onEndpoint k addr f).pools.get key).isSome = (r.pools.get key).isSome := by
  unfold PoolRegistry.Registry.onEndpoint
  cases pool : r.pools.get k with
  | none => rfl
  | some p =>
    dsimp only
    cases endpoint : p.endpoints.get addr with
    | none => rfl
    | some e => exact Map.isSomeInsert pool _ key

theorem serialStep {s' : State} {a : Action} (serial : Serial platform m start s) (apart : Apart platform m s a)
    (taken : step platform m s a = some s') : Serial platform m start s' := by
  cases stepped taken with
  | turnedAway => exact serial
  | arrived checked measured => exact arrivedSerial serial (ApplyManager.checkedParsed checked)
  | pushed found caller => exact pushedSerial serial apart found caller
  | loaded found worker => exact loadedSerial serial apart found worker
  | called found worker next => exact calledSerial serial found worker next
  | finished found worker all => exact finishedSerial serial found worker all
  | refused found caller worker => exact refusedSerial serial found caller worker
  | accepted found caller worker => exact acceptedSerial serial found caller worker
  | gaveUp found caller => exact gaveUpSerial serial apart found caller
  | left found caller => exact leftSerial serial found caller
  | acquired current => exact serialFrame serial (by simp [face])
  | picked held known => exact registrySerial serial (pickKeys _ _ _ _ _)
  | released held => exact serialFrame serial (by simp [face])
  | reaped => exact registrySerial serial (reapKeys _ _)
  | reported => exact registrySerial serial (reportKeys _ _ _ _)

structure Settled (start : State) : Prop where
  tasks : start.tasks = []
  installs : start.installs = []
  pools : Matches (face start.live)

theorem settledSerial (settled : Settled start) : Serial platform m start start := by
  have noTask : ∀ t : Task, t ∉ start.tasks := by
    rw [settled.tasks]
    exact fun t => List.not_mem_nil
  refine ⟨?_,?_,fun t member => absurd member (noTask t),?_,fun t member => absurd member (noTask t),fun _ => ?_⟩
  · rw [settled.installs]
    exact fun ins member => absurd member List.not_mem_nil
  · simp [lastSnapshot,settled.installs]
  · exact fun i j t u at_ => absurd (List.mem_of_getElem? at_) (noTask t)
  · exact ⟨settled.pools,fun _ => by simp [lastConfig,settled.installs]⟩

end

theorem serialOutcome {platform : Platform} {m : Manager} {start s : State} {as : List Action} (settled : Settled start)
    (run : Runs (step platform m) (Apart platform m) start as s) :
    (∀ ins ∈ s.installs, Genuine platform m ins) ∧
    s.live.store.current = lastSnapshot start s.installs ∧
    ((∀ t ∈ s.tasks, ∃ result, t.caller = .returned result) →
      (m.hasAdmin = true → s.live.admin = lastConfig start s.installs) ∧
      ∀ key, (s.live.registries.registry.pools.get key).isSome = true ↔
        ∃ snapshot, s.live.store.current = some snapshot ∧ Uses snapshot key) := by
  have serial : Serial platform m start s := run.preserve (Serial platform m start)
    (fun _ _ _ kept apart taken => serialStep kept apart taken) (settledSerial settled)
  refine ⟨serial.installs,serial.current,fun returned => ?_⟩
  have none : ∀ t ∈ s.tasks, ¬Active t := by
    intro t member active
    obtain ⟨result,ended⟩ := returned t member
    rcases active with waiting | ⟨_,leaving⟩
    · cases ended.symm.trans waiting
    · cases ended.symm.trans leaving
  obtain ⟨pools,admin⟩ := serial.quiet none
  exact ⟨admin,pools⟩

def twoConfigs : Platform :=
  { decoding (onePool "new") with
    sha256 := id
    parseJSON := fun raw => .ok (if raw = [1] then onePool "old" else onePool "new") }

theorem genuineOld {ins : Install} (genuine : Genuine twoConfigs {} ins) (raw : ins.raw = [1]) :
    ins.snapshot.compiled.pools.get "old" = some "old" := by
  obtain ⟨parsed,-,held,ranges,out,own,merged,range,made,replies,builds,linked⟩ := genuine
  rw [raw] at parsed
  have config : ins.config = onePool "old" := (Except.ok.inj parsed).symm
  rw [own rfl,config] at merged
  have plain : Plain (onePool "old") := by constructor <;> simp [onePool,PoolMap.single,items]
  obtain ⟨same,found,sections⟩ := mergeSingle ranges (ApplyManager.adminProvider (some (onePool "old"))) plain rfl
  cases Except.ok.inj (found.symm.trans merged)
  have names : (range.order.map (·.1)).Perm ["old"] := by
    have perm := range.perm
    rw [sections.pools] at perm
    exact (perm.trans (ranges 0 (onePool "old").pools).perm).map (·.1)
  rw [linked]
  exact builds.poolsKnown.mpr ⟨rfl,names.mem_iff.mpr List.mem_cons_self⟩

def racing : List Action :=
  [.arrive [1] "api" .apply calm,.arrive [2] "api" .validate calm,.push 0,.push 1]

def raced : State := (runAll (step twoConfigs {}) anyStep {} racing).getD {}

def applying : Task :=
  { raw := [1], source := "api", mode := .apply, around := calm, config := onePool "old", worker := .loading, caller := .waiting }

theorem validatedConfigStored :
    ∃ as s ins done cause, Runs (step twoConfigs {}) anyStep {} as s ∧
      s.tasks.map (·.caller) = [.returned (.ok done),.returned (.error cause)] ∧ s.installs = [ins] ∧
      ins.raw = [1] ∧ ins.snapshot.version = configVersion twoConfigs [1] ∧
      ins.snapshot.compiled.pools.get "new" = some "new" ∧ ¬Genuine twoConfigs {} ins := by
  have first : runAll (step twoConfigs {}) anyStep {} racing = some raced := rfl
  have load : step twoConfigs {} raced (.load 0) = some (setTask raced 0
      { applying with worker := .calling (compileResolved twoConfigs calm (onePool "new")) 0 [] }) :=
    @loadStep _ _ _ 0 applying _ rfl rfl rfl (compileMerged (mergeOnePool (.inr rfl)))
  obtain ⟨s,rest,ins,done,cause,returned,stored,raw,version,known,gone⟩ :
      ∃ s, runAll (step twoConfigs {}) anyStep (setTask raced 0
          { applying with worker := .calling (compileResolved twoConfigs calm (onePool "new")) 0 [] })
        [.call 0 0,.call 0 0,.finish 0,.receive 0,.leave 0,.giveUp 1 ApplyManager.errCompileTimeout,.leave 1] = some s ∧
      ∃ ins done cause, s.tasks.map (·.caller) = [.returned (.ok done),.returned (.error cause)] ∧ s.installs = [ins] ∧
      ins.raw = [1] ∧ ins.snapshot.version = configVersion twoConfigs [1] ∧
      ins.snapshot.compiled.pools.get "new" = some "new" ∧ ins.snapshot.compiled.pools.get "old" = none :=
    ⟨_,rfl,_,_,_,rfl,rfl,rfl,rfl,rfl,rfl⟩
  refine ⟨_,s,ins,done,cause,(runAllRuns first).append (.cons trivial load (runAllRuns rest)),returned,stored,raw,version,known,?_⟩
  intro genuine
  cases gone.symm.trans (genuineOld genuine raw)

def back (t : Task) : Bool :=
  match t.caller with
  | .returned _ => true
  | _ => false

/- What `Apart` allows without a look at the providers. -/
def free (s : State) : Action → Bool
  | .push i => (List.range s.tasks.length).all (fun k => k = i || s.tasks[k]?.any back)
  | .load _ | .giveUp _ _ => false
  | _ => true

theorem freeApart (s : State) (a : Action) (allowed : free s a = true) : Apart twoConfigs {} s a := by
  cases a with
  | push i =>
    intro k t other at_ active
    have ended := List.all_eq_true.mp allowed k (List.mem_range.mpr (List.getElem?_eq_some_iff.mp at_).choose)
    rw [at_,decide_eq_false other] at ended
    rcases active with waiting | ⟨_,leaving⟩
    · simp [back,waiting] at ended
    · simp [back,leaving] at ended
  | load i => cases allowed
  | giveUp i e => cases allowed
  | _ => trivial

def onward (s : State) (as : List Action) : Option State := runAll (step twoConfigs {}) (fun s a => free s a = true) s as

def loaded (name : String) (t : Task) : Task :=
  let script := compileResolved twoConfigs calm (onePool name)
  { t with worker := match t.mode with
    | .apply => .calling script 0 []
    | .validate => .finished (ApplyManager.execute twoConfigs calm {} script).1 }

def load (name : String) (s : State) (i : Nat) : State := s.tasks[i]?.elim s (fun t => setTask s i (loaded name t))

theorem loads {s : State} {i : Nat} {t : Task} {name : String} (known : name = "old" ∨ name = "new") (found : s.tasks[i]? = some t)
    (worker : t.worker = .loading) (around : t.around = calm) (config : t.config = onePool name)
    (admin : s.live.admin = some (onePool name)) :
    Runs (step twoConfigs {}) (Apart twoConfigs {}) s [.load i] (load name s i) := by
  have merged : compile twoConfigs calm (buildProviders {} (some (onePool name)) (onePool name)) =
      compileResolved twoConfigs calm (onePool name) := compileMerged (mergeOnePool known)
  refine .cons ?_ ?_ (.nil _)
  · intro u same _
    cases Option.some.inj (found.symm.trans same)
    rw [around,config,admin,merged]
    rcases known with rfl | rfl <;>
    · refine .inr ⟨⟨_,rfl⟩,fun call member => ?_⟩
      rcases List.mem_cons.mp member with rfl | last
      · rfl
      · cases List.mem_singleton.mp last
        rfl
  · cases mode : t.mode <;>
    simp only [step, Action.task?, found, Option.bind_some, stepTask, worker, loadWorker, around, config, admin, merged, mode, load,
      loaded, Option.elim_some]

def first : State := { live := { admin := some (onePool "old") }, tasks := [applying] }

def validating : List Action :=
  [.call 0 0,.call 0 0,.finish 0,.receive 0,.leave 0,.arrive [2] "cli" .validate calm,.push 1]

def second : State := (onward (load "old" first 0) validating).getD {}

def reapplying : List Action := [.receive 1,.leave 1,.arrive [2] "api" .apply calm,.push 2]

def third : State := (onward (load "new" second 1) reapplying).getD {}

theorem threeCallsSerial :
    ∃ as s, Runs (step twoConfigs {}) (Apart twoConfigs {}) {} as s ∧ s.tasks.map (·.mode) = [.apply,.validate,.apply] ∧
      s.installs.map (·.raw) = [[1],[2]] ∧ (∀ ins ∈ s.installs, Genuine twoConfigs {} ins) ∧
      s.live.admin = some (onePool "new") ∧ ∀ key, (s.live.registries.registry.pools.get key).isSome = true ↔
        ∃ snapshot, s.live.store.current = some snapshot ∧ Uses snapshot key := by
  have one : onward {} [.arrive [1] "api" .apply calm,.push 0] = some first := rfl
  have two : onward (load "old" first 0) validating = some second := rfl
  have three : onward (load "new" second 1) reapplying = some third := rfl
  obtain ⟨s,last,modes,raws,admin,returned⟩ :
      ∃ s, onward (load "new" third 2) [.call 2 0,.call 2 0,.finish 2,.receive 2,.leave 2] = some s ∧
        s.tasks.map (·.mode) = [.apply,.validate,.apply] ∧ s.installs.map (·.raw) = [[1],[2]] ∧
        lastConfig {} s.installs = some (onePool "new") ∧ s.tasks.all back = true := ⟨_,rfl,rfl,rfl,rfl,rfl⟩
  have onwardRuns {u v : State} {as : List Action} (reached : onward u as = some v) :
      Runs (step twoConfigs {}) (Apart twoConfigs {}) u as v := (runAllRuns reached).weaken freeApart
  have run : Runs (step twoConfigs {}) (Apart twoConfigs {}) {} _ s :=
    (onwardRuns one).append ((loads (.inl rfl) rfl rfl rfl rfl rfl).append ((onwardRuns two).append
      ((loads (.inr rfl) rfl rfl rfl rfl rfl).append ((onwardRuns three).append
        ((loads (.inr rfl) rfl rfl rfl rfl rfl).append (onwardRuns last))))))
  have settled : Settled {} := ⟨rfl,rfl,fun key => ⟨nofun,fun ⟨_,now,_⟩ => nomatch now⟩⟩
  obtain ⟨genuine,-,after⟩ := serialOutcome settled run
  have ended : ∀ t ∈ s.tasks, ∃ result, t.caller = .returned result := by
    intro t member
    have done := List.all_eq_true.mp returned t member
    unfold back at done
    split at done
    · exact ⟨_,by assumption⟩
    · cases done
  obtain ⟨held,pools⟩ := after ended
  exact ⟨_,s,run,modes,raws,genuine,(held rfl).trans admin,pools⟩

end ReverseProxy.SerialApplies
