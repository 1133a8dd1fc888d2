import ReverseProxy.ServingPools

/-! The control plane with Registry.Reconcile and Registry.Pick in two steps each. Both
find the pool under the registry's lock, where Reconcile makes the one that is missing,
and go on with what they found after the unlock. A prune in between takes the pool out
of the registry, and what is done to it then is lost. -/
namespace ReverseProxy.PoolSteps
open GoValues FiniteMap CallScript ConfigData SnapshotBuild SnapshotStore
open ApplyManager (Manager CompileResult compileMerged document decoding calm onePool)
open ControlPlane (Task Worker setTask setRegistry callWorker setTaskFound)
open PoolRegistry (PoolKey Registry)
open ServingPools (Serves Uses Pending Needed Served Ready Sound Tended nextCall)
open Transition (Runs anyStep runAll runAllRuns)

inductive Holder where
  | call (i : Nat)
  | request (j : Nat)
  deriving DecidableEq, Repr

/- A pool between the two steps; `inPlace` until a prune removes it. -/
structure Hand where
  key : PoolKey
  inPlace : Bool := true
  deriving DecidableEq, Repr

structure State where
  base : ControlPlane.State := {}
  hands : Map Holder Hand := Map.empty

inductive Action where
  | enter (i : Nat)
  | look (j : Nat) (pool : String)
  | reapPool (key : PoolKey) (now : Int)
  | act (a : ControlPlane.Action)

abbrev pools (s : ControlPlane.State) : Registry := s.live.registries.registry

def upcoming (s : ControlPlane.State) (i : Nat) : Option Call := s.tasks[i]?.bind (fun t => nextCall t.worker)

def poolKey (s : ControlPlane.State) (j : Nat) (pool : String) : Option PoolKey :=
  (s.requests[j]?.bind id).bind (fun snapshot => snapshot.compiled.pools.get pool)

def enter (s : State) (i : Nat) : Option State :=
  match upcoming s.base i,s.hands.get (.call i) with
  | some (.reconcile key _ health _),none =>
    some ⟨setRegistry s.base ((pools s.base).enter key health),s.hands.insert (.call i) { key := key }⟩
  | _,_ => none

/- Without the pool Pick is over and answers false. -/
def look (s : State) (j : Nat) (pool : String) : Option State :=
  match poolKey s.base j pool,s.hands.get (.request j) with
  | some key,none =>
    some (if ((pools s.base).pools.get key).isSome then { s with hands := s.hands.insert (.request j) { key := key } } else s)
  | _,_ => none

def settle (s : State) (i : Nat) (t : Task) (hand : Hand) (now : Int) : Option State :=
  match t.worker with
  | .calling script made replies =>
    match script.calls[made]? with
    | some (.reconcile _ endpoints health _) =>
      let base := if hand.inPlace then setRegistry s.base ((pools s.base).settle hand.key endpoints health now) else s.base
      some ⟨setTask base i { t with worker := callWorker script made replies (.ok []) },s.hands.erase (.call i)⟩
    | _ => none
  | _ => none

def pick (s : State) (j : Nat) (hand : Hand) (scan : List String) (outlierEjected : String → Bool) (now : Int) : State :=
  let base := if hand.inPlace then setRegistry s.base ((pools s.base).pick hand.key scan outlierEjected now).2 else s.base
  ⟨base,s.hands.erase (.request j)⟩

def pruned (desired : List PoolKey) (hand : Hand) : Hand :=
  { hand with inPlace := hand.inPlace && decide (hand.key ∈ desired) }

section
variable (platform : Platform) (m : Manager)

def plain (s : State) (a : ControlPlane.Action) : Option State :=
  (ControlPlane.step platform m s.base a).map (fun base => { s with base := base })

def call (s : State) (i : Nat) (now : Int) : Option State :=
  match upcoming s.base i with
  | some (.reconcile ..) => (s.hands.get (.call i)).bind fun hand => s.base.tasks[i]?.bind fun t => settle s i t hand now
  | some (.prune desired) => (plain platform m s (.call i now)).map fun s => { s with hands := s.hands.mapValues (pruned desired) }
  | _ => plain platform m s (.call i now)

def step (s : State) : Action → Option State
  | .enter i => enter s i
  | .look j pool => look s j pool
  | .reapPool key now => some { s with base := setRegistry s.base ((pools s.base).reapPool key now) }
  | .act (.call i now) => call platform m s i now
  | .act (.pick j pool scan outlierEjected now) =>
    (s.hands.get (.request j)).bind fun hand =>
      if poolKey s.base j pool = some hand.key then some (pick s j hand scan outlierEjected now) else none
  | .act (.release j) => if (s.hands.get (.request j)).isSome then none else plain platform m s (.release j)
  | .act a => plain platform m s a

/- What is neither half of a Reconcile, nor a prune, nor half of a Pick. -/
structure Plain (s : State) (a : ControlPlane.Action) : Prop where
  calls : ∀ i now, a = .call i now → ∀ key endpoints health opts, upcoming s.base i ≠ some (.reconcile key endpoints health opts)
  prunes : ∀ i now, a = .call i now → ∀ desired, upcoming s.base i ≠ some (.prune desired)
  releases : ∀ j, a = .release j → s.hands.get (.request j) = none

inductive Stepped (s : State) : Action → State → Prop where
  | entered {i key endpoints health opts} (next : upcoming s.base i = some (.reconcile key endpoints health opts)) :
      Stepped s (.enter i)
        ⟨setRegistry s.base ((pools s.base).enter key health),s.hands.insert (.call i) { key := key }⟩
  | looked {j pool key p} (known : poolKey s.base j pool = some key) (there : (pools s.base).pools.get key = some p) :
      Stepped s (.look j pool) { s with hands := s.hands.insert (.request j) { key := key } }
  | missed {j pool} : Stepped s (.look j pool) s
  | reaped {key now} : Stepped s (.reapPool key now) { s with base := setRegistry s.base ((pools s.base).reapPool key now) }
  | settled {i now t script made replies key endpoints health opts hand} (found : s.base.tasks[i]? = some t)
      (worker : t.worker = .calling script made replies)
      (next : script.calls[made]? = some (.reconcile key endpoints health opts))
      (held : s.hands.get (.call i) = some hand) :
      Stepped s (.act (.call i now))
        ⟨setTask (if hand.inPlace then setRegistry s.base ((pools s.base).settle hand.key endpoints health now) else s.base) i
          { t with worker := callWorker script made replies (.ok []) },s.hands.erase (.call i)⟩
  | pruned {i now desired base} (next : upcoming s.base i = some (.prune desired))
      (moved : ControlPlane.step platform m s.base (.call i now) = some base) :
      Stepped s (.act (.call i now)) ⟨base,s.hands.mapValues (pruned desired)⟩
  | picked {j pool scan outlierEjected now hand} (held : s.hands.get (.request j) = some hand) :
      Stepped s (.act (.pick j pool scan outlierEjected now)) (pick s j hand scan outlierEjected now)
  | acted {a base} (plain : Plain s a) (moved : ControlPlane.step platform m s.base a = some base) :
      Stepped s (.act a) { s with base := base }

variable {platform m}

theorem steppedPlain {s s' : State} {a : ControlPlane.Action} (is : Plain s a) (taken : plain platform m s a = some s') :
    Stepped platform m s (.act a) s' := by
  obtain ⟨base,went,rfl⟩ := Option.map_eq_some_iff.mp taken
  exact .acted is went

theorem steppedCall {s s' : State} {i : Nat} {now : Int} (taken : call platform m s i now = some s') :
    Stepped platform m s (.act (.call i now)) s' := by
  unfold call at taken
  split at taken
  · rename_i next
    obtain ⟨hand,held,moved⟩ := Option.bind_eq_some_iff.mp taken
    obtain ⟨t,found,settles⟩ := Option.bind_eq_some_iff.mp moved
    unfold settle at settles
    split at settles <;> try cases settles
    split at settles <;> cases settles
    exact .settled found (by assumption) (by assumption) held
  · obtain ⟨mid,moved,rfl⟩ := Option.map_eq_some_iff.mp taken
    obtain ⟨base,went,rfl⟩ := Option.map_eq_some_iff.mp moved
    exact .pruned (by assumption) went
  · rename_i others prunes
    refine steppedPlain ⟨?_,?_,fun _ same => nomatch same⟩ taken
    · rintro _ _ ⟨⟩
      exact others
    · rintro _ _ ⟨⟩
      exact prunes

theorem plainOther {s : State} {a : ControlPlane.Action} (calls : ∀ i now, a ≠ .call i now) (releases : ∀ j, a ≠ .release j) :
    Plain s a where
  calls i now same := absurd same (calls i now)
  prunes i now same := absurd same (calls i now)
  releases j same := absurd same (releases j)

theorem stepped {s s' : State} {a : Action} (taken : step platform m s a = some s') : Stepped platform m s a s' := by
  cases a with
  | enter i =>
    simp only [step, enter] at taken
    split at taken <;> cases taken
    exact .entered (by assumption)
  | look j pool =>
    simp only [step, look] at taken
    split at taken <;> cases taken
    split
    · rename_i there
      obtain ⟨p,found⟩ := Option.isSome_iff_exists.mp there
      exact .looked (by assumption) found
    · exact .missed
  | reapPool key now =>
    cases taken
    exact .reaped
  | act a =>
    cases a with
    | call i now => exact steppedCall taken
    | pick j pool scan outlierEjected now =>
      obtain ⟨hand,held,moved⟩ := Option.bind_eq_some_iff.mp taken
      split at moved <;> cases moved
      exact .picked held
    | release j =>
      simp only [step] at taken
      split at taken
      · cases taken
      · rename_i free
        refine steppedPlain ⟨by simp,by simp,?_⟩ taken
        rintro _ ⟨⟩
        simpa using free
    | _ => exact steppedPlain (plainOther (by simp) (by simp)) taken

theorem upcomingIs {s : ControlPlane.State} {i : Nat} {c : Call} (next : upcoming s i = some c) :
    ∃ t script made replies, s.tasks[i]? = some t ∧ t.worker = .calling script made replies ∧ script.calls[made]? = some c := by
  obtain ⟨t,found,calls⟩ := Option.bind_eq_some_iff.mp next
  cases worker : t.worker with
  | calling script made replies => exact ⟨t,script,made,replies,found,worker,by rwa [worker] at calls⟩
  | _ => rw [worker] at calls; cases calls

/- A Reconcile with nobody in between is that of the control plane. -/
theorem reconcileSplit {s base : ControlPlane.State} {i : Nat} {now : Int} {key : PoolKey} {endpoints : List String}
    {health : PolicyBuild.Health} {opts : PolicyBuild.TransportOptions}
    (next : upcoming s i = some (.reconcile key endpoints health opts))
    (moved : ControlPlane.step platform m s (.call i now) = some base) :
    Runs (step platform m) anyStep { base := s } [.enter i,.act (.call i now)] { base := base } := by
  obtain ⟨t,script,made,replies,found,worker,call_⟩ := upcomingIs next
  have whole : base = setTask (setRegistry s ((pools s).reconcile key endpoints health now)) i
      { t with worker := callWorker script made replies (.ok []) } := by
    simp only [ControlPlane.step, ControlPlane.Action.task?, found, Option.bind_some, ControlPlane.stepTask, worker, call_]
      at moved
    exact (Option.some.inj moved).symm
  have entered : step platform m { base := s } (.enter i) =
      some ⟨setRegistry s ((pools s).enter key health),Map.empty.insert (.call i) { key := key }⟩ := by
    simp only [step, enter, next, Map.getEmpty]
  have after : upcoming (setRegistry s ((pools s).enter key health)) i = some (.reconcile key endpoints health opts) := next
  have still : (setRegistry s ((pools s).enter key health)).tasks[i]? = some t := found
  have emptied : (Map.empty.insert (.call i) { key := key } : Map Holder Hand).erase (.call i) = Map.empty :=
    Map.eraseInsert rfl _
  obtain ⟨p,there⟩ := (pools s).enterFound key health
  have same : ((pools s).enter key health).settle key endpoints health now = (pools s).reconcile key endpoints health now :=
    (Registry.settleFound there ..).trans (Registry.reconcileEntered ..)
  refine .cons trivial entered (.cons trivial ?_ (.nil _))
  simp only [step, call, after, Map.getInsertSame, Option.bind_some, still, settle, worker, call_, emptied, whole]
  simp only [setRegistry, if_true, same]

theorem pickSplit {s base : ControlPlane.State} {j : Nat} {pool : String} {scan : List String} {outlierEjected : String → Bool}
    {now : Int} (moved : ControlPlane.step platform m s (.pick j pool scan outlierEjected now) = some base) :
    ∃ as, Runs (step platform m) anyStep { base := s } as { base := base } := by
  cases ControlPlane.stepped moved with
  | @picked j pool scan outlierEjected now snapshot key held known =>
    have own : poolKey s j pool = some key := by simp [poolKey,held,known]
    cases there : (pools s).pools.get key with
    | none =>
      have same : setRegistry s ((pools s).pick key scan outlierEjected now).2 = s := by
        simp [Registry.pick,there,setRegistry]
      refine ⟨[.look j pool],.cons trivial ?_ (.nil _)⟩
      rw [same]
      simp [step,look,own,there]
    | some p =>
      refine ⟨[.look j pool,.act (.pick j pool scan outlierEjected now)],.cons trivial
        (t := ⟨s,Map.empty.insert (.request j) { key := key }⟩) ?_ (.cons trivial ?_ (.nil _))⟩
      · simp [step,look,own,there]
      · have emptied : (Map.empty.insert (.request j) { key := key } : Map Holder Hand).erase (.request j) = Map.empty :=
          Map.eraseInsert rfl _
        simp [step,own,pick,emptied]

theorem coarseStep {s t : ControlPlane.State} {a : ControlPlane.Action} (moved : ControlPlane.step platform m s a = some t) :
    ∃ as, Runs (step platform m) anyStep { base := s } as { base := t } := by
  have alone (same : step platform m { base := s } (.act a) = some { base := t }) :
      ∃ as, Runs (step platform m) anyStep { base := s } as { base := t } := ⟨[.act a],.cons trivial same (.nil _)⟩
  cases a with
  | call i now =>
    cases next : upcoming s i with
    | none => exact alone (by simp [step,call,next,plain,moved])
    | some c =>
      cases c with
      | reconcile key endpoints health opts => exact ⟨_,reconcileSplit next moved⟩
      | prune desired =>
        refine alone ?_
        simp only [step, call, next, plain, moved, Option.map_some]
        rfl
      | _ => exact alone (by simp [step,call,next,plain,moved])
  | pick j pool scan outlierEjected now => exact pickSplit moved
  | _ => exact alone (by simp [step,plain,moved])

theorem coarseRuns {s t : ControlPlane.State} {as : List ControlPlane.Action}
    (run : Runs (ControlPlane.step platform m) anyStep s as t) :
    ∃ as', Runs (step platform m) anyStep { base := s } as' { base := t } := by
  obtain ⟨as',_,ran,rfl⟩ := run.follow (fun s (s' : State) => s' = { base := s })
    (fun _ _ _ _ same _ taken => by
      subst same
      obtain ⟨as',ran⟩ := coarseStep taken
      exact ⟨as',_,ran,rfl⟩) rfl
  exact ⟨as',ran⟩

end

section
variable {platform : Platform} {m : Manager} {s s' : ControlPlane.State} {a : ControlPlane.Action}

theorem registryMoves (taken : ControlPlane.Stepped platform m s a s') :
    Tended (pools s) (pools s') ∨ ∃ i now c, a = .call i now ∧ upcoming s i = some c ∧
      pools s' = (perform platform.runes s.live.registries (now,c)).2.registry := by
  have same {r : Registry} (stays : r = pools s) : Tended (pools s) r := stays ▸ .refl _
  cases taken with
  | @called i t now script made replies c found worker next =>
    refine .inr ⟨i,now,c,rfl,?_,rfl⟩
    simp [upcoming,found,nextCall,worker,next]
  | picked => exact .inl (ServingPools.pickTended ..)
  | reaped => exact .inl (ServingPools.reapTended ..)
  | reported => exact .inl (ServingPools.reportTended ..)
  | @pushed i t =>
    exact .inl (same (congrArg Registries.registry (ControlPlane.pushAdminRegistries m s.live t.config)))
  | @left i t result =>
    exact .inl (same (congrArg Registries.registry (ControlPlane.restoreAdminRegistries m s.live t result)))
  | @accepted i t r =>
    have kept : (ControlPlane.published platform s t r).2.registries = s.live.registries := by
      unfold ControlPlane.published ApplyManager.publish
      cases t.mode <;> rfl
    exact .inl (same (congrArg Registries.registry kept))
  | _ => exact .inl (.refl _)

def Present (r : Registry) (key : PoolKey) : Prop := (r.pools.get key).isSome = true

theorem tendedPresent {r r' : Registry} (tended : Tended r r') {key : PoolKey} (there : Present r key) : Present r' key := by
  unfold Present at there ⊢
  rcases tended.pools key with ⟨absent,-⟩ | ⟨p,p',-,now,-⟩
  · rw [absent] at there
    cases there
  · rw [now]
    rfl

theorem performPresent {runes : RuneTables} {r : Registries} {now : Int} {c : Call} {key : PoolKey}
    (named : ∀ desired, c = .prune desired → key ∈ desired) (there : Present r.registry key) :
    Present (perform runes r (now,c)).2.registry key := by
  cases c with
  | reconcile k endpoints health opts =>
    change ((r.registry.pools.insert k _).get key).isSome = true
    rw [Map.getInsert]
    split
    · rfl
    · exact there
  | prune desired =>
    change ((r.registry.pools.keep _).get key).isSome = true
    rw [Map.getKeep,if_pos (by simpa using named desired rfl)]
    exact there
  | plan routeID cfg => exact there
  | outlier k endpoints cfg => exact there

theorem presentStep {key : PoolKey} (taken : ControlPlane.Stepped platform m s a s')
    (named : ∀ i now desired, a = .call i now → upcoming s i = some (.prune desired) → key ∈ desired)
    (there : Present (pools s) key) : Present (pools s') key := by
  rcases registryMoves taken with tended | ⟨i,now,c,called,next,registry⟩
  · exact tendedPresent tended there
  · rw [registry]
    exact performPresent (fun desired same => named i now desired called (same ▸ next)) there

def Fresh (s : ControlPlane.State) : Prop := ∀ t ∈ s.tasks, t.caller = .entered → t.worker = .idle

theorem freshSet {before : ControlPlane.State} {i : Nat} {t : Task} (fresh : Fresh s) (tasks : before.tasks = s.tasks)
    (own : t.caller = .entered → t.worker = .idle) : Fresh (setTask before i t) := by
  intro x member
  rcases List.mem_or_eq_of_mem_set (tasks ▸ member : x ∈ s.tasks.set i t) with old | rfl
  · exact fresh x old
  · exact own

theorem freshWork {before : ControlPlane.State} {i : Nat} {t : Task} {w : Worker} (fresh : Fresh s)
    (tasks : before.tasks = s.tasks) (found : s.tasks[i]? = some t) (worker : t.worker ≠ .idle) :
    Fresh (setTask before i { t with worker := w }) :=
  freshSet fresh tasks fun entered => absurd (fresh t (List.mem_of_getElem? found) entered) worker

theorem freshStep (fresh : Fresh s) (taken : ControlPlane.Stepped platform m s a s') : Fresh s' := by
  cases taken with
  | arrived =>
    intro x member
    rcases List.mem_append.mp member with old | new
    · exact fresh x old
    · cases List.mem_singleton.mp new
      exact fun _ => rfl
  | loaded found worker => exact freshWork fresh rfl found (worker ▸ Worker.noConfusion)
  | called found worker => exact freshWork fresh rfl found (worker ▸ Worker.noConfusion)
  | finished found worker => exact freshWork fresh rfl found (worker ▸ Worker.noConfusion)
  | pushed => exact freshSet fresh rfl (fun entered => nomatch entered)
  | refused => exact freshSet fresh rfl (fun entered => nomatch entered)
  | accepted => exact freshSet fresh rfl (fun entered => nomatch entered)
  | gaveUp => exact freshSet fresh rfl (fun entered => nomatch entered)
  | left => exact freshSet fresh rfl (fun entered => nomatch entered)
  | _ => exact fresh

/- A goroutine inside a registry call stays where it is, whatever its caller does. -/
structure Steady (t t' : Task) : Prop where
  worker : t'.worker = t.worker
  waiting : t'.caller = .waiting → t.caller = .waiting

theorem steadySet {before : ControlPlane.State} {i k : Nat} {t t' : Task} (found : s.tasks[k]? = some t)
    (tasks : before.tasks = s.tasks) (own : k = i → Steady t t') :
    ∃ u, (setTask before i t').tasks[k]? = some u ∧ Steady t u := by
  change ∃ u, (before.tasks.set i t')[k]? = some u ∧ Steady t u
  rw [tasks]
  by_cases same : k = i
  · subst same
    exact ⟨t',List.getElem?_set_self (List.getElem?_eq_some_iff.mp found).choose,own rfl⟩
  · exact ⟨t,(List.getElem?_set_ne (Ne.symm same)).trans found,rfl,id⟩

theorem steadyTask {k : Nat} {t : Task} {c : Call} (fresh : Fresh s) (found : s.tasks[k]? = some t)
    (next : nextCall t.worker = some c) (other : ∀ now, a ≠ .call k now) (taken : ControlPlane.Stepped platform m s a s') :
    ∃ u, s'.tasks[k]? = some u ∧ Steady t u := by
  have idle {i : Nat} {x y : Task} (at_ : s.tasks[i]? = some x) (rests : nextCall x.worker = none) (same : k = i) :
      Steady t y := by
    subst same
    cases Option.some.inj (found.symm.trans at_)
    cases rests.symm.trans next
  have away {i : Nat} {x : Task} {caller : ControlPlane.Caller} (at_ : s.tasks[i]? = some x) (gone : caller ≠ .waiting)
      (same : k = i) : Steady t { x with caller := caller } := by
    subst same
    cases Option.some.inj (found.symm.trans at_)
    exact ⟨rfl,fun waits => absurd waits gone⟩
  cases taken with
  | arrived => exact ⟨t,List.getElem?_append_left (List.getElem?_eq_some_iff.mp found).choose ▸ found,rfl,id⟩
  | pushed at_ caller =>
    exact steadySet found rfl (idle at_ (by rw [fresh _ (List.mem_of_getElem? at_) caller]; rfl))
  | loaded at_ worker => exact steadySet found rfl (idle at_ (by rw [worker]; rfl))
  | @called i _ now _ _ _ _ at_ =>
    refine steadySet found rfl (fun same => ?_)
    subst same
    exact absurd rfl (other now)
  | finished at_ worker all =>
    refine steadySet found rfl (idle at_ ?_)
    rw [worker]
    exact List.getElem?_eq_none all
  | refused at_ => exact steadySet found rfl (away at_ ControlPlane.Caller.noConfusion)
  | accepted at_ => exact steadySet found rfl (away at_ ControlPlane.Caller.noConfusion)
  | gaveUp at_ => exact steadySet found rfl (away at_ ControlPlane.Caller.noConfusion)
  | left at_ => exact steadySet found rfl (away at_ ControlPlane.Caller.noConfusion)
  | _ => exact ⟨t,found,rfl,id⟩

theorem steadyRequest {j : Nat} {snapshot : Snapshot} (held : s.requests[j]? = some (some snapshot)) (other : a ≠ .release j)
    (taken : ControlPlane.Stepped platform m s a s') : s'.requests[j]? = some (some snapshot) := by
  cases taken with
  | acquired => exact List.getElem?_append_left (List.getElem?_eq_some_iff.mp held).choose ▸ held
  | @released i =>
    have apart : i ≠ j := by
      rintro rfl
      exact other rfl
    exact (List.getElem?_set_ne apart).trans held
  | _ => exact held

def Grip (s : ControlPlane.State) (hand : Hand) : Holder → Prop
  | .call i => ∃ t endpoints health opts, s.tasks[i]? = some t ∧
      nextCall t.worker = some (.reconcile hand.key endpoints health opts) ∧ (t.caller = .waiting → hand.inPlace = true)
  | .request j => hand.inPlace = true ∧ ∃ snapshot, s.requests[j]? = some (some snapshot) ∧ Uses snapshot hand.key

def Away (a : ControlPlane.Action) : Holder → Prop
  | .call i => ∀ now, a ≠ .call i now
  | .request j => a ≠ .release j

theorem gripStep {hand : Hand} {holder : Holder} (fresh : Fresh s) (grip : Grip s hand holder) (away : Away a holder)
    (taken : ControlPlane.Stepped platform m s a s') : Grip s' hand holder := by
  cases holder with
  | call i =>
    obtain ⟨t,endpoints,health,opts,found,next,waits⟩ := grip
    obtain ⟨u,now,steady⟩ := steadyTask fresh found next away taken
    exact ⟨u,endpoints,health,opts,now,steady.worker ▸ next,fun waiting => waits (steady.waiting waiting)⟩
  | request j =>
    obtain ⟨inPlace,snapshot,held,uses⟩ := grip
    exact ⟨inPlace,snapshot,steadyRequest held away taken,uses⟩

theorem gripRegistry {r : Registry} {hand : Hand} {holder : Holder} (grip : Grip s hand holder) :
    Grip (setRegistry s r) hand holder := by
  cases holder <;> exact grip

theorem gripOther {before : ControlPlane.State} {i : Nat} {t : Task} {hand : Hand} {holder : Holder}
    (grip : Grip before hand holder) (other : holder ≠ .call i) : Grip (setTask before i t) hand holder := by
  cases holder with
  | request j => exact grip
  | call k =>
    obtain ⟨u,endpoints,health,opts,found,rest⟩ := grip
    have apart : i ≠ k := by
      rintro rfl
      exact other rfl
    exact ⟨u,endpoints,health,opts,(List.getElem?_set_ne apart).trans found,rest⟩

end

/- A pool counts as another's from the moment its Reconcile has found or made it. -/
def Shielded (s : State) (i : Nat) (key : PoolKey) : Prop :=
  ServingPools.Shielded s.base i key ∨
  ∃ k t hand, k ≠ i ∧ s.base.tasks[k]? = some t ∧ t.caller = .waiting ∧ s.hands.get (.call k) = some hand ∧ hand.key = key

def Spares (s : State) (a : Action) : Prop :=
  ∀ i now desired, a = .act (.call i now) → upcoming s.base i = some (.prune desired) → ∀ key, Shielded s i key → key ∈ desired

structure Grips (s : State) : Prop where
  fresh : Fresh s.base
  grips : ∀ holder hand, s.hands.get holder = some hand → Grip s.base hand holder
  present : ∀ holder hand, s.hands.get holder = some hand → hand.inPlace = true → Present (pools s.base) hand.key

section
variable {platform : Platform} {m : Manager} {s s' : State} {a : Action}

theorem Grips.beside {base : ControlPlane.State} (grips : Grips s) (tasks : base.tasks = s.base.tasks)
    (requests : base.requests = s.base.requests) (keeps : ∀ k, Present (pools s.base) k → Present (pools base) k) :
    Grips { s with base := base } where
  fresh t member := grips.fresh t (tasks ▸ member)
  grips holder hand held := by
    have grip := grips.grips holder hand held
    cases holder with
    | call i =>
      obtain ⟨t,endpoints,health,opts,found,rest⟩ := grip
      exact ⟨t,endpoints,health,opts,(congrArg (·[i]?) tasks).trans found,rest⟩
    | request j =>
      obtain ⟨inPlace,snapshot,found,uses⟩ := grip
      exact ⟨inPlace,snapshot,(congrArg (·[j]?) requests).trans found,uses⟩
  present holder hand held inPlace := keeps _ (grips.present holder hand held inPlace)

theorem Grips.insert {r : Registry} {holder : Holder} {key : PoolKey} (grips : Grips s)
    (grip : Grip s.base { key := key } holder) (keeps : ∀ k, Present (pools s.base) k → Present r k) (there : Present r key) :
    Grips ⟨setRegistry s.base r,s.hands.insert holder { key := key }⟩ := by
  refine ⟨grips.fresh,?_,?_⟩
  · intro x hand found
    simp only [Map.getInsert] at found
    split at found
    · rename_i same
      cases found
      exact gripRegistry (same ▸ grip)
    · exact gripRegistry (grips.grips x hand found)
  · intro x hand found inPlace
    simp only [Map.getInsert] at found
    split at found
    · cases found
      exact there
    · exact keeps _ (grips.present x hand found inPlace)

theorem Grips.erase {base : ControlPlane.State} {holder : Holder} (grips : Grips s) (fresh : Fresh base)
    (grip : ∀ x hand, x ≠ holder → Grip s.base hand x → Grip base hand x)
    (keeps : ∀ key, Present (pools s.base) key → Present (pools base) key) : Grips ⟨base,s.hands.erase holder⟩ := by
  have before {x : Holder} {hand : Hand} (found : (s.hands.erase holder).get x = some hand) :
      x ≠ holder ∧ s.hands.get x = some hand := by
    rw [Map.getErase] at found
    split at found
    · cases found
    · exact ⟨by assumption,found⟩
  refine ⟨fresh,?_,?_⟩
  · intro x hand found
    obtain ⟨other,old⟩ := before found
    exact grip x hand other (grips.grips x hand old)
  · intro x hand found inPlace
    exact keeps _ (grips.present x hand (before found).2 inPlace)

theorem Grips.away {holder : Holder} {hand : Hand} {i : Nat} {c : Call} (grips : Grips s)
    (held : s.hands.get holder = some hand) (next : upcoming s.base i = some c)
    (other : ∀ key endpoints health opts, c ≠ .reconcile key endpoints health opts) : holder ≠ .call i := by
  rintro rfl
  obtain ⟨t,endpoints,health,opts,found,calls,-⟩ := grips.grips _ hand held
  rw [upcoming,found,Option.bind_some,calls] at next
  exact other _ _ _ _ (Option.some.inj next).symm

theorem enterPresent (r : Registry) (k : PoolKey) (cfg : PolicyBuild.Health) {key : PoolKey} (there : Present r key) :
    Present (r.enter k cfg) key := by
  unfold Registry.enter
  cases r.pools.get k with
  | some p => exact there
  | none =>
    change ((r.pools.insert k _).get key).isSome = true
    rw [Map.getInsert]
    split
    · rfl
    · exact there

theorem prunedGrips {i : Nat} {now : Int} {desired : List PoolKey} {base : ControlPlane.State} (grips : Grips s)
    (spares : Spares s (.act (.call i now))) (next : upcoming s.base i = some (.prune desired))
    (taken : ControlPlane.Stepped platform m s.base (.call i now) base) :
    Grips ⟨base,s.hands.mapValues (pruned desired)⟩ := by
  have named := spares i now desired rfl next
  have away {holder : Holder} {hand : Hand} (held : s.hands.get holder = some hand) : Away (.call i now) holder := by
    have other := grips.away held next (fun _ _ _ _ same => nomatch same)
    cases holder with
    | call k => rintro _ ⟨⟩; exact other rfl
    | request j => exact ControlPlane.Action.noConfusion
  refine ⟨freshStep grips.fresh taken,?_,?_⟩
  · intro holder _ found
    obtain ⟨hand,held,rfl⟩ := Option.map_eq_some_iff.mp found
    cases holder with
    | call k =>
      obtain ⟨t,endpoints,health,opts,before,calls,waits⟩ := grips.grips _ hand held
      obtain ⟨u,after,steady⟩ := steadyTask grips.fresh before calls (away held) taken
      refine ⟨u,endpoints,health,opts,after,steady.worker ▸ calls,fun waiting => ?_⟩
      have was := steady.waiting waiting
      have apart : k ≠ i := by
        rintro rfl
        exact away held now rfl
      have kept : hand.key ∈ desired := named _ (.inr ⟨k,t,hand,apart,before,was,held,rfl⟩)
      simp [pruned,waits was,kept]
    | request j =>
      obtain ⟨inPlace,snapshot,before,uses⟩ := grips.grips _ hand held
      have kept : hand.key ∈ desired := named _ (.inl (.inr (.inl ⟨snapshot,List.mem_of_getElem? before,uses⟩)))
      exact ⟨by simp [pruned,inPlace,kept],snapshot,steadyRequest before (away held) taken,uses⟩
  · intro holder _ found inPlace
    obtain ⟨hand,held,rfl⟩ := Option.map_eq_some_iff.mp found
    obtain ⟨was,kept⟩ := Bool.and_eq_true_iff.mp inPlace
    refine presentStep taken ?_ (grips.present holder hand held was)
    rintro k _ other ⟨⟩ upcomes
    cases next.symm.trans upcomes
    exact of_decide_eq_true kept

theorem settledRegistry {hand : Hand} (grips : Grips s) {holder : Holder} (held : s.hands.get holder = some hand)
    (endpoints : List String) (health : PolicyBuild.Health) (now : Int) (inPlace : hand.inPlace = true) :
    (pools s.base).settle hand.key endpoints health now = (pools s.base).reconcile hand.key endpoints health now := by
  obtain ⟨p,there⟩ := Option.isSome_iff_exists.mp (grips.present holder hand held inPlace)
  exact Registry.settleFound there ..

theorem gripsStep (grips : Grips s) (spares : Spares s a) (taken : Stepped platform m s a s') : Grips s' := by
  cases taken with
  | @entered i key endpoints health opts next =>
    obtain ⟨t,found,calls⟩ := Option.bind_eq_some_iff.mp next
    refine grips.insert ⟨t,endpoints,health,opts,found,calls,fun _ => rfl⟩ (fun _ => enterPresent _ _ _) ?_
    obtain ⟨p,there⟩ := (pools s.base).enterFound key health
    exact Option.isSome_iff_exists.mpr ⟨p,there⟩
  | looked known there =>
    obtain ⟨snapshot,holding,found⟩ := Option.bind_eq_some_iff.mp known
    obtain ⟨held,request,rfl⟩ := Option.bind_eq_some_iff.mp holding
    exact grips.insert (r := pools s.base) ⟨rfl,snapshot,request,_,found⟩ (fun _ => id) (Option.isSome_iff_exists.mpr ⟨_,there⟩)
  | missed => exact grips
  | reaped => exact grips.beside rfl rfl fun _ => tendedPresent (ServingPools.reapPoolTended ..)
  | @settled i now t script made replies key endpoints health opts hand found worker next held =>
    have same : (if hand.inPlace then setRegistry s.base ((pools s.base).settle hand.key endpoints health now)
        else s.base).tasks = s.base.tasks := by
      split <;> rfl
    refine grips.erase (freshWork grips.fresh same found (worker ▸ Worker.noConfusion)) ?_ ?_
    · intro x other apart grip
      refine gripOther ?_ apart
      split
      · exact gripRegistry grip
      · exact grip
    · intro k there
      change Present (pools (if hand.inPlace then _ else _)) k
      split
      · exact (Map.isSomeAdjust ..).trans there
      · exact there
  | pruned next moved => exact prunedGrips grips spares next (ControlPlane.stepped moved)
  | @picked j pool scan outlierEjected now hand held =>
    have same : Fresh (pick s j hand scan outlierEjected now).base := by
      unfold pick
      dsimp only
      split <;> exact grips.fresh
    refine grips.erase same ?_ ?_
    · intro x other _ grip
      split
      · exact gripRegistry grip
      · exact grip
    · intro k there
      split
      · exact tendedPresent (ServingPools.pickTended ..) there
      · exact there
  | acted plain moved =>
    have base := ControlPlane.stepped moved
    refine ⟨freshStep grips.fresh base,?_,?_⟩
    · intro holder hand held
      refine gripStep grips.fresh (grips.grips holder hand held) ?_ base
      cases holder with
      | call i =>
        rintro now rfl
        obtain ⟨t,endpoints,health,opts,found,calls,-⟩ := grips.grips _ hand held
        exact plain.calls i now rfl _ _ _ _ (by rw [upcoming,found]; exact calls)
      | request j =>
        rintro rfl
        cases (plain.releases j rfl).symm.trans held
    · intro holder hand held inPlace
      refine presentStep base ?_ (grips.present holder hand held inPlace)
      intro i now desired same next
      exact absurd next (plain.prunes i now same desired)

theorem baseSpares {b : ControlPlane.Action} (spares : Spares s (.act b)) : ServingPools.Spares s.base b := by
  rintro i now t desired rfl found next key shielded
  exact spares i now desired rfl (by rw [upcoming,found]; exact next) key (.inl shielded)

theorem settledServed (platform : Platform) {i : Nat} {now : Int} {t : Task} {script : Build CompileResult} {made : Nat}
    {replies : List Reply} {key : PoolKey} {endpoints : List String} {health : PolicyBuild.Health}
    {opts : PolicyBuild.TransportOptions} {hand : Hand} (grips : Grips s)
    (served : Served s.base) (found : s.base.tasks[i]? = some t) (worker : t.worker = .calling script made replies)
    (next : script.calls[made]? = some (.reconcile key endpoints health opts)) (held : s.hands.get (.call i) = some hand) :
    Served (setTask (if hand.inPlace then setRegistry s.base ((pools s.base).settle hand.key endpoints health now) else s.base) i
      { t with worker := callWorker script made replies (.ok []) }) := by
  obtain ⟨u,_,_,_,here,calls,waits⟩ := grips.grips _ hand held
  cases Option.some.inj (found.symm.trans here)
  rw [worker,nextCall,next] at calls
  cases calls
  cases inPlace : hand.inPlace with
  | true =>
    rw [if_pos rfl,settledRegistry grips held _ _ _ inPlace]
    refine @ServingPools.calledServed platform s.base i t script made replies (.reconcile hand.key endpoints health opts) now
      served found worker next ?_
    refine ServingPools.otherStepsSpare _ _ ?_
    simp [ServingPools.prunes,found,nextCall,worker,next]
  | false =>
    rw [if_neg Bool.false_ne_true]
    have away : t.caller ≠ .waiting := by
      intro waiting
      cases inPlace.symm.trans (waits waiting)
    refine ServingPools.quietTask served found rfl rfl rfl rfl (fun _ pending => absurd pending.2.1 away) ?_
    rintro _ _ _ ⟨⟩
    exact served.scripts t (List.mem_of_getElem? found) _ _ _ worker

theorem servedStep (grips : Grips s) (served : Served s.base) (spares : Spares s a) (taken : Stepped platform m s a s') :
    Served s'.base := by
  cases taken with
  | entered => exact ServingPools.registryServed served fun _ => ServingPools.enterServes _ _
  | looked => exact served
  | missed => exact served
  | reaped => exact ServingPools.registryServed served fun _ => (ServingPools.reapPoolTended ..).serves
  | settled found worker next held => exact settledServed platform grips served found worker next held
  | pruned next moved => exact ServingPools.servedStep served (baseSpares spares) moved
  | picked =>
    unfold pick
    dsimp only
    split
    · exact ServingPools.registryServed served fun _ => (ServingPools.pickTended ..).serves
    · exact served
  | acted plain moved => exact ServingPools.servedStep served (baseSpares spares) moved

end

theorem readyGrips {start : ControlPlane.State} (ready : Ready start) : Grips { base := start } where
  fresh t member := by
    rw [ready.tasks] at member
    cases member
  grips holder hand held := nomatch held
  present holder hand held := nomatch held

theorem Grips.requestInPlace {s : State} (grips : Grips s) {j : Nat} {snapshot : Snapshot} {hand : Hand}
    (held : s.base.requests[j]? = some (some snapshot)) (inHand : s.hands.get (.request j) = some hand) :
    hand.inPlace = true ∧ Uses snapshot hand.key := by
  obtain ⟨inPlace,other,request,uses⟩ := grips.grips _ hand inHand
  cases Option.some.inj (Option.some.inj (held.symm.trans request))
  exact ⟨inPlace,uses⟩

theorem heldPoolServes {platform : Platform} {m : Manager} {start : ControlPlane.State} {s : State} {as : List Action}
    (ready : Ready start) (run : Runs (step platform m) Spares { base := start } as s) {j : Nat} {snapshot : Snapshot}
    (held : s.base.requests[j]? = some (some snapshot)) :
    (∀ hand, s.hands.get (.request j) = some hand → hand.inPlace = true ∧ Uses snapshot hand.key) ∧
    ∀ name key, snapshot.compiled.pools.get name = some key → ∀ scan outlierEjected now,
      ∃ result, ((pools s.base).pick key scan outlierEjected now).1 = some result ∧
        (result.selectedHealthy = true ∨ result.selectedFailOpen = true) := by
  obtain ⟨grips,served⟩ : Grips s ∧ Served s.base := run.preserve (fun s => Grips s ∧ Served s.base)
    (fun _ _ _ ⟨grips,served⟩ spares taken =>
      ⟨gripsStep grips spares (stepped taken),servedStep grips served spares (stepped taken)⟩)
    ⟨readyGrips ready,ServingPools.readyServed ready⟩
  refine ⟨fun hand inHand => grips.requestInPlace held inHand,fun name key known scan outlierEjected now => ?_⟩
  have needed : Needed s.base key := .inr (.inl ⟨snapshot,List.mem_of_getElem? held,name,known⟩)
  exact ServingPools.servesPicks (served.pools key needed) scan outlierEjected now

theorem applyPrunesHeldPool :
    ∃ as s snapshot result, Runs (step (decoding (onePool "new")) {}) anyStep { base := ServingPools.booted } as s ∧
      s.base.tasks.map (·.caller) = [.returned (.ok result)] ∧ some snapshot ∈ s.base.requests ∧
      snapshot.compiled.pools.get "old" = some "old" ∧
      ((pools s.base).pick "old" [] (fun _ => false) 0).1 = none := by
  obtain ⟨as,s,snapshot,result,run,returned,held,known,gone⟩ := ServingPools.applyDropsPool
  obtain ⟨as',ran⟩ := coarseRuns run
  exact ⟨as',_,snapshot,result,ran,returned,held,known,gone⟩

def prunes (s : State) : Action → Bool
  | .act a => ServingPools.prunes s.base a
  | _ => false

theorem otherStepsSpare (s : State) (a : Action) (other : prunes s a = false) : Spares s a := by
  rintro i now desired rfl next
  obtain ⟨t,found,calls⟩ := Option.bind_eq_some_iff.mp next
  simp [prunes,ServingPools.prunes,found,calls] at other

def sameTwice : List Action :=
  [.act .acquire,.act (.arrive document "api" .apply calm),.act (.push 0),.act (.arrive document "api" .apply calm),.act (.push 1)]

def applying : State :=
  (runAll (step (decoding (onePool "old")) {}) anyStep { base := ServingPools.booted } sameTwice).getD {}

def called (t : Task) : Task :=
  { t with worker := .calling (ApplyManager.compileResolved (decoding (onePool "old")) calm (onePool "old")) 0 [] }

def second : Task := { ServingPools.loading "old" with previous := some (onePool "old") }

def bothCalling : ControlPlane.State :=
  setTask (setTask applying.base 0 (called (ServingPools.loading "old"))) 1 (called second)

theorem bothLoad : Runs (step (decoding (onePool "old")) {}) Spares applying [.act (.load 0),.act (.load 1)]
    { base := bothCalling } := by
  have merged := @compileMerged (decoding (onePool "old")) _ _ _ (ServingPools.mergeOnePool (.inl rfl))
  have first : ControlPlane.step (decoding (onePool "old")) {} applying.base (.load 0) =
      some (setTask applying.base 0 (called (ServingPools.loading "old"))) :=
    @ControlPlane.loadStep _ _ _ 0 (ServingPools.loading "old") _ rfl rfl rfl merged
  have next : ControlPlane.step (decoding (onePool "old")) {} (setTask applying.base 0 (called (ServingPools.loading "old")))
      (.load 1) = some bothCalling := @ControlPlane.loadStep _ _ _ 1 second _ rfl rfl rfl merged
  refine .cons (otherStepsSpare _ _ rfl) (t := { base := setTask applying.base 0 (called (ServingPools.loading "old")) }) ?_
    (.cons (otherStepsSpare _ _ rfl) ?_ (.nil _))
  · change plain _ _ _ _ = _
    unfold plain
    rw [first]
    rfl
  · change plain _ _ _ _ = _
    unfold plain
    rw [next]
    rfl

theorem overlapKeepsPool :
    ∃ as s snapshot result, Ready ServingPools.booted ∧
      Runs (step (decoding (onePool "old")) {}) Spares { base := ServingPools.booted } as s ∧
      s.base.requests[0]? = some (some snapshot) ∧ s.hands.get (.request 0) = some ⟨"old",true⟩ ∧
      ((pools s.base).pick "old" [] (fun _ => false) 0).1 = some result ∧
      (result.selectedHealthy = true ∨ result.selectedFailOpen = true) := by
  have opened : runAll (step (decoding (onePool "old")) {}) (prunes · · = false) { base := ServingPools.booted } sameTwice =
      some applying := rfl
  obtain ⟨u,toPrune,v,pruned,s,rest,current,requests,upcomes,count,other,inHands,snapshot,held,known,looked⟩ :
      ∃ u, runAll (step (decoding (onePool "old")) {}) (prunes · · = false) { base := bothCalling }
        [.enter 1,.enter 0,.act (.call 0 0)] = some u ∧
      ∃ v, step (decoding (onePool "old")) {} u (.act (.call 0 0)) = some v ∧
      ∃ s, runAll (step (decoding (onePool "old")) {}) (prunes · · = false) v
        [.act (.finish 0),.act (.receive 0),.act (.call 1 0),.look 0 "old"] = some s ∧
      u.base.live.store.current = ServingPools.booted.live.store.current ∧
      u.base.requests = [ServingPools.booted.live.store.current] ∧ upcoming u.base 0 = some (.prune ["old"]) ∧
      u.base.tasks.length = 2 ∧ u.base.tasks[1]? = some (called second) ∧
      u.hands = ((Map.empty.insert (.call 1) ⟨"old",true⟩).insert (.call 0) ⟨"old",true⟩).erase (.call 0) ∧
      ∃ snapshot, s.base.requests[0]? = some (some snapshot) ∧ snapshot.compiled.pools.get "old" = some "old" ∧
        s.hands.get (.request 0) = some ⟨"old",true⟩ :=
    ⟨_,rfl,_,rfl,_,rfl,rfl,rfl,rfl,rfl,rfl,rfl,_,rfl,rfl,rfl⟩
  have shielded {key : PoolKey} (is : Shielded u 0 key) : key = "old" := by
    rcases is with (⟨x,now,uses⟩ | ⟨x,member,uses⟩ | ⟨k,x,apart,at_,pending⟩) | ⟨k,x,hand,apart,at_,-,there,rfl⟩
    · exact ServingPools.bootedUses (current.symm.trans now) uses
    · rw [requests] at member
      exact ServingPools.bootedUses (List.mem_singleton.mp member).symm uses
    · have bound := (List.getElem?_eq_some_iff.mp at_).choose
      have one : k = 1 := by omega
      subst one
      cases Option.some.inj (other.symm.trans at_)
      cases pending.2.2
    · simp only [inHands, Map.getErase, Map.getInsert, Holder.call.injEq, apart, if_false] at there
      split at there <;> cases there
      rfl
  have spares : Spares u (.act (.call 0 0)) := by
    rintro i now desired ⟨⟩ next key is
    cases upcomes.symm.trans next
    exact shielded is ▸ List.mem_cons_self
  have run := ((runAllRuns opened).weaken otherStepsSpare).append (bothLoad.append
    (((runAllRuns toPrune).weaken otherStepsSpare).append (.cons spares pruned ((runAllRuns rest).weaken otherStepsSpare))))
  obtain ⟨result,picked,answered⟩ := (heldPoolServes ServingPools.bootedReady run held).2 "old" "old" known [] (fun _ => false) 0
  exact ⟨_,s,snapshot,result,ServingPools.bootedReady,run,held,looked,picked,answered⟩

end ReverseProxy.PoolSteps
