import ReverseProxy.ControlPlane
import ReverseProxy.OutlierDetection
import ReverseProxy.Rollout

/-! The whole process as it deploys configurations: the control plane's Apply calls and
requests, ApplyBundle as one step for each thing it does to shared state, and what
the traffic and outlier registries do on their own time. `origin` is the config the
current snapshot was compiled from, which the code does not keep. -/
namespace ReverseProxy.Deployments
open GoValues CallScript ConfigData SnapshotBuild SnapshotStore
open ApplyManager (Mode Live Circumstance Result CompileResult checkRequest compileResolved applyResolvedVersion publish
  configVersion)
open ControlPlane (Worker callWorker linked)
open Transition (Runs anyStep)

inductive Stage where
  | locked
  | full
  deriving DecidableEq, Repr

inductive Phase where
  | validating
  | locking
  | waiting (stage : Stage)
  | baking
  | filling
  | rollingBack
  | returned
  deriving DecidableEq, Repr

/- An ApplyBundle call. `around` surrounds the apply it is in; `worker` is the compile
goroutine of that apply. -/
structure BundleTask where
  raw : Bytes
  source : String
  version : Bytes
  around : Circumstance
  previous : Option Snapshot
  previousOrigin : Option Config
  lockedBytes : Bytes := []
  worker : Worker := .idle
  phase : Phase := .validating

structure State where
  plane : ControlPlane.State := {}
  bundles : List BundleTask := []
  origin : Option Config := none

inductive Event where
  | validated
  | lock (around : Circumstance)
  | call (now : Int)
  | finish
  | receive
  | giveUp
  | baked (cancelled : Bool) (toFloat : Rat → Rat) (rolling : Duration → Nat × Nat)
  | fill (around : Circumstance)
  | back (now : Int)

inductive Action where
  | plane (a : ControlPlane.Action)
  | bundle (b : Rollout.Bundle) (sourceOverride : String) (around : Circumstance)
  | act (i : Nat) (e : Event)
  | reapTraffic (order : List String) (now : Int)
  | drainUntil (plan : Nat) (now : Int)
  | reapOutliers (now : Int)
  | record (key addr : String) (success : Bool) (latency now : Int)
  | askEjected (key addr : String) (now : Int)
  | evaluateLatency (key : String) (order : List String) (now : Int)

def startBuild (platform : Platform) (m : ApplyManager.Manager) (live : Live) (around : Circumstance) (raw : Bytes) :
    Option Worker :=
  match checkRequest platform m live raw with
  | .error _ => none
  | .ok cfg => some (.calling (compileResolved platform around cfg) 0 [])

def stageBytes (t : BundleTask) : Stage → Bytes
  | .locked => t.lockedBytes
  | .full => t.raw

def publishes (platform : Platform) (live : Live) (t : BundleTask) (stage : Stage) (r : CompileResult) : Result × Live :=
  publish t.around live .apply t.source
    (if t.version = [] then configVersion platform (stageBytes t stage) else t.version) r

def phaseFailed : Stage → Phase
  | .locked => .returned
  | .full => .rollingBack

def phaseDone : Stage → Phase
  | .locked => .baking
  | .full => .returned

section
variable (platform : Platform) (rm : Rollout.Manager) (m : ApplyManager.Manager)

def validated (live : Live) (t : BundleTask) : BundleTask :=
  match (applyResolvedVersion platform m t.around live t.raw t.source t.version .validate).result,
      Rollout.lockConfigBytes platform t.raw with
  | .ok _,.ok lockedBytes => { t with lockedBytes := lockedBytes, phase := .locking }
  | _,_ => { t with phase := .returned }

def starts (live : Live) (t : BundleTask) (stage : Stage) (around : Circumstance) : BundleTask :=
  match startBuild platform m live around (stageBytes t stage) with
  | none => { t with phase := phaseFailed stage }
  | some worker => { t with around := around, worker := worker, phase := .waiting stage }

def baked (t : BundleTask) (cancelled : Bool) (toFloat : Rat → Rat) (rolling : Duration → Nat × Nat) : BundleTask :=
  if decide (0 < rm.lockedBake) && cancelled then { t with phase := .returned }
  else match rm.gates.check toFloat rolling with
    | .error _ => { t with phase := .rollingBack }
    | .ok _ => { t with phase := .filling }

def setBundle (s : State) (i : Nat) (t : BundleTask) : State := { s with bundles := s.bundles.set i t }

def setLive (s : State) (live : Live) : State := { s with plane := { s.plane with live := live } }

def setRegistries (s : State) (r : Registries) : State := setLive s { s.plane.live with registries := r }

def stepBundle (s : State) (i : Nat) (t : BundleTask) : Event → Option State
  | .validated =>
    match t.phase with
    | .validating => some (setBundle s i (validated platform m s.plane.live t))
    | _ => none
  | .lock around =>
    match t.phase with
    | .locking => some (setBundle s i (starts platform m s.plane.live t .locked around))
    | _ => none
  | .call now =>
    match t.worker with
    | .calling script made replies =>
      match script.calls[made]? with
      | none => none
      | some call =>
        let answer := perform platform.runes s.plane.live.registries (now,call)
        some (setBundle (setRegistries s answer.2) i { t with worker := callWorker script made replies answer.1 })
    | _ => none
  | .finish =>
    match t.worker with
    | .calling script made replies =>
      if script.calls.length ≤ made then some (setBundle s i { t with worker := .finished (linked script replies) })
      else none
    | _ => none
  | .receive =>
    match t.phase,t.worker with
    | .waiting stage,.finished (.error _) => some (setBundle s i { t with phase := phaseFailed stage })
    | .waiting stage,.finished (.ok r) =>
      some (setBundle { setLive s (publishes platform s.plane.live t stage r).2 with origin := some r.config } i
        { t with phase := phaseDone stage })
    | _,_ => none
  | .giveUp =>
    match t.phase with
    | .waiting stage => some (setBundle s i { t with phase := phaseFailed stage })
    | _ => none
  | .baked cancelled toFloat rolling =>
    match t.phase with
    | .baking => some (setBundle s i (baked rm t cancelled toFloat rolling))
    | _ => none
  | .fill around =>
    match t.phase with
    | .filling => some (setBundle s i (starts platform m s.plane.live t .full around))
    | _ => none
  | .back now =>
    match t.phase with
    | .rollingBack =>
      let back := Rollout.rollback rm t.previous now s.plane.live
      some (setBundle { setLive s back.2 with origin := if back.1 = .rolledBack then t.previousOrigin else s.origin } i
        { t with phase := .returned })
    | _ => none

def originAfter (s : State) : ControlPlane.Action → Option Config
  | .receive i =>
    match s.plane.tasks[i]? with
    | none => s.origin
    | some t =>
      match t.caller,t.worker,t.mode with
      | .waiting,.finished (.ok r),.apply => some r.config
      | _,_,_ => s.origin
  | _ => s.origin

def setOutliers (s : State) (r : OutlierRegistry.Registry) : State :=
  setRegistries s { s.plane.live.registries with outlier := r }

def setTraffic (s : State) (r : TrafficRegistry.Registry) : State :=
  setRegistries s { s.plane.live.registries with traffic := r }

def outliers (s : State) : OutlierRegistry.Registry := s.plane.live.registries.outlier

def traffic (s : State) : TrafficRegistry.Registry := s.plane.live.registries.traffic

def step (s : State) : Action → Option State
  | .plane a => (ControlPlane.step platform m s.plane a).map (fun plane => { s with plane := plane, origin := originAfter s a })
  | .bundle b sourceOverride around =>
    match b.configBytes platform with
    | .error _ => some s
    | .ok raw => some { s with bundles := s.bundles ++ [{
        raw := raw
        source := Rollout.sourceOf b sourceOverride
        version := b.version
        around := around
        previous := Rollout.previousOf rm s.plane.live
        previousOrigin := s.origin }] }
  | .act i e => s.bundles[i]?.bind (fun t => stepBundle platform rm m s i t e)
  | .reapTraffic order now => some (setTraffic s ((traffic s).reapOnce order now))
  | .drainUntil plan now => some (setTraffic s ((traffic s).drainUntil plan now))
  | .reapOutliers now => some (setOutliers s (OutlierDetection.reapOnce (outliers s) now))
  | .record key addr success latency now =>
    some (setOutliers s (OutlierDetection.record (outliers s) key addr success latency now).2)
  | .askEjected key addr now => some (setOutliers s (OutlierDetection.askEjected (outliers s) key addr now).2)
  | .evaluateLatency key order now => some (setOutliers s (OutlierDetection.evaluateLatency (outliers s) key order now))

inductive SteppedBundle (s : State) (i : Nat) (t : BundleTask) : Event → State → Prop where
  | validated (phase : t.phase = .validating) :
      SteppedBundle s i t .validated (setBundle s i (validated platform m s.plane.live t))
  | locked {around} (phase : t.phase = .locking) :
      SteppedBundle s i t (.lock around) (setBundle s i (starts platform m s.plane.live t .locked around))
  | called {now script made replies call} (worker : t.worker = .calling script made replies)
      (next : script.calls[made]? = some call) :
      SteppedBundle s i t (.call now)
        (setBundle (setRegistries s (perform platform.runes s.plane.live.registries (now,call)).2) i
          { t with worker := callWorker script made replies (perform platform.runes s.plane.live.registries (now,call)).1 })
  | finished {script made replies} (worker : t.worker = .calling script made replies) (all : script.calls.length ≤ made) :
      SteppedBundle s i t .finish (setBundle s i { t with worker := .finished (linked script replies) })
  | refused {stage e} (phase : t.phase = .waiting stage) (worker : t.worker = .finished (.error e)) :
      SteppedBundle s i t .receive (setBundle s i { t with phase := phaseFailed stage })
  | accepted {stage r} (phase : t.phase = .waiting stage) (worker : t.worker = .finished (.ok r)) :
      SteppedBundle s i t .receive (setBundle
        { setLive s (publishes platform s.plane.live t stage r).2 with origin := some r.config } i
        { t with phase := phaseDone stage })
  | gaveUp {stage} (phase : t.phase = .waiting stage) :
      SteppedBundle s i t .giveUp (setBundle s i { t with phase := phaseFailed stage })
  | baked {cancelled toFloat rolling} (phase : t.phase = .baking) :
      SteppedBundle s i t (.baked cancelled toFloat rolling) (setBundle s i (baked rm t cancelled toFloat rolling))
  | filled {around} (phase : t.phase = .filling) :
      SteppedBundle s i t (.fill around) (setBundle s i (starts platform m s.plane.live t .full around))
  | back {now} (phase : t.phase = .rollingBack) :
      SteppedBundle s i t (.back now) (setBundle
        { setLive s (Rollout.rollback rm t.previous now s.plane.live).2 with
          origin := if (Rollout.rollback rm t.previous now s.plane.live).1 = .rolledBack then t.previousOrigin else s.origin } i
        { t with phase := .returned })

theorem steppedBundle {s s' : State} {i : Nat} {t : BundleTask} {e : Event} (taken : stepBundle platform rm m s i t e = some s') :
    SteppedBundle platform rm m s i t e s' := by
  cases e with
  | validated =>
    simp only [stepBundle] at taken
    split at taken <;> cases taken
    exact .validated (by assumption)
  | lock around =>
    simp only [stepBundle] at taken
    split at taken <;> cases taken
    exact .locked (by assumption)
  | call now =>
    simp only [stepBundle] at taken
    split at taken <;> try cases taken
    split at taken <;> cases taken
    exact .called (by assumption) (by assumption)
  | finish =>
    simp only [stepBundle] at taken
    split at taken <;> try cases taken
    split at taken <;> cases taken
    exact .finished (by assumption) (by assumption)
  | receive =>
    simp only [stepBundle] at taken
    split at taken <;> cases taken
    · exact .refused (by assumption) (by assumption)
    · exact .accepted (by assumption) (by assumption)
  | giveUp =>
    simp only [stepBundle] at taken
    split at taken <;> cases taken
    exact .gaveUp (by assumption)
  | baked cancelled toFloat rolling =>
    simp only [stepBundle] at taken
    split at taken <;> cases taken
    exact .baked (by assumption)
  | fill around =>
    simp only [stepBundle] at taken
    split at taken <;> cases taken
    exact .filled (by assumption)
  | back now =>
    simp only [stepBundle] at taken
    split at taken <;> cases taken
    exact .back (by assumption)

end

structure View where
  current : Option Snapshot
  origin : Option Config
  traffic : TrafficRegistry.Registry
  outlier : OutlierRegistry.Registry

def view (s : State) : View := ⟨s.plane.live.store.current,s.origin,traffic s,outliers s⟩

inductive Effect where
  | quiet
  | plan (routeID : String) (cfg : PolicyBuild.Traffic) (now : Int)
  | reconcile (key : String) (endpoints : List String) (cfg : PolicyBuild.Outlier) (now : Int)
  | publish (snapshot : Snapshot) (cfg : Config)
  | putBack (snapshot : Snapshot) (origin : Option Config)
  | reapTraffic (order : List String) (now : Int)
  | drainUntil (plan : Nat) (now : Int)
  | reapOutliers (now : Int)
  | record (key addr : String) (success : Bool) (latency now : Int)
  | askEjected (key addr : String) (now : Int)
  | evaluateLatency (key : String) (order : List String) (now : Int)

def after (runes : RuneTables) (v : View) : Effect → View
  | .quiet => v
  | .plan routeID cfg now => { v with traffic := (v.traffic.plan runes routeID cfg now).2 }
  | .reconcile key endpoints cfg now => { v with outlier := v.outlier.reconcile key endpoints cfg now }
  | .publish snapshot cfg => { v with current := some snapshot, origin := some cfg }
  | .putBack snapshot origin => { v with current := some snapshot, origin := origin }
  | .reapTraffic order now => { v with traffic := v.traffic.reapOnce order now }
  | .drainUntil plan now => { v with traffic := v.traffic.drainUntil plan now }
  | .reapOutliers now => { v with outlier := OutlierDetection.reapOnce v.outlier now }
  | .record key addr success latency now =>
    { v with outlier := (OutlierDetection.record v.outlier key addr success latency now).2 }
  | .askEjected key addr now => { v with outlier := (OutlierDetection.askEjected v.outlier key addr now).2 }
  | .evaluateLatency key order now => { v with outlier := OutlierDetection.evaluateLatency v.outlier key order now }

def callEffect (now : Int) : Call → Effect
  | .plan routeID cfg => .plan routeID cfg now
  | .outlier key endpoints cfg => .reconcile key endpoints cfg now
  | _ => .quiet

def workerEffect (now : Int) : Worker → Effect
  | .calling script made _ =>
    match script.calls[made]? with
    | some call => callEffect now call
    | none => .quiet
  | _ => .quiet

def planeEffect (platform : Platform) (s : ControlPlane.State) : ControlPlane.Action → Effect
  | .call i now => s.tasks[i]?.elim .quiet (fun t => workerEffect now t.worker)
  | .receive i => s.tasks[i]?.elim .quiet (fun t =>
    match t.caller,t.worker,t.mode with
    | .waiting,.finished (.ok r),.apply => .publish (ControlPlane.published platform s t r).1.snapshot r.config
    | _,_,_ => .quiet)
  | _ => .quiet

def bundleEffect (platform : Platform) (rm : Rollout.Manager) (s : State) (t : BundleTask) : Event → Effect
  | .call now => workerEffect now t.worker
  | .receive =>
    match t.phase,t.worker with
    | .waiting stage,.finished (.ok r) => .publish (publishes platform s.plane.live t stage r).1.snapshot r.config
    | _,_ => .quiet
  | .back _ =>
    match t.phase,t.previous with
    | .rollingBack,some snapshot => if rm.hasStore then .putBack snapshot t.previousOrigin else .quiet
    | _,_ => .quiet
  | _ => .quiet

def effect (platform : Platform) (rm : Rollout.Manager) (s : State) : Action → Effect
  | .plane a => planeEffect platform s.plane a
  | .bundle _ _ _ => .quiet
  | .act i e => s.bundles[i]?.elim .quiet (fun t => bundleEffect platform rm s t e)
  | .reapTraffic order now => .reapTraffic order now
  | .drainUntil plan now => .drainUntil plan now
  | .reapOutliers now => .reapOutliers now
  | .record key addr success latency now => .record key addr success latency now
  | .askEjected key addr now => .askEjected key addr now
  | .evaluateLatency key order now => .evaluateLatency key order now

def taskWorker (t : ControlPlane.Task) : Option Worker :=
  match t.mode,t.caller with
  | .apply,.waiting => some t.worker
  | _,_ => none

def bundleWorker (t : BundleTask) : Option Worker :=
  match t.phase with
  | .waiting _ => some t.worker
  | _ => none

def Awaits (s : State) (w : Worker) : Prop :=
  (∃ t ∈ s.plane.tasks, taskWorker t = some w) ∨ ∃ t ∈ s.bundles, bundleWorker t = some w

inductive Moves (platform : Platform) (s : State) : Effect → Worker → Prop where
  | loading : Moves platform s .quiet .loading
  | unmerged (e : Message) : Moves platform s .quiet (.calling ⟨[],.error e⟩ 0 [])
  | started (around : Circumstance) (cfg : Config) : Moves platform s .quiet (.calling (compileResolved platform around cfg) 0 [])
  | called {script made replies call} (now : Int) (awaited : Awaits s (.calling script made replies))
      (next : script.calls[made]? = some call) :
      Moves platform s (callEffect now call)
        (callWorker script made replies (perform platform.runes s.plane.live.registries (now,call)).1)
  | finished {script made replies} (awaited : Awaits s (.calling script made replies))
      (all : script.calls.length ≤ made) : Moves platform s .quiet (.finished (linked script replies))

structure Advances (platform : Platform) (s s' : State) (e : Effect) : Prop where
  view : view s' = after platform.runes (view s) e
  workers : ∀ w, Awaits s' w → Awaits s w ∨ Moves platform s e w
  publishes : ∀ snapshot cfg, e = .publish snapshot cfg →
    ∃ r, Awaits s (.finished (.ok r)) ∧ snapshot.compiled = r.compiled ∧ cfg = r.config

inductive Installs (s s' : State) (e : Effect) : Prop where
  | kept (current : (view s').current = (view s).current) (origin : s'.origin = s.origin)
  | published {snapshot r} (awaited : Awaits s (.finished (.ok r))) (current : (view s').current = some snapshot)
      (compiled : snapshot.compiled = r.compiled) (origin : s'.origin = some r.config)
  | putBack {snapshot origin} (back : e = .putBack snapshot origin) (current : (view s').current = some snapshot)
      (origin : s'.origin = origin) (traffic : traffic s' = traffic s) (outliers : outliers s' = outliers s)

section
variable {platform : Platform} {rm : Rollout.Manager} {m : ApplyManager.Manager} {s s' : State} {e : Effect}

theorem performView (call : Call) (now : Int) (current : Option Snapshot) (origin : Option Config) (r : Registries) :
    (⟨current,origin,(perform platform.runes r (now,call)).2.traffic,(perform platform.runes r (now,call)).2.outlier⟩ : View) =
      after platform.runes ⟨current,origin,r.traffic,r.outlier⟩ (callEffect now call) := by
  cases call <;> rfl

theorem callPublishes (now : Int) (call : Call) (snapshot : Snapshot) (cfg : Config) :
    callEffect now call ≠ .publish snapshot cfg := by
  cases call <;> simp [callEffect]

theorem advancesSame (view : view s' = after platform.runes (view s) e) (tasks : s'.plane.tasks = s.plane.tasks)
    (bundles : s'.bundles = s.bundles) (other : ∀ snapshot cfg, e ≠ .publish snapshot cfg) : Advances platform s s' e := by
  refine ⟨view,?_,fun snapshot cfg same => absurd same (other snapshot cfg)⟩
  intro w awaits
  unfold Awaits at awaits
  rw [tasks,bundles] at awaits
  exact .inl awaits

theorem advancesTask {i : Nat} {t : ControlPlane.Task} (view : view s' = after platform.runes (view s) e)
    (tasks : s'.plane.tasks = s.plane.tasks.set i t) (bundles : s'.bundles = s.bundles)
    (worker : ∀ w, taskWorker t = some w → Moves platform s e w)
    (publishes : ∀ snapshot cfg, e = .publish snapshot cfg →
      ∃ r, Awaits s (.finished (.ok r)) ∧ snapshot.compiled = r.compiled ∧ cfg = r.config) : Advances platform s s' e := by
  refine ⟨view,?_,publishes⟩
  rintro w (⟨u,member,own⟩ | ⟨u,member,own⟩)
  · rw [tasks] at member
    rcases List.mem_or_eq_of_mem_set member with old | rfl
    · exact .inl (.inl ⟨u,old,own⟩)
    · exact .inr (worker w own)
  · rw [bundles] at member
    exact .inl (.inr ⟨u,member,own⟩)

theorem advancesBundle {i : Nat} {t : BundleTask} (view : view s' = after platform.runes (view s) e)
    (tasks : s'.plane.tasks = s.plane.tasks) (bundles : s'.bundles = s.bundles.set i t)
    (worker : ∀ w, bundleWorker t = some w → Moves platform s e w)
    (publishes : ∀ snapshot cfg, e = .publish snapshot cfg →
      ∃ r, Awaits s (.finished (.ok r)) ∧ snapshot.compiled = r.compiled ∧ cfg = r.config) : Advances platform s s' e := by
  refine ⟨view,?_,publishes⟩
  rintro w (⟨u,member,own⟩ | ⟨u,member,own⟩)
  · rw [tasks] at member
    exact .inl (.inl ⟨u,member,own⟩)
  · rw [bundles] at member
    rcases List.mem_or_eq_of_mem_set member with old | rfl
    · exact .inl (.inr ⟨u,old,own⟩)
    · exact .inr (worker w own)

theorem awaitsTask {i : Nat} {t : ControlPlane.Task} (found : s.plane.tasks[i]? = some t) {w : Worker} (mode : t.mode = .apply)
    (caller : t.caller = .waiting) (worker : t.worker = w) : Awaits s w :=
  .inl ⟨t,List.mem_of_getElem? found,by simp [taskWorker,mode,caller,worker]⟩

theorem awaitsBundle {i : Nat} {t : BundleTask} (found : s.bundles[i]? = some t) {w : Worker} {stage : Stage}
    (phase : t.phase = .waiting stage) (worker : t.worker = w) : Awaits s w :=
  .inr ⟨t,List.mem_of_getElem? found,by simp [bundleWorker,phase,worker]⟩

theorem bundleWorkerSome {t : BundleTask} {w : Worker} (own : bundleWorker t = some w) :
    (∃ stage, t.phase = .waiting stage) ∧ t.worker = w := by
  unfold bundleWorker at own
  split at own
  · exact ⟨⟨_,by assumption⟩,Option.some.inj own⟩
  · cases own

theorem taskWorkerSome {t : ControlPlane.Task} {w : Worker} (own : taskWorker t = some w) :
    t.mode = .apply ∧ t.caller = .waiting ∧ t.worker = w := by
  unfold taskWorker at own
  split at own
  · exact ⟨by assumption,by assumption,Option.some.inj own⟩
  · cases own

theorem loadMoves (live : Live) (t : ControlPlane.Task) {w : Worker}
    (own : taskWorker { t with worker := ControlPlane.loadWorker platform m live t } = some w) :
    Moves platform s .quiet w := by
  obtain ⟨mode,-,rfl⟩ := taskWorkerSome own
  dsimp only at mode ⊢
  unfold ControlPlane.loadWorker
  rw [mode]
  rcases ApplyManager.compileCases platform t.around (ApplyManager.buildProviders m live.admin t.config) with
    ⟨e,unmerged⟩ | ⟨cfg,-,merged⟩
  · simp only [unmerged]
    exact .unmerged e
  · simp only [merged]
    exact .started t.around cfg

theorem planeAdvances {plane : ControlPlane.State} {a : ControlPlane.Action}
    (taken : ControlPlane.Stepped platform m s.plane a plane) :
    Advances platform s { s with plane := plane, origin := originAfter s a } (planeEffect platform s.plane a) := by
  cases taken with
  | @arrived raw source mode around cfg checked measured =>
    refine ⟨rfl,?_,by simp [planeEffect]⟩
    rintro w (⟨u,member,own⟩ | later)
    · rcases List.mem_append.mp member with old | new
      · exact .inl (.inl ⟨u,old,own⟩)
      · cases List.mem_singleton.mp new
        cases (taskWorkerSome own).2.1
    · exact .inl (.inr later)
  | @pushed i t found caller =>
    refine advancesTask (i := i) ?_ rfl rfl ?_ (by simp [planeEffect])
    · simp [view,traffic,outliers,ControlPlane.setTask,planeEffect,after,originAfter]
    · intro w own
      obtain ⟨-,-,rfl⟩ := taskWorkerSome own
      exact .loading
  | @loaded i t found worker =>
    exact advancesTask (i := i) rfl rfl rfl (fun w own => loadMoves s.plane.live t own) (by simp [planeEffect])
  | @called i t now script made replies call found worker next =>
    have same : planeEffect platform s.plane (.call i now) = callEffect now call := by
      simp [planeEffect,found,workerEffect,worker,next]
    rw [same]
    refine advancesTask (i := i) (performView ..) rfl rfl ?_ (fun snapshot cfg is => absurd is (callPublishes now call snapshot cfg))
    intro w own
    obtain ⟨mode,caller,rfl⟩ := taskWorkerSome own
    exact .called now (awaitsTask found mode caller worker) next
  | @finished i t script made replies found worker all =>
    refine advancesTask (i := i) rfl rfl rfl ?_ (by simp [planeEffect])
    intro w own
    obtain ⟨mode,caller,rfl⟩ := taskWorkerSome own
    exact .finished (awaitsTask found mode caller worker) all
  | @refused i t e found caller worker =>
    have same : planeEffect platform s.plane (.receive i) = .quiet := by simp [planeEffect,found,caller,worker]
    have kept : originAfter s (.receive i) = s.origin := by simp [originAfter,found,caller,worker]
    rw [same,kept]
    refine advancesTask (i := i) rfl rfl rfl ?_ (by simp)
    intro w own
    cases (taskWorkerSome own).2.1
  | @accepted i t r found caller worker =>
    cases mode : t.mode with
    | validate =>
      have same : planeEffect platform s.plane (.receive i) = .quiet := by simp [planeEffect,found,caller,worker,mode]
      have kept : originAfter s (.receive i) = s.origin := by simp [originAfter,found,caller,worker,mode]
      rw [same,kept]
      refine advancesTask (i := i) ?_ rfl rfl ?_ (by simp)
      · simp [view,traffic,outliers,ControlPlane.setTask,ControlPlane.published,ApplyManager.publish,mode,after]
      · intro w own
        cases (taskWorkerSome own).2.1
    | apply =>
      have same : planeEffect platform s.plane (.receive i) =
          .publish (ControlPlane.published platform s.plane t r).1.snapshot r.config := by
        simp [planeEffect,found,caller,worker,mode]
      have set : originAfter s (.receive i) = some r.config := by simp [originAfter,found,caller,worker,mode]
      rw [same,set]
      refine advancesTask (i := i) ?_ rfl rfl ?_ ?_
      · simp [view,traffic,outliers,ControlPlane.setTask,ControlPlane.published,ApplyManager.publish,mode,after]
      · intro w own
        cases (taskWorkerSome own).2.1
      · intro snapshot cfg is
        cases is
        exact ⟨r,awaitsTask found mode caller worker,rfl,rfl⟩
  | @gaveUp i t cause found caller =>
    refine advancesTask (i := i) rfl rfl rfl ?_ (by simp [planeEffect])
    intro w own
    cases (taskWorkerSome own).2.1
  | @left i t result found caller =>
    refine advancesTask (i := i) ?_ rfl rfl ?_ (by simp [planeEffect])
    · simp [view,traffic,outliers,ControlPlane.setTask,planeEffect,after,originAfter]
    · intro w own
      cases (taskWorkerSome own).2.1
  | acquired current =>
    refine advancesSame ?_ rfl rfl (by simp [planeEffect])
    simp [view,traffic,outliers,planeEffect,after,originAfter]
  | released held =>
    refine advancesSame ?_ rfl rfl (by simp [planeEffect])
    simp [view,traffic,outliers,planeEffect,after,originAfter]
  | _ => exact advancesSame rfl rfl rfl (by simp [planeEffect])

theorem startsMoves (live : Live) (t : BundleTask) (stage : Stage) (around : Circumstance) {w : Worker}
    (own : bundleWorker (starts platform m live t stage around) = some w) : Moves platform s .quiet w := by
  unfold starts startBuild at own
  cases checked : checkRequest platform m live (stageBytes t stage) with
  | error e =>
    rw [checked] at own
    cases stage <;> cases own
  | ok cfg =>
    rw [checked] at own
    cases own
    exact .started around cfg

theorem rollbackView {t : BundleTask} (phase : t.phase = .rollingBack) (now : Int) :
    (⟨(Rollout.rollback rm t.previous now s.plane.live).2.store.current,
      if (Rollout.rollback rm t.previous now s.plane.live).1 = .rolledBack then t.previousOrigin else s.origin,
      (Rollout.rollback rm t.previous now s.plane.live).2.registries.traffic,
      (Rollout.rollback rm t.previous now s.plane.live).2.registries.outlier⟩ : View) =
      after platform.runes (view s) (bundleEffect platform rm s t (.back now)) := by
  unfold Rollout.rollback
  cases previous : t.previous with
  | none => simp [bundleEffect,phase,previous,after,view,traffic,outliers]
  | some snapshot =>
    cases store : rm.hasStore with
    | false => simp [bundleEffect,phase,previous,store,after,view,traffic,outliers]
    | true => simp [bundleEffect,phase,previous,store,after,view,traffic,outliers]

theorem restsMoves {t : BundleTask} {w : Worker} (phase : ∀ stage, t.phase ≠ .waiting stage)
    (own : bundleWorker t = some w) : Moves platform s e w := by
  obtain ⟨⟨stage,waiting⟩,-⟩ := bundleWorkerSome own
  exact absurd waiting (phase stage)

theorem phaseFailedRests (stage other : Stage) : phaseFailed stage ≠ .waiting other := by
  cases stage <;> simp [phaseFailed]

theorem phaseDoneRests (stage other : Stage) : phaseDone stage ≠ .waiting other := by
  cases stage <;> simp [phaseDone]

theorem validatedRests (live : Live) (t : BundleTask) (other : Stage) :
    (validated platform m live t).phase ≠ .waiting other := by
  unfold validated
  split <;> simp

theorem bakedRests (t : BundleTask) (cancelled : Bool) (toFloat : Rat → Rat) (rolling : Duration → Nat × Nat) (other : Stage) :
    (baked rm t cancelled toFloat rolling).phase ≠ .waiting other := by
  unfold baked
  split
  · simp
  · split <;> simp

theorem bundleAdvances {i : Nat} {t : BundleTask} {e : Event} (found : s.bundles[i]? = some t)
    (taken : SteppedBundle platform rm m s i t e s') : Advances platform s s' (bundleEffect platform rm s t e) := by
  cases taken with
  | validated =>
    exact advancesBundle (i := i) rfl rfl rfl (fun w => restsMoves (validatedRests s.plane.live t)) (by simp [bundleEffect])
  | locked => exact advancesBundle (i := i) rfl rfl rfl (fun w own => startsMoves _ t .locked _ own) (by simp [bundleEffect])
  | @called now script made replies call worker next =>
    have same : bundleEffect platform rm s t (.call now) = callEffect now call := by
      simp [bundleEffect,workerEffect,worker,next]
    rw [same]
    refine advancesBundle (i := i) (performView ..) rfl rfl ?_
      (fun snapshot cfg is => absurd is (callPublishes now call snapshot cfg))
    intro w own
    obtain ⟨⟨stage,phase⟩,rfl⟩ := bundleWorkerSome own
    exact .called now (awaitsBundle found phase worker) next
  | finished worker all =>
    refine advancesBundle (i := i) rfl rfl rfl ?_ (by simp [bundleEffect])
    intro w own
    obtain ⟨⟨stage,phase⟩,rfl⟩ := bundleWorkerSome own
    exact .finished (awaitsBundle found phase worker) all
  | @refused stage e phase worker =>
    have same : bundleEffect platform rm s t .receive = .quiet := by simp [bundleEffect,phase,worker]
    rw [same]
    exact advancesBundle (i := i) rfl rfl rfl (fun w => restsMoves (phaseFailedRests stage)) (by simp)
  | @accepted stage r phase worker =>
    have same : bundleEffect platform rm s t .receive =
        .publish (publishes platform s.plane.live t stage r).1.snapshot r.config := by
      simp [bundleEffect,phase,worker]
    rw [same]
    refine advancesBundle (i := i) ?_ rfl rfl (fun w => restsMoves (phaseDoneRests stage)) ?_
    · simp [view,traffic,outliers,setBundle,setLive,publishes,ApplyManager.publish,after]
    · intro snapshot cfg is
      cases is
      exact ⟨r,awaitsBundle found phase worker,rfl,rfl⟩
  | @gaveUp stage phase =>
    exact advancesBundle (i := i) rfl rfl rfl (fun w => restsMoves (phaseFailedRests stage)) (by simp [bundleEffect])
  | baked => exact advancesBundle (i := i) rfl rfl rfl (fun w => restsMoves (bakedRests t _ _ _)) (by simp [bundleEffect])
  | filled => exact advancesBundle (i := i) rfl rfl rfl (fun w own => startsMoves _ t .full _ own) (by simp [bundleEffect])
  | @back now phase =>
    refine advancesBundle (i := i) (rollbackView phase now) rfl rfl (fun w => restsMoves (by simp)) ?_
    intro snapshot cfg is
    simp only [bundleEffect, phase] at is
    split at is
    · split at is <;> cases is
    · cases is

theorem advances {a : Action} (taken : step platform rm m s a = some s') : Advances platform s s' (effect platform rm s a) := by
  cases a with
  | plane a =>
    obtain ⟨plane,moved,rfl⟩ := Option.map_eq_some_iff.mp taken
    exact planeAdvances (ControlPlane.stepped moved)
  | bundle b sourceOverride around =>
    simp only [step] at taken
    split at taken
    · cases taken
      exact advancesSame rfl rfl rfl (by simp [effect])
    · cases taken
      refine ⟨rfl,?_,by simp [effect]⟩
      rintro w (earlier | ⟨u,member,own⟩)
      · exact .inl (.inl earlier)
      · rcases List.mem_append.mp member with old | new
        · exact .inl (.inr ⟨u,old,own⟩)
        · cases List.mem_singleton.mp new
          cases own
  | act i e =>
    obtain ⟨t,found,moved⟩ := Option.bind_eq_some_iff.mp taken
    have same : effect platform rm s (.act i e) = bundleEffect platform rm s t e := by simp [effect,found]
    rw [same]
    exact bundleAdvances found (steppedBundle platform rm m moved)
  | reapTraffic order now =>
    cases taken
    exact advancesSame rfl rfl rfl (by simp [effect])
  | drainUntil plan now =>
    cases taken
    exact advancesSame rfl rfl rfl (by simp [effect])
  | reapOutliers now =>
    cases taken
    exact advancesSame rfl rfl rfl (by simp [effect])
  | record key addr success latency now =>
    cases taken
    exact advancesSame rfl rfl rfl (by simp [effect])
  | askEjected key addr now =>
    cases taken
    exact advancesSame rfl rfl rfl (by simp [effect])
  | evaluateLatency key order now =>
    cases taken
    exact advancesSame rfl rfl rfl (by simp [effect])

theorem Advances.installs (went : Advances platform s s' e) : Installs s s' e := by
  have current := congrArg View.current went.view
  have origin := congrArg View.origin went.view
  cases e with
  | publish snapshot cfg =>
    obtain ⟨r,awaited,compiled,rfl⟩ := went.publishes snapshot cfg rfl
    exact .published awaited current compiled origin
  | putBack snapshot was =>
    exact .putBack rfl current origin (congrArg View.traffic went.view) (congrArg View.outlier went.view)
  | _ => exact .kept current origin

theorem awaitsEmpty {w : Worker} : ¬Awaits {} w := by
  rintro (⟨t,inside,-⟩ | ⟨t,inside,-⟩)
  · cases inside
  · cases inside

def Remembers (s : State) (snapshot : Snapshot) (origin : Option Config) : Prop :=
  ∃ t ∈ s.bundles, t.previous = some snapshot ∧ t.previousOrigin = origin

theorem remembersEmpty {snapshot : Snapshot} {origin : Option Config} : ¬Remembers {} snapshot origin := by
  rintro ⟨t,inside,-⟩
  cases inside

theorem startsPrevious (live : Live) (t : BundleTask) (stage : Stage) (around : Circumstance) :
    (starts platform m live t stage around).previous = t.previous ∧
      (starts platform m live t stage around).previousOrigin = t.previousOrigin := by
  unfold starts
  split <;> exact ⟨rfl,rfl⟩

theorem stepBundlePrevious {i : Nat} {t : BundleTask} {e : Event} (taken : SteppedBundle platform rm m s i t e s') :
    ∃ t', s'.bundles = s.bundles.set i t' ∧ t'.previous = t.previous ∧ t'.previousOrigin = t.previousOrigin := by
  cases taken with
  | validated =>
    refine ⟨_,rfl,?_⟩
    unfold validated
    split <;> exact ⟨rfl,rfl⟩
  | locked => exact ⟨_,rfl,startsPrevious ..⟩
  | filled => exact ⟨_,rfl,startsPrevious ..⟩
  | baked =>
    refine ⟨_,rfl,?_⟩
    unfold baked
    split
    · exact ⟨rfl,rfl⟩
    · split <;> exact ⟨rfl,rfl⟩
  | _ => exact ⟨_,rfl,rfl,rfl⟩

theorem remembered {a : Action} (taken : step platform rm m s a = some s') {snapshot : Snapshot} {origin : Option Config}
    (now : Remembers s' snapshot origin) :
    Remembers s snapshot origin ∨ (s.plane.live.store.current = some snapshot ∧ s.origin = origin) := by
  obtain ⟨t,inside,previous⟩ := now
  cases a with
  | plane a =>
    obtain ⟨plane,moved,rfl⟩ := Option.map_eq_some_iff.mp taken
    exact .inl ⟨t,inside,previous⟩
  | bundle b sourceOverride around =>
    simp only [step] at taken
    split at taken
    · cases taken
      exact .inl ⟨t,inside,previous⟩
    · cases taken
      rcases List.mem_append.mp inside with old | new
      · exact .inl ⟨t,old,previous⟩
      · cases List.mem_singleton.mp new
        obtain ⟨was,rfl⟩ := previous
        simp only [Rollout.previousOf] at was
        split at was
        · exact .inr ⟨was,rfl⟩
        · cases was
  | act i e =>
    obtain ⟨u,found,moved⟩ := Option.bind_eq_some_iff.mp taken
    obtain ⟨u',bundles,same,also⟩ := stepBundlePrevious (steppedBundle platform rm m moved)
    rw [bundles] at inside
    rcases List.mem_or_eq_of_mem_set inside with old | rfl
    · exact .inl ⟨t,old,previous⟩
    · exact .inl ⟨u,List.mem_of_getElem? found,same.symm.trans previous.1,also.symm.trans previous.2⟩
  | _ =>
    cases taken
    exact .inl ⟨t,inside,previous⟩

theorem heldFrom {a : Action} (taken : step platform rm m s a = some s') {snapshot : Snapshot}
    (held : some snapshot ∈ s'.plane.requests) :
    some snapshot ∈ s.plane.requests ∨ s.plane.live.store.current = some snapshot := by
  cases a with
  | plane a =>
    obtain ⟨plane,moved,rfl⟩ := Option.map_eq_some_iff.mp taken
    exact ControlPlane.heldFrom (ControlPlane.stepped moved) held
  | bundle b sourceOverride around =>
    simp only [step] at taken
    split at taken <;> cases taken <;> exact .inl held
  | act i e =>
    obtain ⟨t,-,moved⟩ := Option.bind_eq_some_iff.mp taken
    cases steppedBundle platform rm m moved <;> exact .inl held
  | _ =>
    cases taken
    exact .inl held

theorem putBackRemembered {a : Action} {snapshot : Snapshot} {origin : Option Config}
    (back : effect platform rm s a = .putBack snapshot origin) : Remembers s snapshot origin := by
  have calls (now : Int) (w : Worker) : workerEffect now w ≠ .putBack snapshot origin := by
    unfold workerEffect
    split
    · split
      · rename_i call _
        cases call <;> simp [callEffect]
      · simp
    · simp
  cases a with
  | plane a =>
    cases a with
    | call i now =>
      simp only [effect, planeEffect] at back
      cases found : s.plane.tasks[i]? with
      | none => simp [found] at back
      | some t => exact absurd (by simpa [found] using back) (calls now t.worker)
    | receive i =>
      simp only [effect, planeEffect] at back
      cases found : s.plane.tasks[i]? with
      | none => simp [found] at back
      | some t =>
        simp only [found, Option.elim_some] at back
        split at back <;> cases back
    | _ => cases back
  | act i e =>
    simp only [effect] at back
    cases found : s.bundles[i]? with
    | none => simp [found] at back
    | some t =>
      simp only [found, Option.elim_some] at back
      cases e with
      | call now => exact absurd back (calls now t.worker)
      | receive =>
        simp only [bundleEffect] at back
        split at back <;> cases back
      | back now =>
        simp only [bundleEffect] at back
        split at back
        · rename_i previous
          split at back
          · cases back
            exact ⟨t,List.mem_of_getElem? found,previous,rfl⟩
          · cases back
        · cases back
      | _ => cases back
  | _ => cases back

end

section
variable {platform : Platform} {rm : Rollout.Manager} {m : ApplyManager.Manager} {s : State} {i : Nat} {t : BundleTask}

theorem bundleFound {u : BundleTask} (found : s.bundles[i]? = some t) : (setBundle s i u).bundles[i]? = some u :=
  List.getElem?_set_self (List.getElem?_eq_some_iff.mp found).1

theorem builtRun {script : Build CompileResult} (c : Circumstance) (found : s.bundles[i]? = some t)
    (worker : t.worker = .calling script 0 []) :
    ∃ as, Runs (step platform rm m) anyStep s as
      (setBundle (setRegistries s (ApplyManager.execute platform c s.plane.live.registries script).2) i
        { t with worker := .finished (ApplyManager.execute platform c s.plane.live.registries script).1 }) := by
  let embed (r : Registries) (w : Worker) : State := setBundle (setRegistries s r) i { t with worker := w }
  have at_ (r : Registries) (w : Worker) : (embed r w).bundles[i]? = some { t with worker := w } := bundleFound found
  have start : embed s.plane.live.registries (.calling script 0 []) = s := by
    have same : { t with worker := .calling script 0 [] } = t := by rw [← worker]
    obtain ⟨inside,here⟩ := List.getElem?_eq_some_iff.mp found
    have stays : s.bundles.set i t = s.bundles := by rw [← here, List.set_getElem_self]
    simp only [embed, setBundle, setRegistries, setLive, same, stays]
  have calls (r made replies call now) (next : script.calls[made]? = some call) :
      step platform rm m (embed r (.calling script made replies)) (.act i (.call now)) = some (embed
        (perform platform.runes r (now,call)).2 (callWorker script made replies (perform platform.runes r (now,call)).1)) := by
    simp only [step, at_, Option.bind_some, stepBundle, next]
    simp [embed,setBundle,setRegistries,setLive]
  have finishes (r made replies) (all : script.calls.length ≤ made) :
      step platform rm m (embed r (.calling script made replies)) (.act i .finish) =
        some (embed r (.finished (linked script replies))) := by
    simp only [step, at_, Option.bind_some, stepBundle, if_pos all]
    simp [embed,setBundle,setRegistries,setLive]
  obtain ⟨as,runs⟩ := @ControlPlane.workerRun platform State Action (step platform rm m) embed (fun now => .act i (.call now))
    (.act i .finish) script calls finishes (ApplyManager.stamp c.clock script.calls) s.plane.live.registries 0 []
    (ApplyManager.stampCalls ..)
  rw [start] at runs
  rw [ControlPlane.executedAnswered c]
  exact ⟨as,runs⟩

def startEvent (around : Circumstance) : Stage → Event
  | .locked => .lock around
  | .full => .fill around

def startPhase : Stage → Phase
  | .locked => .locking
  | .full => .filling

def phaseOf (stage : Stage) (result : Except Message Result) : Phase :=
  match result with
  | .error _ => phaseFailed stage
  | .ok _ => phaseDone stage

theorem startStep {around : Circumstance} {stage : Stage} (found : s.bundles[i]? = some t) (phase : t.phase = startPhase stage) :
    step platform rm m s (.act i (startEvent around stage)) =
      some (setBundle s i (starts platform m s.plane.live t stage around)) := by
  cases stage with
  | locked => simp [step,found,stepBundle,startEvent,phase,startPhase]
  | full => simp [step,found,stepBundle,startEvent,phase,startPhase]

theorem refusedStep {stage : Stage} {e : Message} (found : s.bundles[i]? = some t) (phase : t.phase = .waiting stage)
    (worker : t.worker = .finished (.error e)) :
    step platform rm m s (.act i .receive) = some (setBundle s i { t with phase := phaseFailed stage }) := by
  simp [step,found,stepBundle,phase,worker]

theorem acceptedStep {stage : Stage} {r : CompileResult} (found : s.bundles[i]? = some t) (phase : t.phase = .waiting stage)
    (worker : t.worker = .finished (.ok r)) :
    step platform rm m s (.act i .receive) = some (setBundle
      { setLive s (publishes platform s.plane.live t stage r).2 with origin := some r.config } i
      { t with phase := phaseDone stage }) := by
  simp [step,found,stepBundle,phase,worker]

structure Onward (t t' : BundleTask) (phase : Phase) : Prop where
  raw : t'.raw = t.raw
  source : t'.source = t.source
  version : t'.version = t.version
  previous : t'.previous = t.previous
  phase : t'.phase = phase

theorem stageRun {around : Circumstance} {stage : Stage} (inTime : around.timing = .inTime) (found : s.bundles[i]? = some t)
    (phase : t.phase = startPhase stage) :
    ∃ as s' t', Runs (step platform rm m) anyStep s as s' ∧ s'.bundles[i]? = some t' ∧
      s'.plane.live =
        (applyResolvedVersion platform m around s.plane.live (stageBytes t stage) t.source t.version .apply).live ∧
      Onward t t' (phaseOf stage
        (applyResolvedVersion platform m around s.plane.live (stageBytes t stage) t.source t.version .apply).result) := by
  have begins := @startStep platform rm m s i t around stage found phase
  unfold applyResolvedVersion
  unfold starts startBuild at begins
  cases checked : checkRequest platform m s.plane.live (stageBytes t stage) with
  | error e =>
    rw [checked] at begins
    exact ⟨_,_,_,.cons trivial begins (.nil _),bundleFound found,rfl,rfl,rfl,rfl,rfl,rfl⟩
  | ok cfg =>
    rw [checked] at begins
    let building : BundleTask :=
      { t with around := around, worker := .calling (compileResolved platform around cfg) 0 [], phase := .waiting stage }
    have here : (setBundle s i building).bundles[i]? = some building := bundleFound found
    obtain ⟨calls,built⟩ := @builtRun platform rm m (setBundle s i building) i building _ around here rfl
    change Runs _ _ _ _ (setBundle (setRegistries (setBundle s i building)
      (ApplyManager.execute platform around s.plane.live.registries (compileResolved platform around cfg)).2) i
      { building with worker := .finished (ApplyManager.execute platform around s.plane.live.registries
          (compileResolved platform around cfg)).1 }) at built
    dsimp only
    rw [inTime]
    dsimp only
    cases done : ApplyManager.execute platform around s.plane.live.registries (compileResolved platform around cfg) with
    | mk result after =>
      rw [done] at built
      have there : (setBundle (setRegistries (setBundle s i building) after) i
          { building with worker := .finished result }).bundles[i]? = some { building with worker := .finished result } :=
        bundleFound here
      cases result with
      | error e =>
        have received := @refusedStep platform rm m _ i _ stage e there rfl rfl
        exact ⟨_,_,_,.cons trivial begins (built.append (.cons trivial received (.nil _))),bundleFound there,rfl,
          rfl,rfl,rfl,rfl,rfl⟩
      | ok r =>
        have received := @acceptedStep platform rm m _ i _ stage r there rfl rfl
        exact ⟨_,_,_,.cons trivial begins (built.append (.cons trivial received (.nil _))),bundleFound there,rfl,
          rfl,rfl,rfl,rfl,rfl⟩

theorem backRun {now : Int} (found : s.bundles[i]? = some t) (phase : t.phase = .rollingBack) :
    ∃ as s', Runs (step platform rm m) anyStep s as s' ∧
      s'.plane.live = (Rollout.rollback rm t.previous now s.plane.live).2 := by
  have backs : step platform rm m s (.act i (.back now)) = stepBundle platform rm m s i t (.back now) := by simp [step,found]
  simp only [stepBundle, phase] at backs
  exact ⟨_,_,.cons trivial backs (.nil _),rfl⟩

def afterFull (rm : Rollout.Manager) (previous : Option Snapshot) (now : Int) (full : ApplyManager.Outcome) : Live :=
  match full.result with
  | .error _ => (Rollout.rollback rm previous now full.live).2
  | .ok _ => full.live

theorem fullRun {around : Circumstance} {now : Int} (inTime : around.timing = .inTime) (found : s.bundles[i]? = some t)
    (phase : t.phase = .filling) :
    ∃ as s', Runs (step platform rm m) anyStep s as s' ∧ s'.plane.live =
      afterFull rm t.previous now (applyResolvedVersion platform m around s.plane.live t.raw t.source t.version .apply) := by
  obtain ⟨fills,s',t',filled,there,live,on⟩ := @stageRun platform rm m s i t around .full inTime found phase
  change s'.plane.live = (applyResolvedVersion platform m around s.plane.live t.raw t.source t.version .apply).live at live
  have now' := on.phase
  unfold afterFull
  change t'.phase = phaseOf .full
    (applyResolvedVersion platform m around s.plane.live t.raw t.source t.version .apply).result at now'
  cases full : (applyResolvedVersion platform m around s.plane.live t.raw t.source t.version .apply).result with
  | ok r => exact ⟨_,_,filled,live⟩
  | error e =>
    rw [full] at now'
    obtain ⟨backs,_,backed,after⟩ := @backRun platform rm m s' i t' now there now'
    exact ⟨_,_,filled.append backed,by rw [after,on.previous,live]⟩

def phaseBaked (rm : Rollout.Manager) (w : Rollout.Stages) : Phase :=
  match Rollout.bake rm w with
  | some _ => .returned
  | none =>
    match rm.gates.check w.toFloat w.rolling with
    | .error _ => .rollingBack
    | .ok _ => .filling

theorem bakeStep {w : Rollout.Stages} (found : s.bundles[i]? = some t) (phase : t.phase = .baking) :
    step platform rm m s (.act i (.baked w.cancelled.isSome w.toFloat w.rolling)) =
      some (setBundle s i { t with phase := phaseBaked rm w }) := by
  have bakes : step platform rm m s (.act i (.baked w.cancelled.isSome w.toFloat w.rolling)) =
      some (setBundle s i (baked rm t w.cancelled.isSome w.toFloat w.rolling)) := by
    simp [step,found,stepBundle,phase]
  rw [bakes]
  unfold baked phaseBaked Rollout.bake
  by_cases waits : 0 < rm.lockedBake
  · cases ended : w.cancelled with
    | some e => simp [waits]
    | none =>
      simp only [waits, Option.isSome_none, decide_true, Bool.and_false, Bool.false_eq_true, if_false, if_true]
      cases rm.gates.check w.toFloat w.rolling <;> rfl
  · simp only [waits, decide_false, Bool.false_and, Bool.false_eq_true, if_false]
    cases rm.gates.check w.toFloat w.rolling <;> rfl

def afterLocked (platform : Platform) (rm : Rollout.Manager) (m : ApplyManager.Manager) (w : Rollout.Stages)
    (t : BundleTask) (live : Live) : Live :=
  match Rollout.bake rm w with
  | some _ => live
  | none =>
    match rm.gates.check w.toFloat w.rolling with
    | .error _ => (Rollout.rollback rm t.previous w.rollbackTime live).2
    | .ok _ => afterFull rm t.previous w.rollbackTime (applyResolvedVersion platform m w.full live t.raw t.source t.version .apply)

theorem bakeRun {w : Rollout.Stages} (inTime : w.full.timing = .inTime) (found : s.bundles[i]? = some t)
    (phase : t.phase = .baking) :
    ∃ as s', Runs (step platform rm m) anyStep s as s' ∧ s'.plane.live = afterLocked platform rm m w t s.plane.live := by
  have bakes := @bakeStep platform rm m s i t w found phase
  have there : (setBundle s i { t with phase := phaseBaked rm w }).bundles[i]? = some { t with phase := phaseBaked rm w } :=
    bundleFound found
  have waited : Runs (step platform rm m) anyStep s _ _ := .cons trivial bakes (.nil _)
  unfold afterLocked
  cases ended : Rollout.bake rm w with
  | some e => exact ⟨_,_,waited,rfl⟩
  | none =>
    cases passed : rm.gates.check w.toFloat w.rolling with
    | error e =>
      have shut : phaseBaked rm w = .rollingBack := by simp [phaseBaked,ended,passed]
      obtain ⟨backs,_,backed,after⟩ := @backRun platform rm m _ i _ w.rollbackTime there shut
      exact ⟨_,_,waited.append backed,after⟩
    | ok _ =>
      have passes : phaseBaked rm w = .filling := by simp [phaseBaked,ended,passed]
      obtain ⟨fills,_,filled,after⟩ := @fullRun platform rm m _ i _ w.full w.rollbackTime inTime there passes
      exact ⟨_,_,waited.append filled,after⟩

theorem aloneRollsOut (s : State) (b : Rollout.Bundle) (sourceOverride : String) {w : Rollout.Stages}
    (available : rm.apply = some m) (lockedInTime : w.locked.timing = .inTime) (fullInTime : w.full.timing = .inTime) :
    ∃ as s', Runs (step platform rm m) anyStep s as s' ∧
      s'.plane.live = (Rollout.applyBundle platform rm w s.plane.live b sourceOverride).live := by
  unfold Rollout.applyBundle
  rw [available]
  dsimp only
  cases decoded : b.configBytes platform with
  | error e =>
    have turned : step platform rm m s (.bundle b sourceOverride w.validate) = some s := by simp [step,decoded]
    exact ⟨_,s,.cons trivial turned (.nil _),rfl⟩
  | ok raw =>
    dsimp only
    let t : BundleTask :=
      { raw := raw, source := Rollout.sourceOf b sourceOverride, version := b.version, around := w.validate
        previous := Rollout.previousOf rm s.plane.live, previousOrigin := s.origin }
    let entered : State := { s with bundles := s.bundles ++ [t] }
    have joins : step platform rm m s (.bundle b sourceOverride w.validate) = some entered := by
      simp [step,decoded,t,entered]
    have here : entered.bundles[s.bundles.length]? = some t := List.getElem?_concat_length
    have checks : step platform rm m entered (.act s.bundles.length .validated) =
        some (setBundle entered s.bundles.length (validated platform m s.plane.live t)) := by
      simp only [step, here, Option.bind_some, stepBundle, t]
      rfl
    have enter : Runs (step platform rm m) anyStep s _ _ := .cons trivial joins (.cons trivial checks (.nil _))
    unfold validated at enter
    cases valid : (applyResolvedVersion platform m w.validate s.plane.live raw (Rollout.sourceOf b sourceOverride) b.version
        .validate).result with
    | error e => exact ⟨_,_,enter,rfl⟩
    | ok checked =>
      cases masked : Rollout.lockConfigBytes platform raw with
      | error e => exact ⟨_,_,enter,rfl⟩
      | ok lockedBytes =>
        let masking : BundleTask := { t with lockedBytes := lockedBytes, phase := .locking }
        simp only [t, valid, masked] at enter
        obtain ⟨locks,s₁,t₁,locked,there,live,on⟩ := @stageRun platform rm m (setBundle entered s.bundles.length masking)
          s.bundles.length masking w.locked .locked lockedInTime (bundleFound here) rfl
        change s₁.plane.live = (applyResolvedVersion platform m w.locked s.plane.live lockedBytes
          (Rollout.sourceOf b sourceOverride) b.version .apply).live at live
        have phase : t₁.phase = phaseOf .locked (applyResolvedVersion platform m w.locked s.plane.live lockedBytes
          (Rollout.sourceOf b sourceOverride) b.version .apply).result := on.phase
        dsimp only
        rw [← live]
        cases result : (applyResolvedVersion platform m w.locked s.plane.live lockedBytes
            (Rollout.sourceOf b sourceOverride) b.version .apply).result with
        | error e => exact ⟨_,_,enter.append locked,rfl⟩
        | ok r =>
          rw [result] at phase
          obtain ⟨bakes,s₂,ended,after⟩ := @bakeRun platform rm m s₁ s.bundles.length t₁ w fullInTime there phase
          refine ⟨_,_,(enter.append locked).append ended,?_⟩
          rw [after]
          unfold afterLocked afterFull
          rw [on.previous,on.raw,on.source,on.version]
          dsimp only
          cases Rollout.bake rm w with
          | some e => rfl
          | none =>
            cases rm.gates.check w.toFloat w.rolling with
            | error e => rfl
            | ok _ =>
              dsimp only [masking, t]
              cases (applyResolvedVersion platform m w.full s₁.plane.live raw (Rollout.sourceOf b sourceOverride) b.version
                .apply).result <;> rfl

end

def locksDown (n : Nat) : List Action :=
  [.bundle ⟨[],"bundle",Rollout.encoded⟩ "" ApplyManager.calm,.act 0 .validated,.act 0 (.lock ApplyManager.calm)] ++
    List.replicate n (.act 0 (.call 0)) ++ [.act 0 .finish,.act 0 .receive]

def opensUp (n : Nat) : List Action :=
  [.act 0 (.baked false id (fun _ => (0,0))),.act 0 (.fill ApplyManager.calm)] ++
    List.replicate n (.act 0 (.call 0)) ++ [.act 0 .finish,.act 0 .receive]

end ReverseProxy.Deployments
