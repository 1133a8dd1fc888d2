import ReverseProxy.PoolCoverage
import ReverseProxy.Transition

/-! The proxy while its configuration changes: any number of Manager.Apply calls, each
with its compile goroutine, any number of requests on the snapshots they acquired, and
the registry's own reaper and reports. A step is one operation of one of them; that of
Registry.Reconcile, Pick and the reaper takes more than one lock. A call that gave up
leaves its goroutine running. -/
namespace ReverseProxy.ControlPlane
open GoValues CallScript ConfigData ConfigValidation ProviderMerge SnapshotBuild SnapshotStore
open ApplyManager (Mode Manager Live Circumstance Result CompileResult checkRequest compile buildProviders execute publish
  configVersion)
open PoolRegistry (PoolKey EndpointRuntime)
open Transition (Runs anyStep)

/- The compile goroutine: not started, before Merge, after some of its registry
calls, or done. -/
inductive Worker where
  | idle
  | loading
  | calling (script : Build CompileResult) (made : Nat) (replies : List Reply)
  | finished (result : Except Message CompileResult)

/- The call itself: before it swaps the admin config, waiting for its goroutine,
about to run its deferred restore, or over. -/
inductive Caller where
  | entered
  | waiting
  | leaving (result : Except Message Result)
  | returned (result : Except Message Result)

structure Task where
  raw : Bytes
  source : String
  mode : Mode
  around : Circumstance
  config : Config
  previous : Option Config := none
  worker : Worker := .idle
  caller : Caller := .entered

structure Install where
  raw : Bytes
  config : Config
  snapshot : Snapshot

structure State where
  live : Live := {}
  tasks : List Task := []
  requests : List (Option Snapshot) := []
  installs : List Install := []

inductive Report where
  | inflightStart
  | inflightDone
  | passiveSuccess
  | passiveFailure (now : Int)
  | activeSuccess (now : Int)
  | activeFailure (now : Int)

def Report.update : Report → EndpointRuntime → EndpointRuntime
  | .inflightStart => EndpointRuntime.inflightInc
  | .inflightDone => EndpointRuntime.inflightDec
  | .passiveSuccess => EndpointRuntime.recordPassiveSuccess
  | .passiveFailure now => fun e => e.recordPassiveFailure now
  | .activeSuccess now => fun e => e.recordActiveSuccess now
  | .activeFailure now => fun e => e.recordActiveFailure now

inductive Action where
  | arrive (raw : Bytes) (source : String) (mode : Mode) (around : Circumstance)
  | push (i : Nat)
  | load (i : Nat)
  | call (i : Nat) (now : Int)
  | finish (i : Nat)
  | receive (i : Nat)
  | giveUp (i : Nat) (cause : Message)
  | leave (i : Nat)
  | acquire
  | pick (j : Nat) (pool : String) (scan : List String) (outlierEjected : String → Bool) (now : Int)
  | release (j : Nat)
  | reap (now : Int)
  | report (key : PoolKey) (addr : String) (r : Report)

def setTask (s : State) (i : Nat) (t : Task) : State := { s with tasks := s.tasks.set i t }

def setRegistry (s : State) (r : PoolRegistry.Registry) : State :=
  { s with live := { s.live with registries := { s.live.registries with registry := r } } }

def pushAdmin (m : Manager) (live : Live) (cfg : Config) : Live :=
  if m.hasAdmin then { live with admin := some cfg } else live

/- The deferred Swap: always when validating, else only after an error. -/
def restoreAdmin (m : Manager) (live : Live) (t : Task) (result : Except Message Result) : Live :=
  if m.hasAdmin ∧ (t.mode = .validate ∨ result.toOption.isNone) then { live with admin := t.previous } else live

@[simp] theorem pushAdminStore (m : Manager) (live : Live) (cfg : Config) : (pushAdmin m live cfg).store = live.store := by
  unfold pushAdmin
  split <;> rfl

@[simp] theorem pushAdminRegistries (m : Manager) (live : Live) (cfg : Config) :
    (pushAdmin m live cfg).registries = live.registries := by
  unfold pushAdmin
  split <;> rfl

@[simp] theorem restoreAdminStore (m : Manager) (live : Live) (t : Task) (result : Except Message Result) :
    (restoreAdmin m live t result).store = live.store := by
  unfold restoreAdmin
  split <;> rfl

@[simp] theorem restoreAdminRegistries (m : Manager) (live : Live) (t : Task) (result : Except Message Result) :
    (restoreAdmin m live t result).registries = live.registries := by
  unfold restoreAdmin
  split <;> rfl

/- Merge reads the admin provider; a validation then runs on registries of its own. -/
def loadWorker (platform : Platform) (m : Manager) (live : Live) (t : Task) : Worker :=
  let script := compile platform t.around (buildProviders m live.admin t.config)
  match t.mode with
  | .apply => .calling script 0 []
  | .validate => .finished (execute platform t.around {} script).1

def callWorker (script : Build CompileResult) (made : Nat) (replies : List Reply) : Except Message Reply → Worker
  | .error e => .finished (.error e)
  | .ok r => .calling script (made + 1) (replies ++ [r])

def linked (script : Build CompileResult) (replies : List Reply) : Except Message CompileResult :=
  script.result.map (fun r => { r with compiled := linkPlans replies r.compiled })

def published (platform : Platform) (s : State) (t : Task) (r : CompileResult) : Result × Live :=
  publish t.around s.live t.mode t.source (configVersion platform t.raw) r

def installed (s : State) (t : Task) (done : Result) : List Install :=
  if t.mode = .apply then s.installs ++ [⟨t.raw,t.config,done.snapshot⟩] else s.installs

def stepTask (platform : Platform) (m : Manager) (s : State) (i : Nat) (t : Task) : Action → Option State
  | .push _ =>
    match t.caller with
    | .entered => some (setTask { s with live := pushAdmin m s.live t.config } i
        { t with previous := s.live.admin, worker := .loading, caller := .waiting })
    | _ => none
  | .load _ =>
    match t.worker with
    | .loading => some (setTask s i { t with worker := loadWorker platform m s.live t })
    | _ => none
  | .call _ now =>
    match t.worker with
    | .calling script made replies =>
      match script.calls[made]? with
      | none => none
      | some call =>
        let answer := perform platform.runes s.live.registries (now,call)
        some (setTask { s with live := { s.live with registries := answer.2 } } i
          { t with worker := callWorker script made replies answer.1 })
    | _ => none
  | .finish _ =>
    match t.worker with
    | .calling script made replies =>
      if script.calls.length ≤ made then some (setTask s i { t with worker := .finished (linked script replies) })
      else none
    | _ => none
  | .receive _ =>
    match t.caller,t.worker with
    | .waiting,.finished (.error e) => some (setTask s i { t with caller := .leaving (.error e) })
    | .waiting,.finished (.ok r) =>
      let done := published platform s t r
      some (setTask { s with live := done.2, installs := installed s t done.1 } i { t with caller := .leaving (.ok done.1) })
    | _,_ => none
  | .giveUp _ cause =>
    match t.caller with
    | .waiting => some (setTask s i { t with caller := .leaving (.error cause) })
    | _ => none
  | .leave _ =>
    match t.caller with
    | .leaving result =>
      some (setTask { s with live := restoreAdmin m s.live t result } i { t with caller := .returned result })
    | _ => none
  | _ => none

def stepRequest (s : State) (j : Nat) (snapshot : Snapshot) : Action → Option State
  | .pick _ pool scan outlierEjected now =>
    match snapshot.compiled.pools.get pool with
    | none => none
    | some key => some (setRegistry s (s.live.registries.registry.pick key scan outlierEjected now).2)
  | .release _ =>
    some { s with live := { s.live with store := s.live.store.release snapshot }, requests := s.requests.set j none }
  | _ => none

def Action.task? : Action → Option Nat
  | .push i => some i
  | .load i => some i
  | .call i _ => some i
  | .finish i => some i
  | .receive i => some i
  | .giveUp i _ => some i
  | .leave i => some i
  | _ => none

/- A call that is turned away by its first checks leaves no trace. -/
def step (platform : Platform) (m : Manager) (s : State) (a : Action) : Option State :=
  match a.task? with
  | some i => s.tasks[i]?.bind (fun t => stepTask platform m s i t a)
  | none =>
    match a with
    | .arrive raw source mode around =>
      match checkRequest platform m s.live raw with
      | .error _ => some s
      | .ok cfg =>
        match validateMetrics platform cfg.metrics with
        | .error _ => some s
        | .ok _ => some { s with tasks := s.tasks ++
            [{ raw := raw, source := source, mode := mode, around := around, config := cfg }] }
    | .acquire =>
      match s.live.store.current with
      | none => none
      | some snapshot => some { s with
          live := { s.live with store := s.live.store.acquire.2 }, requests := s.requests ++ [some snapshot] }
    | .pick j _ _ _ _ => (s.requests[j]?.bind id).bind (fun snapshot => stepRequest s j snapshot a)
    | .release j => (s.requests[j]?.bind id).bind (fun snapshot => stepRequest s j snapshot a)
    | .reap now => some (setRegistry s (s.live.registries.registry.reapOnce now))
    | .report key addr r => some (setRegistry s (s.live.registries.registry.onEndpoint key addr r.update))
    | _ => none

inductive Stepped (platform : Platform) (m : Manager) (s : State) : Action → State → Prop where
  | turnedAway {raw source mode around} : Stepped platform m s (.arrive raw source mode around) s
  | arrived {raw source mode around cfg} (checked : checkRequest platform m s.live raw = .ok cfg)
      (measured : validateMetrics platform cfg.metrics = .ok ()) :
      Stepped platform m s (.arrive raw source mode around) { s with tasks := s.tasks ++
        [{ raw := raw, source := source, mode := mode, around := around, config := cfg }] }
  | pushed {i t} (found : s.tasks[i]? = some t) (caller : t.caller = .entered) :
      Stepped platform m s (.push i) (setTask { s with live := pushAdmin m s.live t.config } i
        { t with previous := s.live.admin, worker := .loading, caller := .waiting })
  | loaded {i t} (found : s.tasks[i]? = some t) (worker : t.worker = .loading) :
      Stepped platform m s (.load i) (setTask s i { t with worker := loadWorker platform m s.live t })
  | called {i t now script made replies call} (found : s.tasks[i]? = some t)
      (worker : t.worker = .calling script made replies) (next : script.calls[made]? = some call) :
      Stepped platform m s (.call i now)
        (setTask { s with live := { s.live with
          registries := (perform platform.runes s.live.registries (now,call)).2 } } i
          { t with worker := callWorker script made replies (perform platform.runes s.live.registries (now,call)).1 })
  | finished {i t script made replies} (found : s.tasks[i]? = some t)
      (worker : t.worker = .calling script made replies) (all : script.calls.length ≤ made) :
      Stepped platform m s (.finish i) (setTask s i { t with worker := .finished (linked script replies) })
  | refused {i t e} (found : s.tasks[i]? = some t) (caller : t.caller = .waiting)
      (worker : t.worker = .finished (.error e)) :
      Stepped platform m s (.receive i) (setTask s i { t with caller := .leaving (.error e) })
  | accepted {i t r} (found : s.tasks[i]? = some t) (caller : t.caller = .waiting)
      (worker : t.worker = .finished (.ok r)) :
      Stepped platform m s (.receive i)
        (setTask { s with live := (published platform s t r).2, installs := installed s t (published platform s t r).1 } i
          { t with caller := .leaving (.ok (published platform s t r).1) })
  | gaveUp {i t cause} (found : s.tasks[i]? = some t) (caller : t.caller = .waiting) :
      Stepped platform m s (.giveUp i cause) (setTask s i { t with caller := .leaving (.error cause) })
  | left {i t result} (found : s.tasks[i]? = some t) (caller : t.caller = .leaving result) :
      Stepped platform m s (.leave i)
        (setTask { s with live := restoreAdmin m s.live t result } i { t with caller := .returned result })
  | acquired {snapshot} (current : s.live.store.current = some snapshot) :
      Stepped platform m s .acquire { s with
        live := { s.live with store := s.live.store.acquire.2 }, requests := s.requests ++ [some snapshot] }
  | picked {j pool scan outlierEjected now snapshot key} (held : s.requests[j]? = some (some snapshot))
      (known : snapshot.compiled.pools.get pool = some key) :
      Stepped platform m s (.pick j pool scan outlierEjected now)
        (setRegistry s (s.live.registries.registry.pick key scan outlierEjected now).2)
  | released {j snapshot} (held : s.requests[j]? = some (some snapshot)) :
      Stepped platform m s (.release j) { s with
        live := { s.live with store := s.live.store.release snapshot }, requests := s.requests.set j none }
  | reaped {now} : Stepped platform m s (.reap now) (setRegistry s (s.live.registries.registry.reapOnce now))
  | reported {key addr r} : Stepped platform m s (.report key addr r)
      (setRegistry s (s.live.registries.registry.onEndpoint key addr (Report.update r)))

theorem steppedTask {platform : Platform} {m : Manager} {s s' : State} {a : Action} {i : Nat} {t : Task}
    (own : a.task? = some i) (found : s.tasks[i]? = some t) (taken : stepTask platform m s i t a = some s') :
    Stepped platform m s a s' := by
  cases a with
  | push k =>
    cases own
    simp only [stepTask] at taken
    split at taken <;> cases taken
    exact .pushed found (by assumption)
  | load k =>
    cases own
    simp only [stepTask] at taken
    split at taken <;> cases taken
    exact .loaded found (by assumption)
  | call k now =>
    cases own
    simp only [stepTask] at taken
    split at taken <;> try cases taken
    split at taken <;> cases taken
    exact .called found (by assumption) (by assumption)
  | finish k =>
    cases own
    simp only [stepTask] at taken
    split at taken <;> try cases taken
    split at taken <;> cases taken
    exact .finished found (by assumption) (by assumption)
  | receive k =>
    cases own
    simp only [stepTask] at taken
    split at taken <;> cases taken
    · exact .refused found (by assumption) (by assumption)
    · exact .accepted found (by assumption) (by assumption)
  | giveUp k cause =>
    cases own
    simp only [stepTask] at taken
    split at taken <;> cases taken
    exact .gaveUp found (by assumption)
  | leave k =>
    cases own
    simp only [stepTask] at taken
    split at taken <;> cases taken
    exact .left found (by assumption)
  | _ => cases own

theorem stepped {platform : Platform} {m : Manager} {s s' : State} {a : Action} (taken : step platform m s a = some s') :
    Stepped platform m s a s' := by
  unfold step at taken
  cases own : a.task? with
  | some i =>
    rw [own] at taken
    obtain ⟨t,found,moved⟩ := Option.bind_eq_some_iff.mp taken
    exact steppedTask own found moved
  | none =>
    rw [own] at taken
    cases a with
    | arrive raw source mode around =>
      dsimp only at taken
      cases checked : checkRequest platform m s.live raw with
      | error e =>
        rw [checked] at taken
        cases taken
        exact .turnedAway
      | ok cfg =>
        rw [checked] at taken
        dsimp only at taken
        cases measured : validateMetrics platform cfg.metrics with
        | error e =>
          rw [measured] at taken
          cases taken
          exact .turnedAway
        | ok _ =>
          rw [measured] at taken
          cases taken
          exact .arrived checked measured
    | acquire =>
      dsimp only at taken
      split at taken <;> cases taken
      exact .acquired (by assumption)
    | pick j pool scan outlierEjected now =>
      obtain ⟨snapshot,holding,moved⟩ := Option.bind_eq_some_iff.mp taken
      obtain ⟨held,request,rfl⟩ := Option.bind_eq_some_iff.mp holding
      simp only [stepRequest] at moved
      split at moved <;> cases moved
      exact .picked request (by assumption)
    | release j =>
      obtain ⟨snapshot,holding,moved⟩ := Option.bind_eq_some_iff.mp taken
      obtain ⟨held,request,rfl⟩ := Option.bind_eq_some_iff.mp holding
      cases moved
      exact .released request
    | reap now =>
      cases taken
      exact .reaped
    | report key addr r =>
      cases taken
      exact .reported
    | _ => cases own

theorem heldFrom {platform : Platform} {m : Manager} {s s' : State} {a : Action} (taken : Stepped platform m s a s')
    {snapshot : Snapshot} (held : some snapshot ∈ s'.requests) :
    some snapshot ∈ s.requests ∨ s.live.store.current = some snapshot := by
  cases taken with
  | acquired current =>
    rcases List.mem_append.mp held with old | new
    · exact .inl old
    · cases List.mem_singleton.mp new
      exact .inr current
  | released => exact .inl ((List.mem_or_eq_of_mem_set held).resolve_right (by simp))
  | _ => exact .inl held

theorem loadStep {platform : Platform} {m : Manager} {s : State} {i : Nat} {t : Task} {script : Build CompileResult}
    (found : s.tasks[i]? = some t) (worker : t.worker = .loading) (mode : t.mode = .apply)
    (compiled : compile platform t.around (buildProviders m s.live.admin t.config) = script) :
    step platform m s (.load i) = some (setTask s i { t with worker := .calling script 0 [] }) := by
  simp [step,Action.task?,found,stepTask,worker,loadWorker,mode,compiled]

section
variable {platform : Platform} {m : Manager} {i : Nat}

theorem setTaskFound {s : State} {t u : Task} (found : s.tasks[i]? = some t) : (setTask s i u).tasks[i]? = some u :=
  List.getElem?_set_self (List.getElem?_eq_some_iff.mp found).choose

def answered (script : Build CompileResult) (replies : List Reply) : Except Message (List Reply) →
    Except Message CompileResult
  | .error e => .error e
  | .ok more => linked script (replies ++ more)

/- A goroutine with nobody in between, in any machine that embeds it: by induction on
its remaining calls, it ends with what `run` makes of them. -/
theorem workerRun {S A : Type} {step : S → A → Option S} {embed : Registries → Worker → S} {call : Int → A} {finish : A}
    {script : Build CompileResult}
    (calls : ∀ r made replies c now, script.calls[made]? = some c → step (embed r (.calling script made replies)) (call now) =
      some (embed (perform platform.runes r (now,c)).2 (callWorker script made replies (perform platform.runes r (now,c)).1)))
    (finishes : ∀ r made replies, script.calls.length ≤ made →
      step (embed r (.calling script made replies)) finish = some (embed r (.finished (linked script replies))))
    (timed : List (Int × Call)) {r : Registries} {made : Nat} {replies : List Reply}
    (rest : timed.map (·.2) = script.calls.drop made) :
    ∃ as, Runs step anyStep (embed r (.calling script made replies)) as
      (embed (run (perform platform.runes) r timed).2
        (.finished (answered script replies (run (perform platform.runes) r timed).1))) := by
  induction timed generalizing r made replies with
  | nil =>
    refine ⟨[finish],.cons trivial (finishes r made replies (List.drop_eq_nil_iff.mp rest.symm)) ?_⟩
    simp only [run, answered, List.append_nil]
    exact .nil _
  | cons head tail ih =>
    obtain ⟨now,c⟩ := head
    have next : script.calls[made]? = some c := by
      rw [← List.head?_drop,← rest]
      rfl
    have later : tail.map (·.2) = script.calls.drop (made + 1) := by
      rw [← List.tail_drop,← rest]
      rfl
    have taken := calls r made replies c now next
    cases answer : perform platform.runes r (now,c) with
    | mk reply after =>
      rw [answer] at taken
      cases reply with
      | error e =>
        refine ⟨[call now],.cons trivial taken ?_⟩
        simp only [run,answer]
        exact .nil _
      | ok given =>
        obtain ⟨as,runs⟩ := @ih after (made + 1) (replies ++ [given]) later
        refine ⟨call now :: as,.cons trivial taken ?_⟩
        simp only [run,answer]
        cases more : run (perform platform.runes) after tail with
        | mk replies' last =>
          rw [more] at runs
          cases replies' with
          | error e => exact runs
          | ok gained =>
            simp only [answered, List.append_assoc, List.singleton_append] at runs
            exact runs

theorem executedAnswered (c : Circumstance) (r : Registries) (script : Build CompileResult) :
    execute platform c r script =
      (answered script [] (run (perform platform.runes) r (ApplyManager.stamp c.clock script.calls)).1,
        (run (perform platform.runes) r (ApplyManager.stamp c.clock script.calls)).2) := by
  unfold execute
  cases run (perform platform.runes) r (ApplyManager.stamp c.clock script.calls) with
  | mk replies after => cases replies <;> rfl

theorem executedRun {s : State} {t : Task} {script : Build CompileResult} (c : Circumstance) (found : s.tasks[i]? = some t)
    (worker : t.worker = .calling script 0 []) :
    ∃ as, Runs (step platform m) anyStep s as (setTask { s with live := { s.live with
      registries := (execute platform c s.live.registries script).2 } } i
      { t with worker := .finished (execute platform c s.live.registries script).1 }) := by
  let embed (r : Registries) (w : Worker) : State :=
    setTask { s with live := { s.live with registries := r } } i { t with worker := w }
  have at_ (r : Registries) (w : Worker) : (embed r w).tasks[i]? = some { t with worker := w } := setTaskFound found
  have start : embed s.live.registries (.calling script 0 []) = s := by
    have same : { t with worker := .calling script 0 [] } = t := by rw [← worker]
    obtain ⟨inside,here⟩ := List.getElem?_eq_some_iff.mp found
    have stays : s.tasks.set i t = s.tasks := by rw [← here, List.set_getElem_self]
    simp only [embed, setTask, same, stays]
  have calls (r made replies call now) (next : script.calls[made]? = some call) :
      step platform m (embed r (.calling script made replies)) (.call i now) = some (embed
        (perform platform.runes r (now,call)).2 (callWorker script made replies (perform platform.runes r (now,call)).1)) := by
    simp only [step, Action.task?, at_, Option.bind_some, stepTask, next]
    simp [embed,setTask]
  have finishes (r made replies) (all : script.calls.length ≤ made) :
      step platform m (embed r (.calling script made replies)) (.finish i) = some (embed r (.finished (linked script replies))) := by
    simp only [step, Action.task?, at_, Option.bind_some, stepTask, if_pos all]
    simp [embed,setTask]
  obtain ⟨as,runs⟩ := @workerRun platform State Action (step platform m) embed (.call i) (.finish i) script calls finishes
    (ApplyManager.stamp c.clock script.calls) s.live.registries 0 [] (ApplyManager.stampCalls ..)
  rw [start] at runs
  rw [executedAnswered c]
  exact ⟨as,runs⟩

theorem leaveStep {before : State} {t : Task} {result : Except Message Result} (found : before.tasks[i]? = some t) :
    step platform m (setTask before i { t with caller := .leaving result }) (.leave i) =
      some (setTask { before with live := restoreAdmin m before.live t result } i { t with caller := .returned result }) := by
  have now := @setTaskFound i before t { t with caller := .leaving result } found
  simp only [step,Action.task?,now,Option.bind_some,stepTask]
  simp [setTask,restoreAdmin]

theorem refusedRun {s : State} {t : Task} {e : Message} (found : s.tasks[i]? = some t) (caller : t.caller = .waiting)
    (worker : t.worker = .finished (.error e)) :
    Runs (step platform m) anyStep s [.receive i,.leave i]
      (setTask { s with live := restoreAdmin m s.live t (.error e) } i { t with caller := .returned (.error e) }) := by
  refine .cons trivial ?_ (.cons trivial (leaveStep found) (.nil _))
  simp [step,Action.task?,found,stepTask,caller,worker]

def stored (platform : Platform) (s : State) (t : Task) (r : CompileResult) : State :=
  { s with live := (published platform s t r).2, installs := installed s t (published platform s t r).1 }

theorem acceptedRun {s : State} {t : Task} {r : CompileResult} (found : s.tasks[i]? = some t) (caller : t.caller = .waiting)
    (worker : t.worker = .finished (.ok r)) :
    Runs (step platform m) anyStep s [.receive i,.leave i]
      (setTask { stored platform s t r with
        live := restoreAdmin m (published platform s t r).2 t (.ok (published platform s t r).1) } i
        { t with caller := .returned (.ok (published platform s t r).1) }) := by
  have still : (stored platform s t r).tasks[i]? = some t := found
  refine .cons trivial ?_ (.cons trivial (leaveStep still) (.nil _))
  simp [step,Action.task?,found,stepTask,caller,worker,stored]

def joined (m : Manager) (s : State) (t : Task) : State :=
  { s with
    live := { s.live with admin := if m.hasAdmin then some t.config else s.live.admin }
    tasks := s.tasks ++ [t] }

def merged (s : State) (raw : Bytes) (source : String) (mode : Mode) (around : Circumstance) (cfg : Config)
    (worker : Worker) : Task :=
  { raw := raw, source := source, mode := mode, around := around, config := cfg, previous := s.live.admin,
    worker := worker, caller := .waiting }

theorem mergedRun {s : State} {raw : Bytes} {source : String} {mode : Mode} {around : Circumstance} {cfg : Config}
    (checked : checkRequest platform m s.live raw = .ok cfg) (measured : validateMetrics platform cfg.metrics = .ok ()) :
    Runs (step platform m) anyStep s [.arrive raw source mode around,.push s.tasks.length,.load s.tasks.length]
      (joined m s (merged s raw source mode around cfg
        (loadWorker platform m { s.live with admin := if m.hasAdmin then some cfg else s.live.admin }
          (merged s raw source mode around cfg .loading)))) := by
  have arrive : step platform m s (.arrive raw source mode around) = some { s with tasks := s.tasks ++
      [{ raw := raw, source := source, mode := mode, around := around, config := cfg }] } := by
    simp [step,Action.task?,checked,measured]
  have swapped : pushAdmin m s.live cfg = { s.live with admin := if m.hasAdmin then some cfg else s.live.admin } := by
    unfold pushAdmin
    split <;> rfl
  refine .cons trivial arrive (.cons trivial (t := joined m s (merged s raw source mode around cfg .loading)) ?_
    (.cons trivial ?_ (.nil _)))
  · simp [step,Action.task?,stepTask,setTask,joined,merged,swapped]
  · simp [step,Action.task?,stepTask,setTask,joined,merged]

theorem joinedLast {s : State} {t : Task} : (joined m s t).tasks[s.tasks.length]? = some t := List.getElem?_concat_length

theorem joinedRegistries {s : State} {t : Task} : (joined m s t).live.registries = s.live.registries := rfl

theorem restored {live : Live} {t : Task} {result : Except Message Result} {cfg : Config} {registries : Registries}
    (previous : t.previous = live.admin) (undone : t.mode = .validate ∨ result.toOption.isNone = true) :
    restoreAdmin m { live with
      registries := registries
      admin := if m.hasAdmin then some cfg else live.admin } t result = { live with registries := registries } := by
  unfold restoreAdmin
  cases has : m.hasAdmin with
  | true => rw [if_pos ⟨rfl,undone⟩,previous]
  | false => simp

theorem notRestored {live : Live} {t : Task} {done : Result} (mode : t.mode = .apply) :
    restoreAdmin m live t (.ok done) = live := by
  simp [restoreAdmin,mode,Except.toOption]

theorem lastSet {tasks : List Task} {t u : Task} : (tasks ++ [t]).set tasks.length u = tasks ++ [u] := by
  simp

theorem aloneApplies (platform : Platform) (m : Manager) (s : State) (raw : Bytes) (source : String) (mode : Mode)
    {around : Circumstance} (inTime : around.timing = .inTime) :
    ∃ as s', Runs (step platform m) anyStep s as s' ∧
      s'.live = (ApplyManager.apply platform m around s.live raw source mode).live ∧
      ((s' = s ∧ ∃ e, (ApplyManager.apply platform m around s.live raw source mode).result = .error e) ∨
        ∃ t, s'.tasks = s.tasks ++ [t] ∧
          t.caller = .returned (ApplyManager.apply platform m around s.live raw source mode).result) := by
  unfold ApplyManager.apply
  cases checked : checkRequest platform m s.live raw with
  | error e =>
    have turned : step platform m s (.arrive raw source mode around) = some s := by simp [step,Action.task?,checked]
    exact ⟨_,s,.cons trivial turned (.nil _),rfl,.inl ⟨rfl,e,rfl⟩⟩
  | ok cfg =>
    dsimp only
    cases measured : validateMetrics platform cfg.metrics with
    | error e =>
      have turned : step platform m s (.arrive raw source mode around) = some s := by
        simp [step,Action.task?,checked,measured]
      exact ⟨_,s,.cons trivial turned (.nil _),rfl,.inl ⟨rfl,e,rfl⟩⟩
    | ok _ =>
      have enter := @mergedRun platform m s raw source mode around cfg checked measured
      cases mode with
      | validate =>
        rw [inTime]
        dsimp only
        cases execution : execute platform around {} (compile platform around
          (buildProviders m (if m.hasAdmin then some cfg else s.live.admin) cfg)) with
        | mk result temporary =>
          have done := congrArg (fun x => Worker.finished x.1) execution
          cases result with
          | error e =>
            refine ⟨_,_,enter.append (refusedRun joinedLast rfl done),?_,.inr ⟨_,lastSet,rfl⟩⟩
            exact restored rfl (.inl rfl)
          | ok r =>
            refine ⟨_,_,enter.append (acceptedRun joinedLast rfl done),?_,.inr ⟨_,lastSet,rfl⟩⟩
            exact restored rfl (.inl rfl)
      | apply =>
        rw [inTime]
        dsimp only
        obtain ⟨calls,ran⟩ := @executedRun platform m s.tasks.length _ (merged s raw source .apply around cfg
          (.calling (compile platform around (buildProviders m (if m.hasAdmin then some cfg else s.live.admin) cfg)) 0 []))
          _ around (joinedLast (m := m)) rfl
        have worked := enter.append ran
        cases execution : execute platform around s.live.registries
            (compile platform around (buildProviders m (if m.hasAdmin then some cfg else s.live.admin) cfg)) with
        | mk result after =>
          rw [joinedRegistries,execution] at worked
          cases result with
          | error e =>
            refine ⟨_,_,worked.append (refusedRun (setTaskFound (joinedLast (m := m))) rfl rfl),?_,
              .inr ⟨_,(List.set_set ..).trans lastSet,rfl⟩⟩
            exact @restored m s.live _ (.error e) cfg after rfl (.inr rfl)
          | ok r =>
            refine ⟨_,_,worked.append (acceptedRun (setTaskFound (joinedLast (m := m))) rfl rfl),?_,
              .inr ⟨_,(List.set_set ..).trans lastSet,rfl⟩⟩
            exact notRestored rfl

end

end ReverseProxy.ControlPlane
