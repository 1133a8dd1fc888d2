import ReverseProxy.BuildAcceptance
import ReverseProxy.Transition

/-! What a validation leaves running. In ModeValidate a config is built on registries
of its own, which the call closes when it returns: the traffic registry first, then
the outlier registry; closing the breaker and pool registries ends no loop. The
goroutine that builds may be behind by then and goes on. -/
namespace ReverseProxy.ValidationLoops
open GoValues FiniteMap CallScript ConfigData ConfigValidation PolicyBuild SnapshotBuild
open PoolRegistry (PoolKey EndpointRuntime)
open OutlierRegistry (PoolEntry latencyLoop)
open TrafficRegistry (Plan buildPlan buildPlanOk)
open ApplyManager (Manager Live Circumstance Outcome Timing checkRequest compileResolved compile buildProviders stamp stampCalls)
open ApplyRejection (Entry submitted madeAtReturn loadedAdmin)
open BuildAcceptance (Valid Plannable RoutesPass)
open PlanHistory (Grounded Owned groundedNew)
open RegistryEffect (callFails performFails)
open Transition (Runs)

inductive Loop where
  | probe (key : PoolKey) (addr : String)
  | latency (key : String)
  | drain (plan : Nat)

def runs (s : Registries) : Loop → Prop
  | .probe key addr => (s.registry.probe key addr).isSome = true
  | .latency key => ((s.outlier.pools.get key).bind PoolEntry.loop).isSome = true
  | .drain id => (s.traffic.plans.get id).any Plan.running = true

inductive Phase where
  | building
  | trafficClosed
  | returned
  deriving DecidableEq, Repr

/- The registries of one validation. `left` are the calls its goroutine has still to
make, `waiting` how many of them the caller waits for. A closed outlier registry has
entries without a loop, so `latency` keeps the loops that run. -/
structure Bench where
  registries : Registries := {}
  latency : Map String Duration := Map.empty
  left : List (Int × Call)
  waiting : Nat
  phase : Phase := .building

def Bench.runs (b : Bench) : Loop → Prop
  | .latency key => (b.latency.get key).isSome = true
  | loop => ValidationLoops.runs b.registries loop

def watchLoops (latency : Map String Duration) : Call → Map String Duration
  | .outlier key _ cfg => if key = "" then latency else latency.assign key (latencyLoop cfg)
  | _ => latency

inductive Move where
  | call
  | closeTraffic (order : List String)
  | closeOutlier

def callStep (runes : RuneTables) (b : Bench) (timed : Int × Call) (rest : List (Int × Call)) : Bench :=
  { b with
    registries := (perform runes b.registries timed).2
    latency := watchLoops b.latency timed.2
    left := if (perform runes b.registries timed).1.toOption.isNone then [] else rest
    waiting := b.waiting - 1 }

def step (runes : RuneTables) (b : Bench) : Move → Option Bench
  | .call =>
    match b.left with
    | [] => none
    | timed :: rest => some (callStep runes b timed rest)
  | .closeTraffic order =>
    if b.phase = .building ∧ (b.waiting = 0 ∨ b.left = []) then
      some { b with
        registries := { b.registries with traffic := b.registries.traffic.close order }
        phase := .trafficClosed }
    else none
  | .closeOutlier =>
    if b.phase = .trafficClosed then some { b with latency := Map.empty, phase := .returned } else none

inductive Stepped (runes : RuneTables) (b : Bench) : Move → Bench → Prop where
  | call {timed rest} (next : b.left = timed :: rest) : Stepped runes b .call (callStep runes b timed rest)
  | closeTraffic {order} (building : b.phase = .building) (ready : b.waiting = 0 ∨ b.left = []) :
      Stepped runes b (.closeTraffic order) { b with
        registries := { b.registries with traffic := b.registries.traffic.close order }
        phase := .trafficClosed }
  | closeOutlier (closed : b.phase = .trafficClosed) :
      Stepped runes b .closeOutlier { b with latency := Map.empty, phase := .returned }

theorem stepStepped {runes : RuneTables} {b t : Bench} {a : Move} : step runes b a = some t ↔ Stepped runes b a t := by
  constructor
  · intro taken
    cases a with
    | call =>
      change (match b.left with | [] => none | timed :: rest => some (callStep runes b timed rest)) = some t at taken
      cases next : b.left with
      | nil =>
        rw [next] at taken
        cases taken
      | cons timed rest =>
        rw [next] at taken
        cases taken
        exact .call next
    | closeTraffic order =>
      simp only [step, Option.ite_none_right_eq_some] at taken
      obtain ⟨⟨building,ready⟩,same⟩ := taken
      cases same
      exact .closeTraffic building ready
    | closeOutlier =>
      simp only [step, Option.ite_none_right_eq_some] at taken
      obtain ⟨closed,same⟩ := taken
      cases same
      exact .closeOutlier closed
  · intro stepped
    cases stepped with
    | call next => simp only [step, next]
    | closeTraffic building ready => exact if_pos ⟨building,ready⟩
    | closeOutlier closed => exact if_pos closed

/- The range in Close visits every entry. -/
def Covering (b : Bench) : Move → Prop
  | .closeTraffic order => ∀ routeID e, b.registries.traffic.routes.get routeID = some e → routeID ∈ order
  | _ => True

def Tracks (b : Bench) : Prop := ∀ key, b.latency.get key = (b.registries.outlier.pools.get key).bind PoolEntry.loop

theorem Tracks.call {runes : RuneTables} {b : Bench} (tracks : Tracks b) (timed : Int × Call) (rest : List (Int × Call)) :
    Tracks (callStep runes b timed rest) := by
  obtain ⟨now,call⟩ := timed
  cases call with
  | outlier key endpoints cfg =>
    intro k
    change (if key = "" then b.latency else b.latency.assign key (latencyLoop cfg)).get k =
      ((b.registries.outlier.reconcile key endpoints cfg now).pools.get k).bind PoolEntry.loop
    unfold OutlierRegistry.Registry.reconcile
    split
    · exact tracks k
    · rw [Map.getAssign,Map.getInsert]
      split
      · rfl
      · exact tracks k
  | _ => exact tracks

theorem latencyTracks {runes : RuneTables} {b t : Bench} {moves : List Move} (run : Runs (step runes) Covering b moves t)
    (start : Tracks b) (open_ : t.phase ≠ .returned) : Tracks t := by
  refine run.preserve (fun b => b.phase ≠ .returned → Tracks b) (fun b a t tracks _ taken => ?_) (fun _ => start) open_
  cases stepStepped.mp taken with
  | call next => exact fun still => (tracks still).call _ _
  | closeTraffic building ready => exact fun _ => tracks (by rw [building]; simp)
  | closeOutlier closed => exact fun still => absurd rfl still

def validated (platform : Platform) (m : Manager) (c : Circumstance) (live : Live) (raw : Bytes) (source : String) :
    Entry → Outcome
  | .apply => ApplyManager.apply platform m c live raw source .validate
  | .resolved version => ApplyManager.applyResolvedVersion platform m c live raw source version .validate

/- A goroutine that reads the admin provider after it got its previous config back
runs when everything is closed. -/
def startPhase (c : Circumstance) : Entry → Phase
  | .resolved _ => .building
  | .apply =>
    match c.timing with
    | .late _ .loading => .returned
    | _ => .building

def start (platform : Platform) (m : Manager) (c : Circumstance) (live : Live) (raw : Bytes) (entry : Entry) : Bench :=
  { left := stamp c.clock (submitted platform m c live raw entry)
    waiting := madeAtReturn c (submitted platform m c live raw entry)
    phase := startPhase c entry }

inductive Home where
  | live
  | bench

def Running (live : Live) (bench : Option Bench) : Home → Loop → Prop
  | .live,loop => runs live.registries loop
  | .bench,loop => ∃ b, bench = some b ∧ b.runs loop

def Unmoved (platform : Platform) (m : Manager) (c : Circumstance) (live : Live) (raw : Bytes) (source : String)
    (entry : Entry) : Prop :=
  ∀ moves b, Runs (step platform.runes) Covering (start platform m c live raw entry) moves b → b.phase = .returned →
    ∀ home loop, Running (validated platform m c live raw source entry).live (some b) home loop ↔ Running live none home loop

def givenUp (c : Circumstance) : Bool :=
  match c.timing with
  | .inTime => false
  | .late _ _ => true

inductive Compilable (platform : Platform) (m : Manager) (live : Live) (raw : Bytes) (late : Bool) : Entry → Config → Prop where
  | resolved {version cfg} (checked : checkRequest platform m live raw = .ok cfg) :
      Compilable platform m live raw late (.resolved version) cfg
  | pushed {own cfg ranges} (checked : checkRequest platform m live raw = .ok own)
      (measured : validateMetrics platform own.metrics = .ok ())
      (merged : ProviderMerge.merge ranges (buildProviders m (if m.hasAdmin then some own else live.admin) own) = .ok cfg) :
      Compilable platform m live raw late .apply cfg
  | kept {own cfg ranges} (tooLate : late = true) (checked : checkRequest platform m live raw = .ok own)
      (measured : validateMetrics platform own.metrics = .ok ())
      (merged : ProviderMerge.merge ranges (buildProviders m live.admin own) = .ok cfg) :
      Compilable platform m live raw late .apply cfg

structure Reaches (platform : Platform) (cfg : Config) : Prop where
  valid : Valid platform cfg
  limited : ∃ limits, limitsFromConfig cfg.limits = .ok limits

def unwatched (pools : PoolMap) (pool : String) : Prop := latencyLoop (outlierFromConfig (pools.getD pool).outlier) = none

def Silent (pools : PoolMap) (route : Route) (choice : TrafficChoice) : Prop :=
  if choice.config.enabled = true then
    choice.config.autoDrain.enabled = false ∧ unwatched pools choice.stablePool ∧
      (choice.canaryPool ≠ "" → unwatched pools choice.canaryPool)
  else unwatched pools route.pool

def Probeless (cfg : Config) : Prop :=
  ∀ e ∈ cfg.pools.entries, hasEndpoints e = true → (healthFromConfig e.2.health).interval ≤ 0

def RoutesSilent (runes : RuneTables) (cfg : Config) : Prop :=
  (∀ e ∈ cfg.pools.entries, hasEndpoints e = true) → ∀ before route after choice,
    items cfg.routes = before ++ route :: after → RoutesPass runes cfg.pools [] [] (before ++ [route]) →
      trafficConfigFromRoute route.id route.policy.traffic = .ok choice → Silent cfg.pools route choice

def Harmless (runes : RuneTables) (late : Bool) : Call → Prop
  | .reconcile _ endpoints health _ => endpoints = [] ∨ health.interval ≤ 0
  | .prune _ => True
  | .plan routeID cfg => late = true → routeID ≠ "" → ∀ p, buildPlan runes cfg = .ok (some p) → p.running = false
  | .outlier _ _ cfg => late = true → latencyLoop cfg = none

def NoDrain (r : TrafficRegistry.Registry) : Prop := ∀ id p, r.plans.get id = some p → p.running = false

structure Kept (runes : RuneTables) (late : Bool) (b : Bench) : Prop where
  grounded : Grounded runes b.registries.traffic
  owned : Owned b.registries.traffic
  harmless : ∀ c ∈ through (callFails runes Map.empty) (b.left.map (·.2)), Harmless runes late c
  probes : ∀ key addr, b.registries.registry.probe key addr = none
  timely : late = false → b.left.length ≤ b.waiting ∧ (b.phase ≠ .building → b.left = [])
  drained : late = true ∨ b.phase ≠ .building → NoDrain b.registries.traffic
  silenced : late = true ∨ b.phase = .returned → ∀ key, b.latency.get key = none

section
variable {runes : RuneTables} {late : Bool} {b : Bench}

theorem performFailing (grounded : Grounded runes b.registries.traffic) (timed : Int × Call) :
    (perform runes b.registries timed).1.toOption.isNone = callFails runes Map.empty timed.2 := by
  rw [performFails,grounded.fails]

theorem performProbes {s : Registries} {timed : Int × Call} (harmless : Harmless runes late timed.2)
    (none : ∀ key addr, s.registry.probe key addr = none) (key : PoolKey) (addr : String) :
    (perform runes s timed).2.registry.probe key addr = .none := by
  obtain ⟨now,call⟩ := timed
  cases call with
  | reconcile k endpoints health opts =>
    by_cases same : key = k
    · subst same
      change (s.registry.reconcile key endpoints health now).probe key addr = _
      by_cases listed : addr ∈ endpoints
      · rw [s.registry.probeListed key listed]
        rcases harmless with empty | never
        · simp [empty] at listed
        · exact if_pos never
      · rw [← Option.not_isSome_iff_eq_none]
        intro probes
        have before := s.registry.probeUnlisted key listed health now probes
        rw [none] at before
        cases before
    · exact (s.registry.probeOther same endpoints health now addr).trans (none key addr)
  | prune desired =>
    refine (s.registry.probePruned desired key addr).trans ?_
    rw [none]
    exact ite_self _
  | plan routeID cfg => exact none key addr
  | outlier k endpoints cfg => exact none key addr

theorem performDrains {s : Registries} {timed : Int × Call} (harmless : Harmless runes true timed.2) (none : NoDrain s.traffic) :
    NoDrain (perform runes s timed).2.traffic := by
  obtain ⟨now,call⟩ := timed
  cases call with
  | plan routeID cfg =>
    intro id p found
    change (s.traffic.plan runes routeID cfg now).2.plans.get id = some p at found
    by_cases unnamed : routeID = ""
    · rw [s.traffic.planUnnamed runes routeID cfg now unnamed] at found
      exact none id p found
    · cases runs : p.running with
      | false => rfl
      | true =>
        rcases PlanHistory.planRuns found runs with before | built
        · exact absurd (none id p before) (by rw [runs]; simp)
        · exact absurd (harmless rfl unnamed p built) (by rw [runs]; simp)
  | _ => exact none

theorem performOwned {s : Registries} (owned : Owned s.traffic) (timed : Int × Call) :
    Owned (perform runes s timed).2.traffic := by
  obtain ⟨now,call⟩ := timed
  cases call with
  | plan routeID cfg => exact owned.plan routeID cfg now
  | _ => exact owned

theorem watchedQuiet {latency : Map String Duration} {c : Call} (harmless : Harmless runes true c)
    (none : ∀ key, latency.get key = none) (key : String) : (watchLoops latency c).get key = .none := by
  cases c with
  | outlier k endpoints cfg =>
    dsimp only [watchLoops]
    split
    · exact none key
    · rw [Map.getAssign,harmless rfl]
      split
      · rfl
      · exact none key
  | _ => exact none key

theorem Kept.call {timed : Int × Call} {rest : List (Int × Call)} (kept : Kept runes late b) (next : b.left = timed :: rest) :
    Kept runes late (callStep runes b timed rest) := by
  have own : Harmless runes late timed.2 := by
    apply kept.harmless
    rw [next,List.map_cons,through]
    split <;> exact List.mem_cons_self
  have after : ∀ c ∈ through (callFails runes Map.empty) ((callStep runes b timed rest).left.map (·.2)),
      Harmless runes late c := by
    intro c inside
    unfold callStep at inside
    rw [performFailing kept.grounded] at inside
    apply kept.harmless
    rw [next,List.map_cons,through]
    split at inside
    · cases inside
    · rename_i passes
      rw [if_neg passes]
      exact List.mem_cons_of_mem _ inside
  refine ⟨(PlanHistory.performGrounded kept.grounded timed).1.grounded,performOwned kept.owned timed,after,
    performProbes own kept.probes,?_,?_,?_⟩
  · intro timely
    obtain ⟨room,ended⟩ := kept.timely timely
    rw [next,List.length_cons] at room
    refine ⟨?_,fun left => ?_⟩
    · unfold callStep
      dsimp only
      split
      · exact Nat.zero_le _
      · omega
    · rw [next] at ended
      cases ended left
  · intro still
    cases late with
    | true => exact performDrains own (kept.drained (.inl rfl))
    | false =>
      have ended := (kept.timely rfl).2 (still.resolve_left Bool.false_ne_true)
      rw [next] at ended
      cases ended
  · intro still
    cases late with
    | true => exact watchedQuiet own (kept.silenced (.inl rfl))
    | false =>
      have returned : b.phase = .returned := still.resolve_left Bool.false_ne_true
      have ended := (kept.timely rfl).2 (by rw [returned]; simp)
      rw [next] at ended
      cases ended

theorem stepKept {a : Move} {t : Bench} (kept : Kept runes late b) (covering : Covering b a) (stepped : Stepped runes b a t) :
    Kept runes late t := by
  cases stepped with
  | call next => exact kept.call next
  | @closeTraffic order building ready =>
    have closed : NoDrain (b.registries.traffic.close order) := fun id p found => kept.owned.closed covering found
    refine ⟨?_,fun id p found runs => ?_,kept.harmless,kept.probes,?_,fun _ => closed,?_⟩
    · exact (PlanHistory.operateContinues (.close order) kept.grounded).grounded
    · rw [closed id p found] at runs
      cases runs
    · intro timely
      obtain ⟨room,-⟩ := kept.timely timely
      refine ⟨room,fun _ => ?_⟩
      rcases ready with waited | ended
      · rw [waited] at room
        exact List.length_eq_zero_iff.mp (Nat.le_zero.mp room)
      · exact ended
    · intro still
      rcases still with never | returned
      · exact kept.silenced (.inl never)
      · cases returned
  | closeOutlier ready =>
    refine ⟨kept.grounded,kept.owned,kept.harmless,kept.probes,?_,?_,fun _ _ => rfl⟩
    · intro timely
      obtain ⟨room,ended⟩ := kept.timely timely
      exact ⟨room,fun _ => ended (by rw [ready]; simp)⟩
    · exact fun _ => kept.drained (.inr (by rw [ready]; simp))

theorem Kept.idle (kept : Kept runes late b) (returned : b.phase = .returned) (loop : Loop) : ¬b.runs loop := by
  cases loop with
  | probe key addr =>
    intro probes
    change (b.registries.registry.probe key addr).isSome = true at probes
    rw [kept.probes] at probes
    cases probes
  | latency key =>
    intro watches
    change (b.latency.get key).isSome = true at watches
    rw [kept.silenced (.inr returned)] at watches
    cases watches
  | drain id =>
    intro drains
    change (b.registries.traffic.plans.get id).any Plan.running = true at drains
    cases found : b.registries.traffic.plans.get id with
    | none => simp [found] at drains
    | some p =>
      have stopped := kept.drained (.inr (by rw [returned]; simp)) id p found
      simp [found,stopped] at drains

end

section
variable {platform : Platform} {m : Manager} {c : Circumstance} {live : Live} {raw : Bytes} {entry : Entry} {cfg : Config}
  {late : Bool}

theorem validOk : (∃ warnings, validate platform cfg (c.validateRange cfg.pools) = .ok warnings) ↔ Valid platform cfg := by
  rw [validateOk,BuildAcceptance.validateRoutesOk]
  exact ⟨fun ⟨limits,metrics,routes⟩ => ⟨limits,metrics,routes⟩,fun valid => ⟨valid.limits,valid.metrics,valid.routes⟩⟩

theorem reachedCalls (reaches : Reaches platform cfg) :
    (compileResolved platform c cfg).calls =
      ((c.buildRange cfg.pools).order.takeWhile hasEndpoints).map poolCall ++
        if ∀ e ∈ (c.buildRange cfg.pools).order, hasEndpoints e = true then
          .prune ((c.buildRange cfg.pools).order.map (·.1)) ::
            (buildRoutes platform.runes cfg.pools [] [] (items cfg.routes)).calls
        else [] := by
  obtain ⟨warnings,validated⟩ := (@validOk platform c cfg).mpr reaches.valid
  obtain ⟨limits,limited⟩ := reaches.limited
  rw [ApplyManager.compileValidated validated,limitedCalls limited]

theorem unreachedCalls (stops : ¬Reaches platform cfg) : (compileResolved platform c cfg).calls = [] := by
  cases validated : validate platform cfg (c.validateRange cfg.pools) with
  | error e => exact ApplyManager.compileInvalid validated
  | ok warnings =>
    rw [ApplyManager.compileValidated validated]
    have valid : Valid platform cfg := validOk.mp ⟨warnings,validated⟩
    cases limited : limitsFromConfig cfg.limits with
    | error e => exact unlimitedCalls limited
    | ok limits => exact absurd ⟨valid,limits,limited⟩ stops

end

section
variable {runes : RuneTables} {pools : PoolMap} {seen names : List String} {route : Route} {routes : List Route}
  {choice : TrafficChoice}

theorem builtRunning {cfg : Traffic} {p : Plan} (built : buildPlan runes cfg = .ok (some p)) :
    p.running = cfg.autoDrain.enabled := by
  rw [Plan.running,(buildPlanOk built).2.2]
  cases cfg.autoDrain.enabled <;> rfl

theorem Silent.harmless (silent : Silent pools route choice) :
    ∀ c ∈ (reconcileRoute pools route choice).calls, Harmless runes true c := by
  intro c inside
  rw [reconcileRouteList] at inside
  unfold Silent at silent
  cases enabled : choice.config.enabled with
  | false =>
    simp only [enabled, Bool.false_eq_true, if_false] at inside silent
    rw [List.mem_singleton.mp inside]
    exact fun _ => silent
  | true =>
    simp only [enabled, if_true] at inside silent
    obtain ⟨stays,stable,canary⟩ := silent
    rcases List.mem_cons.mp inside with rfl | inside
    · intro _ _ p built
      rw [builtRunning built,stays]
    rcases List.mem_cons.mp inside with rfl | inside
    · exact fun _ => stable
    split at inside
    · rename_i named
      rw [List.mem_singleton.mp inside]
      exact fun _ => canary named
    · cases inside

theorem plannablePasses (planned : Plannable runes route choice) :
    ∀ call ∈ (reconcileRoute pools route choice).calls, callFails runes Map.empty call = false := by
  simpa using BuildAcceptance.reconcileRouteFails.mpr planned

theorem routesHarmless (silent : ∀ before route after choice, routes = before ++ route :: after →
      RoutesPass runes pools seen names (before ++ [route]) → trafficConfigFromRoute route.id route.policy.traffic = .ok choice →
        Silent pools route choice) :
    ∀ c ∈ through (callFails runes Map.empty) (buildRoutes runes pools seen names routes).calls, Harmless runes true c := by
  induction routes generalizing seen names with
  | nil => simp [buildRoutes,through]
  | cons route rest ih =>
    cases checked : checkRoute runes pools seen names route with
    | error e =>
      rw [buildRoutes,checked,Script.bindError (Script.checkResult _)]
      simp [through]
    | ok parts =>
      obtain ⟨policy,choice,later⟩ := parts
      rw [(BuildAcceptance.buildRoutesPassed checked).1]
      by_cases planned : Plannable runes route choice
      · rw [throughAppend (plannablePasses planned)]
        intro c inside
        rcases List.mem_append.mp inside with own | others
        · exact (silent [] route rest choice rfl (.cons checked planned (.nil _ _)) (checkRouteOk checked).traffic).harmless c own
        · refine ih (fun before other after choice same passes => ?_) c others
          exact silent (route :: before) other after choice (by rw [same]; rfl) (.cons checked planned passes)
      · -- the Plan call fails and is the last one made
        obtain ⟨enabled,refused⟩ := Classical.not_imp.mp planned
        have fails : callFails runes Map.empty (.plan route.id choice.config) = true := by
          by_cases unnamed : route.id = ""
          · simp [callFails,unnamed]
          · simpa [callFails,unnamed,TrafficRegistry.holdsEmpty] using refused
        rw [reconcileRouteList,if_pos enabled,List.cons_append,through,if_pos fails]
        intro c inside
        rw [List.mem_singleton.mp inside]
        intro _ named p built
        simp [callFails,named,TrafficRegistry.holdsEmpty,TrafficRegistry.rejects,built,Except.toOption] at fails

end

section
variable {platform : Platform} {m : Manager} {c : Circumstance} {live : Live} {raw : Bytes} {entry : Entry} {cfg : Config}
  {late : Bool}

theorem scriptHarmless (probeless : Reaches platform cfg → Probeless cfg)
    (silent : late = true → Reaches platform cfg → RoutesSilent platform.runes cfg) :
    ∀ call ∈ through (callFails platform.runes Map.empty) (compileResolved platform c cfg).calls,
      Harmless platform.runes late call := by
  intro call inside
  by_cases reaches : Reaches platform cfg
  · have pools : ∀ call ∈ ((c.buildRange cfg.pools).order.takeWhile hasEndpoints).map poolCall,
        Harmless platform.runes late call ∧ callFails platform.runes Map.empty call = false := by
      intro call member
      obtain ⟨e,listed,rfl⟩ := List.mem_map.mp member
      have known := (PoolMap.rangeMember _).mp ((List.takeWhile_sublist _).subset listed)
      exact ⟨.inr (probeless reaches e known (List.mem_takeWhile_imp listed)),rfl⟩
    rw [reachedCalls reaches,throughAppend fun call member => (pools call member).2] at inside
    rcases List.mem_append.mp inside with own | others
    · exact (pools call own).1
    · split at others
      · rename_i full
        rw [through,if_neg (by simp [callFails])] at others
        rcases List.mem_cons.mp others with rfl | behind
        · trivial
        · cases late with
          | true => exact routesHarmless (silent rfl reaches fun e member => full e ((PoolMap.rangeMember _).mpr member)) call behind
          | false =>
            have routed := (buildRoutesCalls platform.runes cfg.pools [] [] (items cfg.routes)).noPool call
              ((throughSublist _ _).subset behind)
            cases call with
            | reconcile key endpoints health opts => cases routed
            | prune desired => trivial
            | plan routeID cfg => exact fun never => absurd never Bool.false_ne_true
            | outlier key endpoints cfg => exact fun never => absurd never Bool.false_ne_true
      · cases others
  · rw [unreachedCalls reaches] at inside
    cases inside

theorem submittedCases (class_ : givenUp c = late) :
    submitted platform m c live raw entry = [] ∨ ∃ cfg, Compilable platform m live raw late entry cfg ∧
      submitted platform m c live raw entry = (compileResolved platform c cfg).calls := by
  unfold submitted
  cases checked : checkRequest platform m live raw with
  | error e => exact .inl rfl
  | ok own =>
    cases entry with
    | resolved version => exact .inr ⟨own,.resolved checked,rfl⟩
    | apply =>
      dsimp only
      cases measured : validateMetrics platform own.metrics with
      | error e => exact .inl rfl
      | ok _ =>
        dsimp only
        rcases ApplyManager.compileCases platform c (buildProviders m (loadedAdmin m c live own) own) with
          ⟨e,failed⟩ | ⟨cfg,merged,same⟩
        · rw [failed]
          exact .inl rfl
        · right
          rw [same]
          refine ⟨cfg,?_,rfl⟩
          unfold loadedAdmin at merged
          unfold givenUp at class_
          cases timing : c.timing with
          | inTime =>
            rw [timing] at merged
            exact .pushed checked measured merged
          | late cause progress =>
            rw [timing] at merged class_
            cases progress with
            | loading => exact .kept class_.symm checked measured merged
            | calls made => exact .pushed checked measured merged

theorem startKept (class_ : givenUp c = late)
    (harmless : ∀ call ∈ through (callFails platform.runes Map.empty) (submitted platform m c live raw entry),
      Harmless platform.runes late call) : Kept platform.runes late (start platform m c live raw entry) where
  grounded := groundedNew _ _
  owned _ _ found := nomatch found
  harmless := by
    unfold start
    rw [stampCalls]
    exact harmless
  probes _ _ := rfl
  timely timely := by
    have inTime : c.timing = .inTime := by
      rw [← class_] at timely
      unfold givenUp at timely
      split at timely
      · assumption
      · cases timely
    have building : startPhase c entry = .building := by
      unfold startPhase
      rw [inTime]
      cases entry <;> rfl
    unfold start madeAtReturn
    rw [inTime]
    exact ⟨by simp [stamp],fun moved => absurd building moved⟩
  drained _ _ _ found := nomatch found
  silenced _ _ := rfl

theorem validatedLive (source : String) : (validated platform m c live raw source entry).live = live := by
  cases entry with
  | resolved version =>
    unfold validated ApplyManager.applyResolvedVersion
    cases checkRequest platform m live raw with
    | error e => rfl
    | ok cfg =>
      dsimp only
      cases c.timing with
      | late cause progress => rfl
      | inTime =>
        dsimp only
        split <;> rfl
  | apply =>
    unfold validated ApplyManager.apply
    cases checkRequest platform m live raw with
    | error e => rfl
    | ok cfg =>
      dsimp only
      cases validateMetrics platform cfg.metrics with
      | error e => rfl
      | ok _ =>
        dsimp only
        cases c.timing with
        | late cause progress => rfl
        | inTime =>
          dsimp only
          split <;> rfl

end

section
variable {runes : RuneTables} {b : Bench}

def Listed (b : Bench) : Prop :=
  ∃ order : List String, ∀ routeID, (b.registries.traffic.assigned.get routeID).isSome = true → routeID ∈ order

theorem Listed.call (listed : Listed b) (timed : Int × Call) (rest : List (Int × Call)) : Listed (callStep runes b timed rest) := by
  obtain ⟨order,lists⟩ := listed
  refine ⟨(timed.2.route?.map (·.1)).toList ++ order,fun routeID there => ?_⟩
  by_cases own : ∃ p, timed.2.route? = some p ∧ p.1 = routeID
  · obtain ⟨p,found,rfl⟩ := own
    simp [found]
  · refine List.mem_append_right _ (lists routeID ?_)
    have frame : (perform runes b.registries (timed.1,timed.2)).2.traffic.assigned.get routeID =
        b.registries.traffic.assigned.get routeID := RegistryEffect.performOther fun p found same => own ⟨p,found,same⟩
    rw [← frame]
    exact there

theorem finishes {keeps : Bench → Prop}
    (calls : ∀ b timed rest, b.left = timed :: rest → keeps b → keeps (callStep runes b timed rest)) (start : keeps b) :
    ∃ moves t, Runs (step runes) Covering b moves t ∧ keeps t ∧ t.left = [] ∧ t.phase = b.phase := by
  induction size : b.left.length using Nat.strongRecOn generalizing b with
  | ind n ih =>
    cases next : b.left with
    | nil => exact ⟨[],b,.nil b,start,next,rfl⟩
    | cons timed rest =>
      have taken : step runes b .call = some (callStep runes b timed rest) := stepStepped.mpr (.call next)
      have shorter : (callStep runes b timed rest).left.length < n := by
        rw [← size,next,List.length_cons]
        unfold callStep
        dsimp only
        split
        · exact Nat.zero_lt_succ _
        · exact Nat.lt_succ_self _
      obtain ⟨moves,t,run,kept,ended,phase⟩ := ih _ shorter (calls b timed rest next start) rfl
      exact ⟨.call :: moves,t,.cons trivial taken run,kept,ended,phase⟩

theorem walks {keeps : Bench → Prop} {first rest : List (Int × Call)}
    (passes : ∀ timed ∈ first, callFails runes Map.empty timed.2 = false)
    (calls : ∀ b timed rest, timed ∈ first → keeps b → keeps (callStep runes b timed rest))
    (grounded : Grounded runes b.registries.traffic) (start : keeps b) (left : b.left = first ++ rest) :
    ∃ moves t, Runs (step runes) Covering b moves t ∧ keeps t ∧ t.left = rest ∧ t.phase = b.phase := by
  induction first generalizing b with
  | nil => exact ⟨[],b,.nil b,start,left,rfl⟩
  | cons timed others ih =>
    have taken : step runes b .call = some (callStep runes b timed (others ++ rest)) := stepStepped.mpr (.call left)
    have goesOn : (callStep runes b timed (others ++ rest)).left = others ++ rest := by
      unfold callStep
      rw [performFailing grounded,passes timed List.mem_cons_self]
      rfl
    obtain ⟨moves,t,run,kept,ended,phase⟩ := ih (fun x inside => passes x (List.mem_cons_of_mem _ inside))
      (fun b x rest inside => calls b x rest (List.mem_cons_of_mem _ inside))
      (PlanHistory.performGrounded grounded timed).1.grounded (calls b timed _ List.mem_cons_self start) goesOn
    exact ⟨.call :: moves,t,.cons trivial taken run,kept,ended,phase⟩

theorem returns (listed : Listed b) (ready : b.waiting = 0 ∨ b.left = []) (open_ : b.phase ≠ .trafficClosed) :
    ∃ moves t, Runs (step runes) Covering b moves t ∧ t.phase = .returned ∧ t.left = b.left ∧
      t.registries.registry = b.registries.registry ∧ t.registries.traffic.routes = b.registries.traffic.routes ∧
      (Grounded runes b.registries.traffic → Grounded runes t.registries.traffic) := by
  obtain ⟨order,lists⟩ := listed
  have covers : Covering b (.closeTraffic order) := by
    intro routeID e found
    exact lists routeID (by rw [TrafficRegistry.Registry.assignedGet,found]; rfl)
  cases phase : b.phase with
  | building =>
    have first : step runes b (.closeTraffic order) = some _ := stepStepped.mpr (.closeTraffic phase ready)
    refine ⟨[.closeTraffic order,.closeOutlier],_,.cons covers first (.cons trivial (stepStepped.mpr (.closeOutlier rfl)) (.nil _)),
      rfl,rfl,rfl,TrafficRegistry.closeRoutes order,fun grounded => ?_⟩
    exact (PlanHistory.operateContinues (.close order) grounded).grounded
  | trafficClosed => exact absurd phase open_
  | returned => exact ⟨[],b,.nil b,phase,rfl,rfl,rfl,id⟩

end

def patience (late : Bool) : Timing := if late then .late ApplyManager.errCompileTimeout (.calls 0) else .inTime

def arranged (ranges : Nat → (m : PoolMap) → m.Range) (build : (m : PoolMap) → m.Range) (timing : Timing) : Circumstance :=
  { ApplyManager.calm with
    mergeRanges := ranges
    buildRange := build
    timing := timing }

def frontRange (e : String × Pool) (m : PoolMap) : m.Range :=
  if inside : e ∈ m.entries then ⟨e :: m.entries.erase e,(List.perm_cons_erase inside).symm⟩ else m.inOrder

def Spares (key : PoolKey) : Call → Prop
  | .reconcile k .. => k ≠ key
  | .prune desired => key ∈ desired
  | _ => True

theorem performSpares {runes : RuneTables} {s : Registries} {timed : Int × Call} {key : PoolKey} (spares : Spares key timed.2)
    (addr : String) : (perform runes s timed).2.registry.probe key addr = s.registry.probe key addr := by
  obtain ⟨now,call⟩ := timed
  cases call with
  | reconcile k endpoints health opts => exact s.registry.probeOther (Ne.symm spares) endpoints health now addr
  | prune desired => exact (s.registry.probePruned desired key addr).trans (if_pos spares)
  | plan routeID cfg => rfl
  | outlier k endpoints cfg => rfl

theorem tidySpares {key : PoolKey} {endpoints : List String} {health : Health} {opts : TransportOptions} {rest : List Call}
    (tidy : Tidy (.reconcile key endpoints health opts :: rest)) : ∀ call ∈ rest, Spares key call := by
  have distinct : key ∉ (reconciled rest).map (·.1) := (List.nodup_cons.mp tidy.pools).1
  intro call inside
  cases call with
  | reconcile k listed h opts =>
    intro same
    exact distinct (List.mem_map.mpr ⟨(k,listed),List.mem_filterMap.mpr ⟨_,inside,rfl⟩,same⟩)
  | prune desired => exact tidy.kept desired (List.mem_cons_of_mem _ inside) (key,endpoints) (by simp [reconciled,Call.pool?])
  | plan routeID cfg => trivial
  | outlier k listed cfg => trivial

theorem tidyApart {made rest : List Call} {call x : Call} (tidy : Tidy (made ++ call :: rest)) (inside : x ∈ made)
    {p q : String × Traffic} (found : call.route? = some p) (also : x.route? = some q) : q.1 ≠ p.1 := by
  intro same
  have plans := tidy.routes
  rw [planned,List.filterMap_append,List.map_append,List.filterMap_cons_some found,List.map_cons] at plans
  refine (List.nodup_append.mp plans).2.2 q.1 ?_ p.1 List.mem_cons_self same
  exact List.mem_map.mpr ⟨q,List.mem_filterMap.mpr ⟨x,inside,also⟩,rfl⟩

section
variable {platform : Platform} {m : Manager} {c : Circumstance} {live : Live} {raw : Bytes} {source : String} {entry : Entry}
  {cfg : Config} {late : Bool}

def Probed (key : PoolKey) (addr : String) (b : Bench) : Prop :=
  (b.registries.registry.probe key addr).isSome = true ∧ (∀ timed ∈ b.left, Spares key timed.2) ∧ Listed b

theorem callLeft {runes : RuneTables} {b : Bench} {timed x : Int × Call} {rest : List (Int × Call)}
    (inside : x ∈ (callStep runes b timed rest).left) : x ∈ rest := by
  unfold callStep at inside
  dsimp only at inside
  split at inside
  · cases inside
  · exact inside

theorem Probed.call {runes : RuneTables} {key : PoolKey} {addr : String} {b : Bench} {timed : Int × Call}
    {rest : List (Int × Call)} (next : b.left = timed :: rest) (probed : Probed key addr b) :
    Probed key addr (callStep runes b timed rest) := by
  obtain ⟨running,spares,listed⟩ := probed
  rw [next] at spares
  refine ⟨?_,fun x inside => spares x (List.mem_cons_of_mem _ (callLeft inside)),listed.call timed rest⟩
  change ((perform runes b.registries timed).2.registry.probe key addr).isSome = true
  rw [performSpares (spares timed List.mem_cons_self)]
  exact running

theorem arrangement (able : Compilable platform m live raw late entry cfg) (build : (m : PoolMap) → m.Range) :
    ∃ c, givenUp c = late ∧ c.buildRange = build ∧
      submitted platform m c live raw entry = (compileResolved platform c cfg).calls ∧
      (late = true → madeAtReturn c (submitted platform m c live raw entry) = 0) := by
  cases able with
  | resolved checked =>
    refine ⟨arranged (fun _ m => m.inOrder) build (patience late),?_,rfl,?_,?_⟩
    · cases late <;> rfl
    · simp only [submitted, checked]
    · rintro rfl
      rfl
  | @pushed own _ ranges checked measured merged =>
    refine ⟨arranged ranges build (patience late),?_,rfl,?_,?_⟩
    · cases late <;> rfl
    · have held : loadedAdmin m (arranged ranges build (patience late)) live own = if m.hasAdmin then some own else live.admin := by
        cases late <;> rfl
      simp only [submitted, checked, measured, held]
      rw [ApplyManager.compileMerged merged]
    · rintro rfl
      rfl
  | @kept own _ ranges tooLate checked measured merged =>
    subst tooLate
    refine ⟨arranged ranges build (.late ApplyManager.errCompileTimeout .loading),rfl,rfl,?_,fun _ => rfl⟩
    simp only [submitted, checked, measured, loadedAdmin, arranged]
    exact congrArg Script.calls (ApplyManager.compileMerged merged)

theorem startOpen : startPhase c entry ≠ .trafficClosed := by
  unfold startPhase
  split
  · simp
  · split <;> simp

theorem startListed : Listed (start platform m c live raw entry) := ⟨[],fun _ there => absurd there Bool.false_ne_true⟩

theorem unmovedIdle (unmoved : Unmoved platform m c live raw source entry) {moves : List Move} {b : Bench}
    (run : Runs (step platform.runes) Covering (start platform m c live raw entry) moves b) (returned : b.phase = .returned)
    (loop : Loop) : ¬b.runs loop := by
  intro running
  obtain ⟨other,none,-⟩ := (unmoved moves b run returned .bench loop).mp ⟨b,rfl,running⟩
  cases none

theorem probesStay (source : String) (able : Compilable platform m live raw late entry cfg) (reaches : Reaches platform cfg)
    {e : String × Pool} (inside : e ∈ cfg.pools.entries) (some_ : hasEndpoints e = true)
    (probes : 0 < (healthFromConfig e.2.health).interval) :
    ∃ c, givenUp c = late ∧ ¬Unmoved platform m c live raw source entry := by
  obtain ⟨c,class_,order,calls,-⟩ := arrangement able (frontRange e)
  refine ⟨c,class_,fun unmoved => ?_⟩
  obtain ⟨rest,first⟩ : ∃ rest, submitted platform m c live raw entry = poolCall e :: rest := by
    rw [calls,reachedCalls reaches,order,frontRange,dif_pos inside,List.takeWhile_cons_of_pos some_]
    exact ⟨_,rfl⟩
  have tidy : Tidy (poolCall e :: rest) := by
    rw [← first,calls]
    exact ApplyRejection.compileResolvedTidy platform c cfg
  obtain ⟨addr,listed⟩ := List.exists_mem_of_ne_nil _ (of_decide_eq_true some_)
  obtain ⟨timed,others,left,own,behind⟩ : ∃ timed others, (start platform m c live raw entry).left = timed :: others ∧
      timed.2 = poolCall e ∧ others.map (·.2) = rest := by
    have mapped : (start platform m c live raw entry).left.map (·.2) = poolCall e :: rest := by
      rw [← first]
      exact stampCalls _ _
    exact List.map_eq_cons_iff.mp mapped
  have probed : Probed e.1 addr (callStep platform.runes (start platform m c live raw entry) timed others) := by
    refine ⟨?_,fun x inside => ?_,startListed.call timed others⟩
    · obtain ⟨now,call⟩ := timed
      subst own
      change ((({} : PoolRegistry.Registry).reconcile e.1 _ (healthFromConfig e.2.health) now).probe e.1 addr).isSome = true
      rw [PoolRegistry.Registry.probeListed _ _ listed,EndpointRuntime.startActive,if_neg (Int.not_le.mpr probes)]
      rfl
    · exact tidySpares tidy x.2 (behind ▸ List.mem_map_of_mem (callLeft inside))
  obtain ⟨moves,t,run,⟨running,-,lists⟩,ended,phase⟩ := @finishes platform.runes _ _ (fun _ _ _ => Probed.call) probed
  have open_ : t.phase ≠ .trafficClosed := by
    rw [phase]
    exact startOpen
  obtain ⟨closing,u,closes,returned,-,same,-⟩ := @returns platform.runes t lists (.inr ended) open_
  have whole := (Runs.cons trivial (stepStepped.mpr (.call left)) run).append closes
  refine unmovedIdle unmoved whole returned (.probe e.1 addr) ?_
  change (u.registries.registry.probe e.1 addr).isSome = true
  rw [same]
  exact running

theorem routeReached {runes : RuneTables} {pools : PoolMap} {seen names : List String} {before after : List Route} {route : Route}
    {choice : TrafficChoice} (passes : RoutesPass runes pools seen names (before ++ [route]))
    (traffic : trafficConfigFromRoute route.id route.policy.traffic = .ok choice) :
    ∃ first later, (buildRoutes runes pools seen names (before ++ route :: after)).calls =
        first ++ ((reconcileRoute pools route choice).calls ++ later) ∧
      (∀ call ∈ first, callFails runes Map.empty call = false) ∧ Plannable runes route choice := by
  induction before generalizing seen names with
  | nil =>
    cases passes with
    | cons checked planned _ =>
      cases Except.ok.inj ((checkRouteOk checked).traffic.symm.trans traffic)
      exact ⟨[],_,(BuildAcceptance.buildRoutesPassed checked).1,by simp,planned⟩
  | cons head rest ih =>
    cases passes with
    | @cons _ _ _ _ _ _ chosen checked planned others =>
      obtain ⟨first,later,calls,quiet,plannable⟩ := ih others
      refine ⟨(reconcileRoute pools head chosen).calls ++ first,later,?_,fun call inside => ?_,plannable⟩
      · rw [List.cons_append,(BuildAcceptance.buildRoutesPassed checked).1,calls,List.append_assoc]
      · rcases List.mem_append.mp inside with here | there
        · exact plannablePasses planned call here
        · exact quiet call there

theorem routeCallPlaced (c : Circumstance) (reaches : Reaches platform cfg)
    (full : ∀ e ∈ cfg.pools.entries, hasEndpoints e = true) {before after : List Route} {route : Route} {choice : TrafficChoice}
    (routes : items cfg.routes = before ++ route :: after)
    (passes : RoutesPass platform.runes cfg.pools [] [] (before ++ [route]))
    (traffic : trafficConfigFromRoute route.id route.policy.traffic = .ok choice) {own more : List Call} {call : Call}
    (split : (reconcileRoute cfg.pools route choice).calls = own ++ call :: more) :
    ∃ made rest, (compileResolved platform c cfg).calls = made ++ call :: rest ∧
      ∀ x ∈ made, callFails platform.runes Map.empty x = false := by
  obtain ⟨first,later,reached,quiet,plannable⟩ := @routeReached platform.runes cfg.pools [] [] before after route choice passes traffic
  have visited : ∀ e ∈ (c.buildRange cfg.pools).order, hasEndpoints e = true :=
    fun e member => full e ((PoolMap.rangeMember _).mp member)
  refine ⟨(c.buildRange cfg.pools).order.map poolCall ++ (.prune ((c.buildRange cfg.pools).order.map (·.1)) :: (first ++ own)),
    more ++ later,?_,fun x inside => ?_⟩
  · rw [reachedCalls reaches,if_pos visited,List.takeWhile_eq_self_iff.mpr visited,routes,reached,split]
    simp
  · rcases List.mem_append.mp inside with pools | inside
    · obtain ⟨e,-,rfl⟩ := List.mem_map.mp pools
      rfl
    rcases List.mem_cons.mp inside with rfl | inside
    · rfl
    rcases List.mem_append.mp inside with earlier | here
    · exact quiet x earlier
    · exact plannablePasses plannable x (by rw [split]; exact List.mem_append_left _ here)

theorem routeCallMade (source : String) (able : Compilable platform m live raw true entry cfg) (reaches : Reaches platform cfg)
    (full : ∀ e ∈ cfg.pools.entries, hasEndpoints e = true) {before after : List Route} {route : Route} {choice : TrafficChoice}
    (routes : items cfg.routes = before ++ route :: after)
    (passes : RoutesPass platform.runes cfg.pools [] [] (before ++ [route]))
    (traffic : trafficConfigFromRoute route.id route.policy.traffic = .ok choice) {own more : List Call} {call : Call}
    (split : (reconcileRoute cfg.pools route choice).calls = own ++ call :: more)
    (starts : ∀ b : Bench, (∀ p, call.route? = some p → b.registries.traffic.assigned.get p.1 = none) → ∀ now rest,
      ∃ loop, (callStep platform.runes b (now,call) rest).runs loop) :
    ∃ c, givenUp c = true ∧ ¬Unmoved platform m c live raw source entry := by
  obtain ⟨c,class_,-,calls,once⟩ := arrangement able PoolMap.inOrder
  refine ⟨c,class_,fun unmoved => ?_⟩
  obtain ⟨made,rest,whole,passing⟩ := routeCallPlaced c reaches full routes passes traffic split
  have tidy : Tidy (made ++ call :: rest) := whole ▸ ApplyRejection.compileResolvedTidy platform c cfg
  have mapped : (start platform m c live raw entry).left.map (·.2) = made ++ call :: rest := by
    rw [← whole, ← calls]
    exact stampCalls _ _
  obtain ⟨early,behind,left,rfl,behindIs⟩ := List.map_eq_append_iff.mp mapped
  obtain ⟨timed,others,rfl,rfl,-⟩ := List.map_eq_cons_iff.mp behindIs
  obtain ⟨closing,b,closes,returned,same,-,unrouted,grounds⟩ :=
    @returns platform.runes _ (@startListed platform m c live raw entry) (.inl (once rfl)) startOpen
  have fresh : ∀ p, timed.2.route? = some p → b.registries.traffic.assigned.get p.1 = none := by
    intro p _
    rw [TrafficRegistry.Registry.assignedGet,unrouted]
    rfl
  -- no call made before it concerns the route of this one
  have frame : ∀ (b : Bench) (x : Int × Call), x ∈ early → ∀ p, timed.2.route? = some p →
      (perform platform.runes b.registries (x.1,x.2)).2.traffic.assigned.get p.1 = b.registries.traffic.assigned.get p.1 :=
    fun b x inside p found => RegistryEffect.performOther fun q also => tidyApart tidy (List.mem_map_of_mem inside) found also
  obtain ⟨walking,t,walked,new,next,phase⟩ := @walks platform.runes b
    (fun b => ∀ p, timed.2.route? = some p → b.registries.traffic.assigned.get p.1 = none) early (timed :: others)
    (fun x inside => passing x.2 (List.mem_map_of_mem inside))
    (fun b x rest inside kept p found => (frame b x inside p found).trans (kept p found))
    (grounds (groundedNew _ _)) fresh (by rw [same,left])
  obtain ⟨loop,running⟩ := starts t new timed.1 others
  have taken : step platform.runes t .call = some (callStep platform.runes t timed others) := stepStepped.mpr (.call next)
  have last : Runs (step platform.runes) Covering t [.call] (callStep platform.runes t timed others) :=
    .cons trivial taken (.nil _)
  exact unmovedIdle unmoved (closes.append (walked.append last)) (phase.trans returned) loop running

theorem watchStarts {pools : PoolMap} {routeID pool : String} (watched : ¬unwatched pools pool) (b : Bench) (now : Int)
    (rest : List (Int × Call)) : ∃ loop, (callStep platform.runes b (now,outlierCall pools routeID pool) rest).runs loop := by
  refine ⟨.latency (routePoolKey routeID pool),?_⟩
  change ((watchLoops b.latency (outlierCall pools routeID pool)).get (routePoolKey routeID pool)).isSome = true
  rw [outlierCall,watchLoops,if_neg (routePoolKeyNamed routeID pool),Map.getAssign,if_pos rfl]
  exact Option.isSome_iff_ne_none.mpr watched

theorem planStarts {routeID : String} {traffic : Traffic} {b : Bench} (named : routeID ≠ "")
    (good : TrafficRegistry.rejects platform.runes traffic = false) (enabled : traffic.enabled = true)
    (drains : traffic.autoDrain.enabled = true) (new : b.registries.traffic.assigned.get routeID = none) (now : Int)
    (rest : List (Int × Call)) : ∃ loop, (callStep platform.runes b (now,.plan routeID traffic) rest).runs loop := by
  cases built : buildPlan platform.runes traffic with
  | error e => simp [TrafficRegistry.rejects,built,Except.toOption] at good
  | ok made =>
    cases made with
    | none => exact absurd built (TrafficRegistry.buildPlanSome enabled)
    | some p =>
      have unknown : b.registries.traffic.routes.get routeID = none := by
        rw [TrafficRegistry.Registry.assignedGet] at new
        exact Option.map_eq_none_iff.mp new
      obtain ⟨id,found⟩ := PlanHistory.planNew named unknown built now
      refine ⟨.drain id,?_⟩
      change ((b.registries.traffic.plan platform.runes routeID traffic now).2.plans.get id).any Plan.running = true
      rw [found]
      exact (builtRunning built).trans drains

theorem unmovedSilent (unmoved : ∀ c, givenUp c = true → Unmoved platform m c live raw source entry)
    (able : Compilable platform m live raw true entry cfg) (reaches : Reaches platform cfg) : RoutesSilent platform.runes cfg := by
  intro full before route after choice routes passes traffic
  have never : ∀ {own more call}, (reconcileRoute cfg.pools route choice).calls = own ++ call :: more →
      ¬∀ b : Bench, (∀ p, call.route? = some p → b.registries.traffic.assigned.get p.1 = none) → ∀ now rest,
        ∃ loop, (callStep platform.runes b (now,call) rest).runs loop := by
    intro own more call split starts
    obtain ⟨c,class_,moved⟩ := routeCallMade source able reaches full routes passes traffic split starts
    exact moved (unmoved c class_)
  have list := reconcileRouteList cfg.pools route choice
  unfold Silent
  cases enabled : choice.config.enabled with
  | false =>
    rw [if_neg (by rw [enabled]; simp)] at list
    rw [if_neg (by simp)]
    by_contra watched
    exact @never [] _ _ list fun b _ => watchStarts watched b
  | true =>
    rw [if_pos enabled] at list
    rw [if_pos rfl]
    obtain ⟨-,-,-,-,plannable⟩ := @routeReached platform.runes cfg.pools [] [] before after route choice passes traffic
    obtain ⟨named,good⟩ := plannable enabled
    refine ⟨?_,?_,fun canary => ?_⟩
    · by_contra drains
      exact @never [] _ _ list fun b fresh =>
        planStarts named good enabled (by simpa using drains) (fresh (route.id,choice.config) rfl)
    · by_contra watched
      exact @never [_] _ _ list fun b _ => watchStarts watched b
    · by_contra watched
      rw [if_pos canary] at list
      exact @never [_,_] _ _ list fun b _ => watchStarts watched b

theorem quietUnmoved {c : Circumstance} (class_ : givenUp c = late)
    (quiet : ∀ cfg, Compilable platform m live raw late entry cfg → Reaches platform cfg →
      Probeless cfg ∧ (late = true → RoutesSilent platform.runes cfg)) : Unmoved platform m c live raw source entry := by
  intro moves b run returned home loop
  have kept : Kept platform.runes late b := by
    refine run.preserve (Kept platform.runes late) (fun s a t kept covering taken => ?_) (startKept class_ ?_)
    · exact stepKept kept covering (stepStepped.mp taken)
    · rcases @submittedCases platform m c live raw entry late class_ with none | ⟨cfg,able,calls⟩
      · rw [none]
        simp [through]
      · rw [calls]
        exact scriptHarmless (fun reaches => (quiet cfg able reaches).1) fun given reaches => (quiet cfg able reaches).2 given
  cases home with
  | live =>
    change runs (validated platform m c live raw source entry).live.registries loop ↔ runs live.registries loop
    rw [validatedLive]
  | bench =>
    constructor
    · rintro ⟨other,same,running⟩
      cases same
      exact absurd running (kept.idle returned loop)
    · rintro ⟨other,none,-⟩
      cases none

theorem validationKeepsLoops :
    (∀ c, givenUp c = late → Unmoved platform m c live raw source entry) ↔
      ∀ cfg, Compilable platform m live raw late entry cfg → Reaches platform cfg →
        Probeless cfg ∧ (late = true → RoutesSilent platform.runes cfg) := by
  constructor
  · intro unmoved cfg able reaches
    constructor
    · intro e inside some_
      by_contra probes
      obtain ⟨c,class_,moved⟩ := probesStay source able reaches inside some_ (Int.not_le.mp probes)
      exact moved (unmoved c class_)
    · rintro rfl
      exact unmovedSilent unmoved able reaches
  · intro quiet c class_
    exact quietUnmoved class_ quiet

end

theorem validationLeavesProbe :
    (∃ r, (validated (ApplyManager.decoding (ApplyManager.onePool "p")) {} ApplyManager.calm {} ApplyManager.document "admin"
      (.resolved [])).result = .ok r) ∧
    ¬Unmoved (ApplyManager.decoding (ApplyManager.onePool "p")) {} ApplyManager.calm {} ApplyManager.document "admin"
      (.resolved []) := by
  refine ⟨⟨_,rfl⟩,fun unmoved => ?_⟩
  have run : Runs (step RuneTables.ascii) Covering
      (start (ApplyManager.decoding (ApplyManager.onePool "p")) {} ApplyManager.calm {} ApplyManager.document (.resolved []))
      [.call,.call,.closeTraffic [],.closeOutlier] _ :=
    .cons trivial rfl (.cons trivial rfl (.cons (fun _ _ found => nomatch found) rfl (.cons trivial rfl (.nil _))))
  exact unmovedIdle unmoved run rfl (.probe "p" "10.0.0.1:80") rfl

end ReverseProxy.ValidationLoops
