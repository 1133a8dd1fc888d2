import ReverseProxy.InflightTracker
import ReverseProxy.PoolSteps

/-! Server.Shutdown against the requests that are in flight. Each ServeHTTP call counts
itself in, holds a snapshot for a while and counts itself out; shutdownSequence closes
the listeners, stops whatever it was given to stop, and only then waits for the count.
Stopping the pool registry takes every endpoint out of its pools. -/
namespace ReverseProxy.ShutdownOrder
open GoValues FiniteMap CallScript ConfigData SnapshotBuild SnapshotStore ServingPools
open ApplyManager (Manager decoding onePool)
open InflightTracker (Tracker newInflightTracker)
open PoolRegistry (PoolKey PoolRuntime PickResult Registry)
open PoolSteps (pools Grips)
open Transition (Runs anyStep runAll runAllRuns)

/- A ServeHTTP call that has not acquired a snapshot, holds the one of that request of
the control plane, or is on its way out. -/
inductive Hold where
  | before
  | holding (j : Nat)
  | after
  deriving DecidableEq, Repr

/- What the server is given to stop: the pool registry, the traffic registry, or the
retry, breaker, outlier and plugin registries and the puller, none of which a pick
depends on. -/
inductive Stopper where
  | pools
  | traffic
  | other
  deriving DecidableEq, Repr

def mainStoppers : List Stopper := [.pools,.other,.other,.other,.traffic,.other]

/- shutdownSequence: before it, in the loop over the stoppers, in the loop of the pool
registry's Stop, in the drain sleep, in Wait, in the Shutdown of the HTTP servers, in
the sleep before they are closed by force, and after it. -/
inductive Phase where
  | serving
  | stopping (left : List Stopper)
  | stoppingPools (keys : List PoolKey) (left : List Stopper)
  | draining
  | waiting
  | closing
  | forcing
  | returned
  deriving DecidableEq, Repr

/- The `i`th hold belongs to the tracker's `i`th request. `expired` is gracefulCtx.
`promised` is no part of the code: Shutdown was called with requests in flight, the
count has not been zero since, and gracefulCtx has not expired. -/
structure State where
  plane : PoolSteps.State := {}
  tracker : Tracker := newInflightTracker
  holds : List Hold := []
  phase : Phase := .serving
  expired : Bool := false
  promised : Bool := false

inductive Action where
  | plane (a : PoolSteps.Action)
  | arrive
  | turn (i : Nat)
  | acquire (i : Nat)
  | release (i : Nat)
  | shutdown
  | stop (pools : List PoolKey) (routes : List String)
  | stopPool (replaced : Bool)
  | drained
  | waited
  | expire
  | closed
  | forced

def track (s : State) (t : Tracker) : State := { s with tracker := t, promised := s.promised && decide (0 < t.count) }

def closeTraffic (s : PoolSteps.State) (routes : List String) : PoolSteps.State :=
  { s with base := { s.base with live := { s.base.live with registries := { s.base.live.registries with
      traffic := s.base.live.registries.traffic.close routes } } } }

def stopPool (s : PoolSteps.State) (key : PoolKey) : PoolSteps.State :=
  { s with base := ControlPlane.setRegistry s.base ((pools s.base).stopPool key) }

/- The lists are the orders in which the two ranges visit their maps. -/
def stopNext (s : State) (pools : List PoolKey) (routes : List String) : Option State :=
  match s.phase with
  | .stopping [] => some { s with phase := .draining }
  | .stopping (.pools :: left) => some { s with phase := .stoppingPools pools left }
  | .stopping (.traffic :: left) => some { s with plane := closeTraffic s.plane routes, phase := .stopping left }
  | .stopping (.other :: left) => some { s with phase := .stopping left }
  | _ => none

/- Stop works on the pools it has copied. One that was pruned and made anew since is
stopped all the same, but is not the one in the registry any more. -/
def stopNextPool (s : State) (replaced : Bool) : Option State :=
  match s.phase with
  | .stoppingPools [] left => some { s with phase := .stopping left }
  | .stoppingPools (key :: rest) left =>
    some { s with
      plane := if replaced then s.plane else stopPool s.plane key
      phase := .stoppingPools rest left }
  | _ => none

section
variable (platform : Platform) (m : Manager) (stoppers : List Stopper)

/- Closed listeners leave the open connections, on which requests still come in. Dec is
deferred before everything else, so it runs last. -/
def step (s : State) : Action → Option State
  | .plane (.act .acquire) => none
  | .plane (.act (.release _)) => none
  | .plane a => (PoolSteps.step platform m s.plane a).map (fun plane => { s with plane := plane })
  | .arrive =>
    if s.phase = .returned then none
    else (InflightTracker.step s.tracker .inc).map (fun t => { track s t with holds := s.holds ++ [.before] })
  | .turn i =>
    match s.holds[i]? with
    | some (.holding _) => none
    | _ => (InflightTracker.step s.tracker (.turn i)).map (track s)
  | .acquire i =>
    match s.holds[i]?,s.tracker.requests[i]? with
    | some .before,some .inside => (PoolSteps.step platform m s.plane (.act .acquire)).map (fun plane =>
        { s with plane := plane, holds := s.holds.set i (.holding s.plane.base.requests.length) })
    | _,_ => none
  | .release i =>
    match s.holds[i]? with
    | some (.holding j) => (PoolSteps.step platform m s.plane (.act (.release j))).map (fun plane =>
        { s with plane := plane, holds := s.holds.set i .after })
    | _ => none
  | .shutdown =>
    if s.phase = .serving then
      some { s with phase := .stopping stoppers, promised := decide (0 < s.tracker.count) }
    else none
  | .stop pools routes => stopNext s pools routes
  | .stopPool replaced => stopNextPool s replaced
  | .drained => if s.phase = .draining then some { s with phase := .waiting } else none
  | .waited =>
    if s.phase = .waiting ∧ (s.tracker.waitReturns = true ∨ s.expired = true) then some { s with phase := .closing } else none
  | .expire =>
    if s.phase = .waiting ∨ s.phase = .closing then some { s with expired := true, promised := false } else none
  | .closed =>
    if s.phase = .closing ∧ (s.expired = true ∨ ∀ r ∈ s.tracker.requests, r = .gone) then
      some { s with phase := if s.expired then .forcing else .returned }
    else none
  | .forced => if s.phase = .forcing then some { s with phase := .returned } else none

inductive Stepped (s : State) : Action → State → Prop where
  | planned {a plane} (moved : PoolSteps.step platform m s.plane a = some plane) :
      Stepped s (.plane a) { s with plane := plane }
  | arrived {t} (counted : InflightTracker.step s.tracker .inc = some t) :
      Stepped s .arrive { track s t with holds := s.holds ++ [.before] }
  | turned {i t} (counted : InflightTracker.step s.tracker (.turn i) = some t) : Stepped s (.turn i) (track s t)
  | acquired {i plane} (moved : PoolSteps.step platform m s.plane (.act .acquire) = some plane) :
      Stepped s (.acquire i) { s with plane := plane, holds := s.holds.set i (.holding s.plane.base.requests.length) }
  | released {i j plane} (moved : PoolSteps.step platform m s.plane (.act (.release j)) = some plane) :
      Stepped s (.release i) { s with plane := plane, holds := s.holds.set i .after }
  | shut (phase : s.phase = .serving) :
      Stepped s .shutdown { s with phase := .stopping stoppers, promised := decide (0 < s.tracker.count) }
  | stoppedAll {pools routes} (phase : s.phase = .stopping []) : Stepped s (.stop pools routes) { s with phase := .draining }
  | stopsPools {pools routes left} (phase : s.phase = .stopping (.pools :: left)) :
      Stepped s (.stop pools routes) { s with phase := .stoppingPools pools left }
  | stoppedTraffic {pools routes left} (phase : s.phase = .stopping (.traffic :: left)) :
      Stepped s (.stop pools routes) { s with plane := closeTraffic s.plane routes, phase := .stopping left }
  | stoppedOther {pools routes left} (phase : s.phase = .stopping (.other :: left)) :
      Stepped s (.stop pools routes) { s with phase := .stopping left }
  | stoppedPools {replaced left} (phase : s.phase = .stoppingPools [] left) :
      Stepped s (.stopPool replaced) { s with phase := .stopping left }
  | missedPool {key rest left} (phase : s.phase = .stoppingPools (key :: rest) left) :
      Stepped s (.stopPool true) { s with phase := .stoppingPools rest left }
  | stoppedPool {key rest left} (phase : s.phase = .stoppingPools (key :: rest) left) :
      Stepped s (.stopPool false) { s with plane := stopPool s.plane key, phase := .stoppingPools rest left }
  | drained (phase : s.phase = .draining) : Stepped s .drained { s with phase := .waiting }
  | waited (phase : s.phase = .waiting) (done : s.tracker.waitReturns = true ∨ s.expired = true) :
      Stepped s .waited { s with phase := .closing }
  | expired (phase : s.phase = .waiting ∨ s.phase = .closing) : Stepped s .expire { s with expired := true, promised := false }
  | closed (phase : s.phase = .closing) (done : s.expired = true ∨ ∀ r ∈ s.tracker.requests, r = .gone) :
      Stepped s .closed { s with phase := if s.expired then .forcing else .returned }
  | forced (phase : s.phase = .forcing) : Stepped s .forced { s with phase := .returned }

theorem stepped {s s' : State} {a : Action} (taken : step platform m stoppers s a = some s') :
    Stepped platform m stoppers s a s' := by
  cases a with
  | plane a =>
    have moved : (PoolSteps.step platform m s.plane a).map (fun plane => { s with plane := plane }) = some s' := by
      cases a with
      | act b => cases b <;> first | exact taken | cases taken
      | _ => exact taken
    obtain ⟨plane,went,rfl⟩ := Option.map_eq_some_iff.mp moved
    exact .planned went
  | arrive =>
    simp only [step] at taken
    split at taken
    · cases taken
    · obtain ⟨t,counted,rfl⟩ := Option.map_eq_some_iff.mp taken
      exact .arrived counted
  | turn i =>
    simp only [step] at taken
    split at taken
    · cases taken
    · obtain ⟨t,counted,rfl⟩ := Option.map_eq_some_iff.mp taken
      exact .turned counted
  | acquire i =>
    simp only [step] at taken
    split at taken
    · obtain ⟨plane,went,rfl⟩ := Option.map_eq_some_iff.mp taken
      exact .acquired went
    · cases taken
  | release i =>
    simp only [step] at taken
    split at taken
    · obtain ⟨plane,went,rfl⟩ := Option.map_eq_some_iff.mp taken
      exact .released went
    · cases taken
  | shutdown =>
    simp only [step] at taken
    split at taken <;> cases taken
    exact .shut (by assumption)
  | stop pools routes =>
    simp only [step, stopNext] at taken
    split at taken <;> cases taken
    · exact .stoppedAll (by assumption)
    · exact .stopsPools (by assumption)
    · exact .stoppedTraffic (by assumption)
    · exact .stoppedOther (by assumption)
  | stopPool replaced =>
    simp only [step, stopNextPool] at taken
    split at taken <;> cases taken
    · exact .stoppedPools (by assumption)
    · cases replaced with
      | true => exact .missedPool (by assumption)
      | false => exact .stoppedPool (by assumption)
  | drained =>
    simp only [step] at taken
    split at taken <;> cases taken
    exact .drained (by assumption)
  | waited =>
    simp only [step] at taken
    split at taken <;> cases taken
    rename_i done
    exact .waited done.1 done.2
  | expire =>
    simp only [step] at taken
    split at taken <;> cases taken
    exact .expired (by assumption)
  | closed =>
    simp only [step] at taken
    split at taken <;> cases taken
    rename_i done
    exact .closed done.1 done.2
  | forced =>
    simp only [step] at taken
    split at taken <;> cases taken
    exact .forced (by assumption)

end

def Full (p : PoolRuntime) : Prop := ∀ addr ∈ p.order, Open p addr

def Filled (r : Registry) : Prop := ∀ key p, r.pools.get key = some p → Full p

theorem tendsFull {p p' : PoolRuntime} (tends : Tends p p') (full : Full p) : Full p' := by
  intro addr ordered
  exact tends.opens addr (full addr (tends.order ▸ ordered))

theorem tendedFilled {r r' : Registry} (tended : Tended r r') (filled : Filled r) : Filled r' := by
  intro key p' now
  rcases tended.pools key with ⟨-,absent⟩ | ⟨p,q,found,there,tends⟩
  · cases absent.symm.trans now
  · cases Option.some.inj (there.symm.trans now)
    exact tendsFull tends (filled key p found)

theorem filledInsert {r : Registry} {key : PoolKey} {p : PoolRuntime} (filled : Filled r) (full : Full p) :
    Filled { r with pools := r.pools.insert key p } := by
  intro k q there
  simp only [Map.getInsert] at there
  split at there
  · cases there
    exact full
  · exact filled k q there

theorem reconcileFull (p : PoolRuntime) (endpoints : List String) (cfg : PolicyBuild.Health) (timeout : Duration) (now : Int) :
    Full (p.reconcile endpoints cfg timeout now) := by
  intro addr ordered
  have active : (p.reconcile endpoints cfg timeout now).shape.get addr = some false := by
    rw [PoolRegistry.reconciledShape]
    exact if_pos ordered
  exact Option.map_eq_some_iff.mp active

theorem performFilled {runes : RuneTables} {r : Registries} (filled : Filled r.registry) (now : Int) (call : Call) :
    Filled (perform runes r (now,call)).2.registry := by
  cases call with
  | reconcile key endpoints health opts => exact filledInsert filled (reconcileFull _ _ _ _ _)
  | prune desired =>
    intro key p there
    change (r.registry.pools.keep _).get key = some p at there
    rw [Map.getKeep] at there
    split at there
    · exact filled key p there
    · cases there
  | plan routeID cfg => exact filled
  | outlier key endpoints cfg => exact filled

theorem stopFilled {r : Registry} (filled : Filled r) (key : PoolKey) : Filled (r.stopPool key) := by
  intro k p there
  simp only [Registry.stopPool, Map.getAdjust] at there
  split at there
  · obtain ⟨q,-,rfl⟩ := Option.map_eq_some_iff.mp there
    intro addr ordered
    cases ordered
  · exact filled k p there

theorem enterFilled {r : Registry} (filled : Filled r) (key : PoolKey) (cfg : PolicyBuild.Health) : Filled (r.enter key cfg) := by
  unfold Registry.enter
  cases r.pools.get key with
  | some p => exact filled
  | none => exact filledInsert filled (fun addr ordered => nomatch ordered)

theorem settleFilled {r : Registry} (filled : Filled r) (key : PoolKey) (endpoints : List String) (cfg : PolicyBuild.Health)
    (now : Int) : Filled (r.settle key endpoints cfg now) := by
  intro k p there
  simp only [Registry.settle, Map.getAdjust] at there
  split at there
  · obtain ⟨q,-,rfl⟩ := Option.map_eq_some_iff.mp there
    exact reconcileFull _ _ _ _ _
  · exact filled k p there

theorem baseFilled {platform : Platform} {m : Manager} {s s' : ControlPlane.State} {a : ControlPlane.Action}
    (filled : Filled (pools s)) (moved : ControlPlane.step platform m s a = some s') : Filled (pools s') := by
  rcases PoolSteps.registryMoves (ControlPlane.stepped moved) with tended | ⟨i,now,c,-,-,registry⟩
  · exact tendedFilled tended filled
  · rw [registry]
    exact performFilled filled now c

theorem planeFilled {platform : Platform} {m : Manager} {s s' : PoolSteps.State} {a : PoolSteps.Action}
    (filled : Filled (pools s.base)) (moved : PoolSteps.Stepped platform m s a s') : Filled (pools s'.base) := by
  cases moved with
  | entered => exact enterFilled filled _ _
  | looked => exact filled
  | missed => exact filled
  | reaped => exact tendedFilled (reapPoolTended ..) filled
  | @settled i now t script made replies key endpoints health opts hand =>
    change Filled (pools (if hand.inPlace then _ else _))
    split
    · exact settleFilled filled _ _ _ _
    · exact filled
  | pruned next moved => exact baseFilled filled moved
  | @picked j pool scan outlierEjected now hand =>
    change Filled (pools (if hand.inPlace then _ else _))
    split
    · exact tendedFilled (pickTended ..) filled
    · exact filled
  | acted plain moved => exact baseFilled filled moved

theorem stopServes {r : Registry} {key other : PoolKey} (serves : Serves r other) (apart : other ≠ key) :
    Serves (r.stopPool key) other := by
  obtain ⟨p,found,serving⟩ := serves
  exact ⟨p,by simp [Registry.stopPool,Map.getAdjust,apart,found],serving⟩

structure Orderly (s : State) (a : Action) : Prop where
  prunes : ∀ b, a = .plane b → PoolSteps.Spares s.plane b
  stops : ∀ key rest left, a = .stopPool false → s.phase = .stoppingPools (key :: rest) left → s.promised = true →
    ¬Needed s.plane.base key

structure Kept (s : State) : Prop where
  filled : Filled (pools s.plane.base)
  grips : Grips s.plane
  served : s.phase = .serving ∨ s.promised = true → Served s.plane.base

section
variable {platform : Platform} {m : Manager} {stoppers : List Stopper} {s s' : State} {a : Action}

theorem Kept.plane (kept : Kept s) {b : PoolSteps.Action} (spares : PoolSteps.Spares s.plane b)
    (moved : PoolSteps.step platform m s.plane b = some s'.plane) (phase : s'.phase = s.phase)
    (promised : s'.promised = s.promised) : Kept s' := by
  have taken := PoolSteps.stepped moved
  refine ⟨planeFilled kept.filled taken,PoolSteps.gripsStep kept.grips spares taken,?_⟩
  rw [phase, promised]
  intro due
  exact PoolSteps.servedStep kept.grips (kept.served due) spares taken

theorem Kept.beside (kept : Kept s) (plane : s'.plane = s.plane) (phase : s'.phase = .serving → s.phase = .serving)
    (promised : s'.promised = true → s.promised = true) : Kept s' := by
  refine ⟨plane ▸ kept.filled,plane ▸ kept.grips,?_⟩
  rw [plane]
  rintro (serving | due)
  · exact kept.served (.inl (phase serving))
  · exact kept.served (.inr (promised due))

theorem keptStep (kept : Kept s) (orderly : Orderly s a) (taken : Stepped platform m stoppers s a s') : Kept s' := by
  cases taken with
  | planned moved => exact kept.plane (orderly.prunes _ rfl) moved rfl rfl
  | acquired moved => exact kept.plane (PoolSteps.otherStepsSpare _ _ rfl) moved rfl rfl
  | released moved => exact kept.plane (PoolSteps.otherStepsSpare _ _ rfl) moved rfl rfl
  | arrived => exact kept.beside rfl id (fun due => (Bool.and_eq_true_iff.mp due).1)
  | turned => exact kept.beside rfl id (fun due => (Bool.and_eq_true_iff.mp due).1)
  | shut phase => exact ⟨kept.filled,kept.grips,fun _ => kept.served (.inl phase)⟩
  | stoppedTraffic =>
    refine ⟨kept.filled,kept.grips.beside rfl rfl (fun _ => id),?_⟩
    rintro (serving | due)
    · cases serving
    · have served := kept.served (.inr due)
      exact ⟨served.pools,served.scripts⟩
  | @stoppedPool key rest left phase =>
    refine ⟨stopFilled kept.filled key,kept.grips.beside rfl rfl (fun _ => (Map.isSomeAdjust ..).trans),?_⟩
    rintro (serving | due)
    · cases serving
    · have served := kept.served (.inr due)
      refine ⟨fun other needed => ?_,served.scripts⟩
      have apart : other ≠ key := by
        rintro rfl
        exact orderly.stops other rest left rfl phase due needed
      exact stopServes (served.pools other needed) apart
  | expired => exact kept.beside rfl id (fun due => nomatch due)
  | closed =>
    refine kept.beside rfl ?_ id
    dsimp only
    split <;> simp
  | _ => exact kept.beside rfl (fun serving => nomatch serving) id

end

def Staffed (r : Registry) (key : PoolKey) : Prop := ∃ p, r.pools.get key = some p ∧ p.order ≠ [] ∧ Full p

theorem Filled.staffed {r : Registry} (filled : Filled r) {key : PoolKey} (serves : Serves r key) : Staffed r key := by
  obtain ⟨p,found,addr,ordered,-⟩ := serves
  exact ⟨p,found,List.ne_nil_of_mem ordered,filled key p found⟩

theorem drainKeepsPools {platform : Platform} {m : Manager} {stoppers : List Stopper} {start : ControlPlane.State}
    (ready : Ready start) (filled : Filled (pools start)) {as : List Action} {s : State}
    (run : Runs (step platform m stoppers) Orderly { plane := { base := start } } as s) (promised : s.promised = true) :
    (∀ snapshot key, s.plane.base.live.store.current = some snapshot → Uses snapshot key → Staffed (pools s.plane.base) key) ∧
    ∀ (i j : Nat) (snapshot : Snapshot), s.holds[i]? = some (.holding j) →
      s.plane.base.requests[j]? = some (some snapshot) →
      (∀ hand, s.plane.hands.get (.request j) = some hand → hand.inPlace = true ∧ Uses snapshot hand.key) ∧
      ∀ (name : String) (key : PoolKey) (scan : List String) (outlierEjected : String → Bool) (now : Int),
        snapshot.compiled.pools.get name = some key →
          ∃ result, ((pools s.plane.base).pick key scan outlierEjected now).1 = some result ∧
            (result.selectedHealthy = true ∨ result.selectedFailOpen = true) := by
  have kept : Kept s := run.preserve Kept (fun _ _ _ kept orderly taken => keptStep kept orderly (stepped platform m stoppers taken))
    ⟨filled,PoolSteps.readyGrips ready,fun _ => readyServed ready⟩
  have served := kept.served (.inr promised)
  refine ⟨?_,?_⟩
  · intro snapshot key current uses
    exact kept.filled.staffed (served.pools key (.inl ⟨snapshot,current,uses⟩))
  · intro i j snapshot _ held
    refine ⟨fun hand inHand => kept.grips.requestInPlace held inHand,fun name key scan outlierEjected now known => ?_⟩
    exact servesPicks (served.pools key (.inr (.inl ⟨snapshot,List.mem_of_getElem? held,name,known⟩))) scan outlierEjected now

theorem stopEmptiesPools :
    ∃ as s snapshot result, Runs (step (decoding (onePool "old")) {} mainStoppers) anyStep { plane := { base := booted } } as s ∧
      s.promised = true ∧ s.phase = .waiting ∧ s.holds[0]? = some (.holding 0) ∧ s.plane.base.requests[0]? = some (some snapshot) ∧
      s.plane.base.live.store.current = some snapshot ∧ snapshot.compiled.pools.get "old" = some "old" ∧
      ¬Staffed (pools s.plane.base) "old" ∧
      ((pools s.plane.base).pick "old" [] (fun _ => false) 0).1 = some result ∧
      result.selectedHealthy = false ∧ result.selectedFailOpen = false := by
  obtain ⟨s,ran,snapshot,result,promised,phase,holds,held,current,known,picked,unhealthy,closed,p,there,bare⟩ :
      ∃ s, runAll (step (decoding (onePool "old")) {} mainStoppers) anyStep { plane := { base := booted } }
          [.arrive,.turn 0,.acquire 0,.shutdown,.stop ["old"] [],.stopPool false,.stopPool false,.stop [] [],.stop [] [],
            .stop [] [],.stop [] [],.stop [] [],.stop [] [],.drained] = some s ∧
      ∃ snapshot result, s.promised = true ∧ s.phase = .waiting ∧ s.holds[0]? = some (.holding 0) ∧
        s.plane.base.requests[0]? = some (some snapshot) ∧ s.plane.base.live.store.current = some snapshot ∧
        snapshot.compiled.pools.get "old" = some "old" ∧
        ((pools s.plane.base).pick "old" [] (fun _ => false) 0).1 = some result ∧
        result.selectedHealthy = false ∧ result.selectedFailOpen = false ∧
        ∃ p, (pools s.plane.base).pools.get "old" = some p ∧ p.order = [] :=
    ⟨_,rfl,_,_,rfl,rfl,rfl,rfl,rfl,rfl,rfl,rfl,rfl,_,rfl,rfl⟩
  refine ⟨_,s,snapshot,result,runAllRuns ran,promised,phase,holds,held,current,known,?_,picked,unhealthy,closed⟩
  rintro ⟨q,found,some_,-⟩
  cases Option.some.inj (there.symm.trans found)
  exact some_ bare

def harmless (s : State) : Action → Bool
  | .plane b => !PoolSteps.prunes s.plane b
  | .stopPool replaced => replaced
  | _ => true

theorem harmlessOrderly (s : State) (a : Action) (is : harmless s a = true) : Orderly s a := by
  constructor
  · rintro b rfl
    exact PoolSteps.otherStepsSpare _ _ (by simpa [harmless] using is)
  · rintro key rest left rfl
    cases is

theorem bootedFilled : Filled (pools booted) := by
  have bare : Filled ({} : Registries).registry := by
    intro key p there
    cases there
  have reconciled := @performFilled (decoding (onePool "old")).runes {} bare 0
    (.reconcile "old" ["10.0.0.1:80"] (PolicyBuild.healthFromConfig {}) (PolicyBuild.transportFromConfig {}))
  exact @performFilled (decoding (onePool "old")).runes _ reconciled 0 (.prune ["old"])

theorem earlyPickFinds :
    ∃ as s snapshot result, Ready booted ∧ Filled (pools booted) ∧
      Runs (step (decoding (onePool "old")) {} mainStoppers) Orderly { plane := { base := booted } } as s ∧ s.promised = true ∧
      s.plane.base.requests[0]? = some (some snapshot) ∧ Staffed (pools s.plane.base) "old" ∧
      ((pools s.plane.base).pick "old" [] (fun _ => false) 0).1 = some result ∧
      (result.selectedHealthy = true ∨ result.selectedFailOpen = true) := by
  obtain ⟨s,ran,snapshot,promised,holds,held,current,known⟩ :
      ∃ s, runAll (step (decoding (onePool "old")) {} mainStoppers) (harmless · · = true) { plane := { base := booted } }
          [.arrive,.turn 0,.acquire 0,.shutdown,.plane (.look 0 "old"),
            .plane (.act (.pick 0 "old" [] (fun _ => false) 0)),.plane (.look 0 "old")] = some s ∧
      ∃ snapshot, s.promised = true ∧ s.holds[0]? = some (.holding 0) ∧ s.plane.base.requests[0]? = some (some snapshot) ∧
        s.plane.base.live.store.current = some snapshot ∧ snapshot.compiled.pools.get "old" = some "old" :=
    ⟨_,rfl,_,rfl,rfl,rfl,rfl,rfl⟩
  have run := (runAllRuns ran).weaken harmlessOrderly
  obtain ⟨pools,picks⟩ := drainKeepsPools bootedReady bootedFilled run promised
  obtain ⟨result,picked,answered⟩ := (picks 0 0 snapshot holds held).2 "old" "old" [] (fun _ => false) 0 known
  exact ⟨_,s,snapshot,result,bootedReady,bootedFilled,run,promised,held,pools snapshot "old" current ⟨"old",known⟩,picked,answered⟩

end ReverseProxy.ShutdownOrder
