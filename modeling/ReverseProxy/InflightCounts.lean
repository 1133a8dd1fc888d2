import ReverseProxy.Crew
import ReverseProxy.PoolRegistry
import ReverseProxy.Transition

/-! The inflight counter of an endpoint against the requests on it. InflightStart and
InflightDone find the endpoint by pool and address each time, so a request may be
counted in on one endpoint object and out on its successor. -/
namespace ReverseProxy.InflightCounts
open GoValues FiniteMap PoolRegistry
open PolicyBuild (Health)
open Transition (Runs anyStep runAllRuns runAll)

inductive Request where
  | picked (key : PoolKey) (addr : String)
  | started (key : PoolKey) (addr : String)
  | finished
  deriving DecidableEq, Repr

structure State where
  registry : Registry := {}
  requests : List Request := []

inductive Action where
  | pick (key : PoolKey) (scan : List String) (outlierEjected : String → Bool) (now : Int)
  | turn (i : Nat)
  | reconcile (key : PoolKey) (endpoints : List String) (cfg : Health) (now : Int)
  | prunePools (desired : List PoolKey)
  | reap (now : Int)

def attempt (key : PoolKey) : Option PickResult → List Request
  | none => []
  | some result => if result.addr = "" then [] else [.picked key result.addr]

def stepRequest (s : State) (i : Nat) : Request → Option State
  | .picked key addr => some {
      registry := s.registry.inflightStart key addr
      requests := s.requests.set i (.started key addr) }
  | .started key addr => some {
      registry := s.registry.inflightDone key addr
      requests := s.requests.set i .finished }
  | .finished => none

def step (s : State) : Action → Option State
  | .pick key scan outlierEjected now =>
    let picked := s.registry.pick key scan outlierEjected now
    some { registry := picked.2, requests := s.requests ++ attempt key picked.1 }
  | .turn i => s.requests[i]?.bind (stepRequest s i)
  | .reconcile key endpoints cfg now => some { s with registry := s.registry.reconcile key endpoints cfg now }
  | .prunePools desired => some { s with registry := s.registry.prunePools desired }
  | .reap now => some { s with registry := s.registry.reapOnce now }

def pooled (m : Map String EndpointRuntime) (addr : String) : Option Int := (m.get addr).map EndpointRuntime.inflight

def inflight (r : Registry) (key : PoolKey) (addr : String) : Option Int :=
  (r.pools.get key).bind (fun p => pooled p.endpoints addr)

def running (requests : List Request) (key : PoolKey) (addr : String) : Nat :=
  requests.countP (· == .started key addr)

section
variable (r : Registry) (key k : PoolKey) (addr a : String)

theorem restoreInflight (e : EndpointRuntime) : e.restore.inflight = e.inflight := by
  unfold EndpointRuntime.restore
  split <;> rfl

theorem markDrainingInflight (e : EndpointRuntime) (timeout now) : (e.markDraining timeout now).inflight = e.inflight := by
  unfold EndpointRuntime.markDraining
  split <;> rfl

theorem admittedInflight (cfg : Health) (endpoints : List String) (m : Map String EndpointRuntime) :
    pooled (endpoints.foldl (PoolRuntime.admitEndpoint cfg) m) a =
      (pooled m a).or (if a ∈ endpoints then some 0 else none) := by
  induction endpoints generalizing m with
  | nil => simp
  | cons head rest ih =>
    have first : pooled (PoolRuntime.admitEndpoint cfg m head) a = (pooled m a).or (if a = head then some 0 else none) := by
      unfold PoolRuntime.admitEndpoint pooled
      by_cases same : a = head
      · subst same
        cases m.get a <;> simp [restoreInflight,EndpointRuntime.updateConfig,EndpointRuntime.new]
      · cases m.get head <;> simp [Map.getInsertOther _ _ same,same]
    rw [List.foldl_cons, ih, first]
    cases pooled m a <;> by_cases same : a = head <;> simp [same]

theorem reconciledPool (p : PoolRuntime) (endpoints : List String) (cfg : Health) (timeout : Duration) (now : Int) :
    pooled (p.reconcile endpoints cfg timeout now).endpoints a =
      (pooled p.endpoints a).or (if a ∈ endpoints then some 0 else none) := by
  rw [← admittedInflight a cfg endpoints p.endpoints]
  change (((endpoints.foldl (PoolRuntime.admitEndpoint cfg) p.endpoints).get a).map _).map _ = _
  unfold pooled
  rw [Option.map_map]
  congr 1
  funext e
  simp only [Function.comp_apply]
  split
  · rfl
  · exact markDrainingInflight e timeout now

theorem reconcileInflight (endpoints : List String) (cfg : Health) (now : Int) :
    inflight (r.reconcile key endpoints cfg now) k a =
      if k = key then (inflight r k a).or (if a ∈ endpoints then some 0 else none) else inflight r k a := by
  unfold inflight Registry.reconcile
  simp only [Map.getInsert]
  split
  · rename_i same
    subst same
    rw [Option.bind_some, reconciledPool]
    cases r.pools.get k <;> rfl
  · rfl

theorem pruneInflight (desired : List PoolKey) :
    inflight (r.prunePools desired) k a = if k ∈ desired then inflight r k a else none := by
  unfold inflight Registry.prunePools
  rw [Map.getKeep]
  by_cases wanted : k ∈ desired <;> simp [wanted]

theorem seenPool (p : PoolRuntime) (now : Int) : pooled (p.markSeen addr now).endpoints a = pooled p.endpoints a := by
  unfold PoolRuntime.markSeen pooled
  cases found : p.endpoints.get addr with
  | none => simp only
  | some e =>
    simp only [Map.getInsert]
    split
    · rename_i same
      rw [same, found]
      rfl
    · rfl

theorem pickedPool (p : PoolRuntime) (scan : List String) (outlierEjected : String → Bool) (now : Int) :
    pooled (p.pick scan outlierEjected now).2.endpoints a = pooled p.endpoints a := by
  unfold PoolRuntime.pick
  dsimp only
  split
  · split
    · rfl
    · exact seenPool ..
  · split
    · rfl
    · exact seenPool ..

theorem pickInflight (scan : List String) (outlierEjected : String → Bool) (now : Int) :
    inflight (r.pick key scan outlierEjected now).2 k a = inflight r k a := by
  unfold inflight Registry.pick
  cases found : r.pools.get key with
  | none => rfl
  | some p =>
    simp only [Map.getInsert]
    split
    · rename_i same
      rw [same, found]
      exact pickedPool a p scan outlierEjected now
    · rfl

theorem reapedPool (p : PoolRuntime) (now : Int) : pooled (p.reap now).endpoints a = pooled p.endpoints a ∨
    pooled (p.reap now).endpoints a = none ∧ pooled p.endpoints a = some 0 := by
  simp only [pooled, PoolRuntime.reap, Map.get]
  cases p.endpoints a with
  | none => exact .inl rfl
  | some e =>
    simp only
    split
    · rename_i expired
      refine .inr ⟨rfl,?_⟩
      simp only [Bool.and_eq_true, beq_iff_eq] at expired
      rw [Option.map_some, expired.2]
    · exact .inl rfl

theorem reapInflight (now : Int) : inflight (r.reapOnce now) k a = inflight r k a ∨
    inflight (r.reapOnce now) k a = none ∧ inflight r k a = some 0 := by
  unfold inflight Registry.reapOnce
  simp only [Map.getMapValues]
  cases r.pools.get k with
  | none => exact .inl rfl
  | some p => exact reapedPool a p now

theorem endpointInflight (f : EndpointRuntime → EndpointRuntime) (g : Int → Int) (acts : ∀ e, (f e).inflight = g e.inflight) :
    inflight (r.onEndpoint key addr f) k a =
      if k = key ∧ a = addr then (inflight r k a).map g else inflight r k a := by
  unfold inflight Registry.onEndpoint
  cases found : r.pools.get key with
  | none =>
    by_cases same : k = key ∧ a = addr
    · simp [same,found]
    · simp [same]
  | some p =>
    cases present : p.endpoints.get addr with
    | none =>
      by_cases same : k = key ∧ a = addr
      · simp [same,found,pooled,present]
      · simp [same,present]
    | some e =>
      by_cases here : k = key
      · subst here
        by_cases same : a = addr
        · subst same
          simp [found,pooled,present,acts]
        · simp [found,pooled,same,present,Map.getInsertOther]
      · simp [here,present,Map.getInsertOther]

end

theorem presentInflight (r : Registry) (key : PoolKey) (addr : String) :
    r.hasEndpoint key addr = (inflight r key addr).isSome := by
  unfold Registry.hasEndpoint inflight pooled
  cases r.pools.get key <;> simp

def Counted (s : State) : Prop :=
  ∀ key addr n, inflight s.registry key addr = some n → n = running s.requests key addr ∧ n < 2^63

/- Reconcile makes a new endpoint only for an address without running requests, and
no counter is at the end of int64 when a request starts. -/
def succeeds (s : State) : Action → Prop
  | .reconcile key endpoints _ _ =>
    ∀ addr ∈ endpoints, inflight s.registry key addr = none → running s.requests key addr = 0
  | .turn i => ∀ key addr, s.requests[i]? = some (.picked key addr) → (running s.requests key addr : Int) + 1 < 2^63
  | _ => True

theorem runningMove {requests : List Request} {i : Nat} {old : Request} (found : requests[i]? = some old) (new : Request)
    (key : PoolKey) (addr : String) :
    running (requests.set i new) key addr + (old == .started key addr).toNat =
      running requests key addr + (new == .started key addr).toNat :=
  Crew.countMove _ found new

theorem otherStarted {key k : PoolKey} {addr a : String} (other : ¬(k = key ∧ a = addr)) :
    (Request.started key addr == .started k a) = false := by
  simp only [beq_eq_false_iff_ne, ne_eq, Request.started.injEq]
  rintro ⟨rfl,rfl⟩
  exact other ⟨rfl,rfl⟩

theorem countedStarts {s : State} {i : Nat} {key : PoolKey} {addr : String} (start : Counted s)
    (found : s.requests[i]? = some (.picked key addr)) (room : (running s.requests key addr : Int) + 1 < 2^63) :
    Counted { registry := s.registry.inflightStart key addr, requests := s.requests.set i (.started key addr) } := by
  intro k a n present
  have moved : running (s.requests.set i (.started key addr)) k a + 0 = _ := runningMove found (.started key addr) k a
  unfold Registry.inflightStart at present
  rw [endpointInflight s.registry key k addr a _ (fun n => wrap64 (n + 1)) (fun _ => rfl)] at present
  by_cases same : k = key ∧ a = addr
  · obtain ⟨rfl,rfl⟩ := same
    rw [if_pos ⟨rfl,rfl⟩] at present
    obtain ⟨m,before,after⟩ := Option.map_eq_some_iff.mp present
    have counted := start k a m before
    rw [wrap64Same (by omega) (by omega)] at after
    simp only [beq_self_eq_true, Bool.toNat_true] at moved
    simp only
    omega
  · rw [if_neg same] at present
    have counted := start k a n present
    rw [otherStarted same, Bool.toNat_false] at moved
    simp only
    omega

theorem countedFinishes {s : State} {i : Nat} {key : PoolKey} {addr : String} (start : Counted s)
    (found : s.requests[i]? = some (.started key addr)) :
    Counted { registry := s.registry.inflightDone key addr, requests := s.requests.set i .finished } := by
  intro k a n present
  have moved : _ = running s.requests k a + 0 := runningMove found .finished k a
  unfold Registry.inflightDone at present
  rw [endpointInflight s.registry key k addr a _ (fun n => wrap64 (n - 1)) (fun _ => rfl)] at present
  by_cases same : k = key ∧ a = addr
  · obtain ⟨rfl,rfl⟩ := same
    rw [if_pos ⟨rfl,rfl⟩] at present
    obtain ⟨m,before,after⟩ := Option.map_eq_some_iff.mp present
    have counted := start k a m before
    simp only [beq_self_eq_true, Bool.toNat_true] at moved
    rw [wrap64Same (by omega) (by omega)] at after
    simp only
    omega
  · rw [if_neg same] at present
    have counted := start k a n present
    rw [otherStarted same, Bool.toNat_false] at moved
    simp only
    omega

theorem countedReconciles {s : State} {key : PoolKey} {endpoints : List String} (cfg : Health) (now : Int)
    (start : Counted s) (fresh : ∀ addr ∈ endpoints, inflight s.registry key addr = none → running s.requests key addr = 0) :
    Counted { s with registry := s.registry.reconcile key endpoints cfg now } := by
  intro k a n present
  rw [reconcileInflight] at present
  by_cases same : k = key
  · subst same
    rw [if_pos rfl] at present
    cases before : inflight s.registry k a with
    | some m =>
      rw [before] at present
      cases present
      exact start k a n before
    | none =>
      rw [before, Option.none_or] at present
      split at present
      · rename_i inside
        cases present
        rw [fresh a inside before]
        exact ⟨rfl,by decide⟩
      · cases present
  · rw [if_neg same] at present
    exact start k a n present

theorem runningJoin (requests : List Request) (key : PoolKey) (result : Option PickResult) (k : PoolKey) (a : String) :
    running (requests ++ attempt key result) k a = running requests k a := by
  unfold running attempt
  cases result with
  | none => simp
  | some picked =>
    dsimp only
    split <;> simp [List.countP_append]

theorem countedStep {s s' : State} {a : Action} (start : Counted s) (allowed : succeeds s a) (taken : step s a = some s') :
    Counted s' := by
  cases a with
  | pick key scan outlierEjected now =>
    cases taken
    intro k a n present
    rw [pickInflight] at present
    simpa only [runningJoin] using start k a n present
  | turn i =>
    obtain ⟨r,found,moved⟩ := Option.bind_eq_some_iff.mp taken
    cases r with
    | picked key addr =>
      cases moved
      exact countedStarts start found (allowed key addr found)
    | started key addr =>
      cases moved
      exact countedFinishes start found
    | finished => cases moved
  | reconcile key endpoints cfg now =>
    cases taken
    exact countedReconciles cfg now start allowed
  | prunePools desired =>
    cases taken
    intro k a n present
    rw [pruneInflight] at present
    split at present
    · exact start k a n present
    · cases present
  | reap now =>
    cases taken
    intro k a n present
    rcases reapInflight s.registry k a now with same | ⟨gone,_⟩
    · rw [same] at present
      exact start k a n present
    · rw [gone] at present
      cases present

theorem countersMatch {as : List Action} {s : State} (run : Runs step succeeds {} as s) :
    (∀ key addr n, inflight s.registry key addr = some n → n = running s.requests key addr ∧ 0 ≤ n) ∧
    ∀ now key addr, s.registry.hasEndpoint key addr = true → 0 < running s.requests key addr →
      (s.registry.reapOnce now).hasEndpoint key addr = true := by
  have counted : Counted s := by
    refine run.preserve Counted (fun _ _ _ start allowed taken => countedStep start allowed taken) ?_
    intro key addr n present
    cases present
  refine ⟨?_,?_⟩
  · intro key addr n present
    have same := (counted key addr n present).1
    exact ⟨same,by omega⟩
  · intro now key addr present used
    rw [presentInflight, Option.isSome_iff_exists] at present
    obtain ⟨n,present⟩ := present
    have same := (counted key addr n present).1
    rw [presentInflight]
    rcases reapInflight s.registry key addr now with kept | ⟨_,zero⟩
    · rw [kept, present]
      rfl
    · rw [present] at zero
      cases zero
      omega

def probing : Health where
  path := "/healthz"
  interval := 0
  timeout := second
  unhealthyAfterFailures := 3
  healthyAfterSuccesses := 2
  baseEjectDuration := second
  maxEjectDuration := second

instance (s : State) (a : Action) : Decidable (succeeds s a) :=
  match a with
  | .reconcile key endpoints _ _ => inferInstanceAs (Decidable (∀ addr ∈ endpoints, _ → _))
  | .turn i =>
    match found : s.requests[i]? with
    | some (.picked key addr) => decidable_of_iff ((running s.requests key addr : Int) + 1 < 2^63) (by simp [succeeds,found])
    | some (.started _ _) => .isTrue (by simp [succeeds,found])
    | some .finished => .isTrue (by simp [succeeds,found])
    | none => .isTrue (by simp [succeeds,found])
  | .pick _ _ _ _ => .isTrue trivial
  | .prunePools _ => .isTrue trivial
  | .reap _ => .isTrue trivial

/- Two requests on one endpoint, a prune that keeps its pool and a reap; then one is done. -/
def serving : List Action :=
  [.reconcile "p1" ["a:80"] probing 0,.pick "p1" [] (fun _ => false) 0,.turn 0,.pick "p1" [] (fun _ => false) 1,.turn 1,
    .prunePools ["p1"],.reap 2,.reconcile "p1" [] probing 3,.turn 0]

theorem lastRequestCounted :
    ∃ s, Runs step succeeds {} serving s ∧ s.requests = [.finished,.started "p1" "a:80"] ∧
      inflight s.registry "p1" "a:80" = some 1 ∧ (s.registry.reapOnce (10 * second)).hasEndpoint "p1" "a:80" = true := by
  have seen : (runAll step succeeds {} serving).map (fun s => (s.requests,inflight s.registry "p1" "a:80",
      s.registry.hasEndpoint "p1" "a:80")) = some ([.finished,.started "p1" "a:80"],some 1,true) := by decide +kernel
  obtain ⟨s,ran,same⟩ := Option.map_eq_some_iff.mp seen
  obtain ⟨requests,one,present⟩ : s.requests = [.finished,.started "p1" "a:80"] ∧ inflight s.registry "p1" "a:80" = some 1 ∧
      s.registry.hasEndpoint "p1" "a:80" = true := by simpa using same
  exact ⟨s,runAllRuns ran,requests,one,(countersMatch (runAllRuns ran)).2 _ _ _ present (by rw [requests]; decide)⟩

theorem recreatedMiscounts :
    (∃ as s, Runs step anyStep {} as s ∧ inflight s.registry "p1" "a:80" = some (-1) ∧ running s.requests "p1" "a:80" = 0) ∧
    ∃ as s now, Runs step anyStep {} as s ∧ s.registry.hasEndpoint "p1" "a:80" = true ∧
      running s.requests "p1" "a:80" = 1 ∧ (s.registry.reapOnce now).hasEndpoint "p1" "a:80" = false := by
  refine ⟨⟨[.reconcile "p1" ["a:80"] probing 0,.pick "p1" [] (fun _ => false) 0,.turn 0,.prunePools [],
      .reconcile "p1" ["a:80"] probing 0,.turn 0],_,runAllRuns rfl,by decide,by decide⟩,
    ⟨[.reconcile "p1" ["a:80"] probing 0,.pick "p1" [] (fun _ => false) 0,.turn 0,.prunePools [],
      .reconcile "p1" ["a:80"] probing 0,.pick "p1" [] (fun _ => false) 0,.turn 1,.turn 0,
      .reconcile "p1" ["b:80"] probing 0],_,10 * second,runAllRuns rfl,by decide,by decide,by decide⟩⟩

end ReverseProxy.InflightCounts
