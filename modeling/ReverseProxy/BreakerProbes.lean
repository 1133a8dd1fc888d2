import ReverseProxy.CircuitBreaker
import ReverseProxy.Crew
import ReverseProxy.Transition

/-! Half-open probes and who reports. A request that Allow let in reports as often as it
tries an upstream, and a report does not say whose it is: in the half-open state each
takes a slot back. `phase` and what is kept of a request are for the statements. -/
namespace ReverseProxy.BreakerProbes
open GoValues CircuitBreaker
open PolicyBuild (Breaker)
open Transition (Runs anyStep runAll runAllRuns)

/- `probe` is the half-open phase in which the request was let in as a probe. -/
structure Admitted where
  probe : Option Nat
  reported : Bool := false
  deriving DecidableEq, Repr

/- `phase` counts how often half-open was entered. -/
structure State where
  breaker : Runtime
  phase : Nat := 0
  requests : List Admitted := []

inductive Action where
  | allow (now : Int)
  | report (i : Nat) (success : Bool) (now : Int)

def initial (now : Int) : State := { breaker := .new now }

def phaseAfter (s : State) (after : Runtime) : Nat :=
  if s.breaker.state = .opened ∧ after.state = .halfOpen then s.phase + 1 else s.phase

def admitted (phase : Nat) (requests : List Admitted) : CircuitBreaker.State × Bool → List Admitted
  | (_,false) => requests
  | (.halfOpen,true) => requests ++ [⟨some phase,false⟩]
  | (_,true) => requests ++ [⟨none,false⟩]

theorem phaseStays {s : State} (elsewhere : s.breaker.state ≠ .opened) (after : Runtime) : phaseAfter s after = s.phase :=
  if_neg (fun entered => elsewhere entered.1)

section
variable (cfg : Breaker)

def allow (s : State) (now : Int) : State :=
  let answer := s.breaker.allow cfg now
  let phase := phaseAfter s answer.2
  ⟨answer.2,phase,admitted phase s.requests answer.1⟩

def step (s : State) : Action → Option State
  | .allow now => some (allow cfg s now)
  | .report i success now => s.requests[i]?.map (fun r =>
      ⟨s.breaker.report cfg now success,s.phase,s.requests.set i { r with reported := true }⟩)

end

def waiting (phase : Nat) (r : Admitted) : Bool := decide (r.probe = some phase) && !r.reported

def pending (s : State) : Nat := s.requests.countP (waiting s.phase)

/- Success by success the count nears HalfOpenMaxProbes; the one that reaches it closes the
breaker, and a failure opens it. -/
def Matched (cfg : Breaker) (s : State) : Action → Prop
  | .allow _ => s.breaker.state = .halfOpen → pending s < 2^31 - 1
  | .report i success _ => s.breaker.state = .halfOpen → success = true →
      wrap32 (s.breaker.probeSuccess + 1) < cfg.halfOpenMaxProbes → (s.requests[i]?.any (waiting s.phase)) = true

instance (cfg : Breaker) (s : State) : (a : Action) → Decidable (Matched cfg s a)
  | .allow _ => inferInstanceAs (Decidable (_ → _))
  | .report _ _ _ => inferInstanceAs (Decidable (_ → _ → _ → _))

structure Slotted (cfg : Breaker) (s : State) : Prop where
  slots : s.breaker.state = .halfOpen → s.breaker.probeInFlight = pending s
  bound : s.breaker.state = .halfOpen → (pending s : Int) ≤ max 1 cfg.halfOpenMaxProbes
  past : ∀ r ∈ s.requests, ∀ n, r.probe = some n → n ≤ s.phase

theorem initialSlotted (cfg : Breaker) (now : Int) : Slotted cfg (initial now) where
  slots half := nomatch half
  bound half := nomatch half
  past _ inside := nomatch inside

theorem maxProbesLe (cfg : Breaker) : Runtime.maxProbes cfg ≤ max 1 cfg.halfOpenMaxProbes := by
  unfold Runtime.maxProbes
  split
  · have le := wrap32Le (n := 1) (by omega)
    omega
  · have le := wrap32Le (n := cfg.halfOpenMaxProbes) (by omega)
    omega

theorem noneWaiting {requests : List Admitted} {phase : Nat} (past : ∀ r ∈ requests, ∀ n, r.probe = some n → n ≤ phase) :
    requests.countP (waiting (phase + 1)) = 0 := by
  rw [List.countP_eq_zero]
  intro r inside
  simp only [waiting, Bool.and_eq_true, decide_eq_true_eq, not_and]
  intro later
  have bound := past r inside _ later
  omega

section
variable {cfg : Breaker} {s : State} (slotted : Slotted cfg s)

include slotted

theorem pastJoin {phase : Nat} {new : Admitted} (later : s.phase ≤ phase) (own : ∀ n, new.probe = some n → n ≤ phase) :
    ∀ r ∈ s.requests ++ [new], ∀ n, r.probe = some n → n ≤ phase := by
  intro r inside n probe
  rcases List.mem_append.mp inside with old | fresh
  · exact Nat.le_trans (slotted.past r old n probe) later
  · rw [List.mem_singleton.mp fresh] at probe
    exact own n probe

theorem enteredSlotted {b : Runtime} (one : b.probeInFlight = 1) :
    Slotted cfg ⟨b,s.phase + 1,s.requests ++ [⟨some (s.phase + 1),false⟩]⟩ := by
  have only : pending ⟨b,s.phase + 1,s.requests ++ [⟨some (s.phase + 1),false⟩]⟩ = 1 := by
    unfold pending
    rw [Crew.countJoin, noneWaiting slotted.past]
    simp [waiting]
  refine ⟨fun _ => by rw [only]; exact one,fun _ => by rw [only]; omega,?_⟩
  exact pastJoin slotted (Nat.le_succ _) (fun n probe => by cases probe; exact Nat.le_refl _)

theorem enteredFullSlotted {b : Runtime} (none_ : b.probeInFlight = 0) : Slotted cfg ⟨b,s.phase + 1,s.requests⟩ := by
  have empty : pending ⟨b,s.phase + 1,s.requests⟩ = 0 := noneWaiting slotted.past
  refine ⟨fun _ => by rw [empty]; exact none_,fun _ => by rw [empty]; omega,?_⟩
  exact fun r inside n probe => Nat.le_succ_of_le (slotted.past r inside n probe)

theorem probedSlotted (half : s.breaker.state = .halfOpen) (roomy : pending s < 2^31 - 1)
    (room : wrap32 (s.breaker.probeInFlight + 1) ≤ Runtime.maxProbes cfg) {b : Runtime}
    (taken : b.probeInFlight = wrap32 (s.breaker.probeInFlight + 1)) :
    Slotted cfg ⟨b,s.phase,s.requests ++ [⟨some s.phase,false⟩]⟩ := by
  have more : pending ⟨b,s.phase,s.requests ++ [⟨some s.phase,false⟩]⟩ = pending s + 1 := by
    unfold pending
    rw [Crew.countJoin]
    simp [waiting]
  rw [slotted.slots half, wrap32Same (by omega) (by omega)] at room taken
  have le := maxProbesLe cfg
  refine ⟨fun _ => by rw [more]; exact taken,fun _ => by rw [more]; omega,?_⟩
  exact pastJoin slotted (Nat.le_refl _) (fun n probe => by cases probe; exact Nat.le_refl _)

theorem allowSlotted (enabled : cfg.enabled = true) {now : Int} (matched : Matched cfg s (.allow now)) :
    Slotted cfg (allow cfg s now) := by
  have allowed := allowAllowed s.breaker enabled now
  unfold allow
  generalize s.breaker.allow cfg now = answer at allowed
  obtain ⟨verdict,b⟩ := answer
  dsimp only at allowed ⊢
  cases allowed with
  | passed state =>
    refine ⟨fun half => (nomatch state.symm.trans half),fun half => (nomatch state.symm.trans half),?_⟩
    rw [phaseStays (by rw [state]; decide)]
    exact pastJoin slotted (Nat.le_refl _) (fun n probe => nomatch probe)
  | refused state early =>
    refine ⟨fun half => (nomatch state.symm.trans half),fun half => (nomatch state.symm.trans half),?_⟩
    simp only [phaseAfter, state, reduceCtorEq, and_false, if_false]
    exact slotted.past
  | entered state due room =>
    simp only [phaseAfter, state, and_self, if_true]
    exact enteredSlotted slotted rfl
  | enteredFull state due full =>
    simp only [phaseAfter, state, and_self, if_true]
    exact enteredFullSlotted slotted rfl
  | probed state room =>
    rw [phaseStays (by rw [state]; decide)]
    exact probedSlotted slotted state (matched state) room rfl
  | held state full =>
    rw [phaseStays (by rw [state]; decide)]
    exact ⟨slotted.slots,slotted.bound,slotted.past⟩

theorem pastReport {i : Nat} {r : Admitted} (found : s.requests[i]? = some r) :
    ∀ q ∈ s.requests.set i { r with reported := true }, ∀ n, q.probe = some n → n ≤ s.phase := by
  intro q inside n probe
  rcases List.mem_or_eq_of_mem_set inside with old | rfl
  · exact slotted.past q old n probe
  · exact slotted.past r (Crew.member found) n probe

theorem probeReported {i : Nat} {r : Admitted} (found : s.requests[i]? = some r) (waits : waiting s.phase r = true)
    (half : s.breaker.state = .halfOpen) {b : Runtime} (slots : b.probeInFlight = s.breaker.releaseProbe.probeInFlight) :
    Slotted cfg ⟨b,s.phase,s.requests.set i { r with reported := true }⟩ := by
  have fewer := Crew.countMove (waiting s.phase) found { r with reported := true }
  rw [waits] at fewer
  have answered : waiting s.phase { r with reported := true } = false := by simp [waiting]
  rw [answered] at fewer
  simp only [Bool.toNat_true, Bool.toNat_false, Nat.add_zero] at fewer
  have counted := slotted.slots half
  have bound := slotted.bound half
  unfold pending at counted bound
  have released : s.breaker.releaseProbe.probeInFlight = s.breaker.probeInFlight - 1 := by
    unfold Runtime.releaseProbe
    rw [if_pos (by omega)]
  refine ⟨fun _ => ?_,fun _ => ?_,pastReport slotted found⟩
  · change b.probeInFlight = ((s.requests.set i { r with reported := true }).countP (waiting s.phase) : Int)
    omega
  · change ((s.requests.set i { r with reported := true }).countP (waiting s.phase) : Int) ≤ _
    omega

theorem reportSlotted (enabled : cfg.enabled = true) (clean : Clean s.breaker) {i : Nat} {success : Bool} {now : Int} {r : Admitted}
    (matched : Matched cfg s (.report i success now)) (found : s.requests[i]? = some r) :
    Slotted cfg ⟨s.breaker.report cfg now success,s.phase,s.requests.set i { r with reported := true }⟩ := by
  have reported := reportReported s.breaker enabled now success
  have past := pastReport slotted found
  generalize s.breaker.report cfg now success = b at reported
  have elsewhere (left : b.state ≠ .halfOpen) :
      Slotted cfg ⟨b,s.phase,s.requests.set i { r with reported := true }⟩ :=
    ⟨fun half => absurd half left,fun half => absurd half left,past⟩
  cases reported with
  | ignored state => exact elsewhere (by rw [state]; decide)
  | counted state => exact elsewhere (by rw [(s.breaker.talliedKeeps cfg now success).1, state]; decide)
  | tripped state many rate => exact elsewhere (by change CircuitBreaker.State.opened ≠ .halfOpen; decide)
  | failed state => exact elsewhere (by change CircuitBreaker.State.opened ≠ .halfOpen; decide)
  | shut state enough => exact elsewhere (by change CircuitBreaker.State.closed ≠ .halfOpen; decide)
  | succeeded state few =>
    have waits := matched state rfl (few (clean state))
    rw [found] at waits
    exact probeReported slotted found waits state rfl

theorem stepSlotted (enabled : cfg.enabled = true) (clean : Clean s.breaker) {a : Action} (matched : Matched cfg s a) {t : State}
    (taken : step cfg s a = some t) : Slotted cfg t := by
  cases a with
  | allow now =>
    cases Option.some.inj taken
    exact allowSlotted slotted enabled matched
  | report i success now =>
    obtain ⟨r,found,rfl⟩ := Option.map_eq_some_iff.mp taken
    exact reportSlotted slotted enabled clean matched found

end

theorem stepClean {cfg : Breaker} (enabled : cfg.enabled = true) {s t : State} {a : Action} (clean : Clean s.breaker)
    (taken : step cfg s a = some t) : Clean t.breaker := by
  cases a with
  | allow now =>
    cases Option.some.inj taken
    exact (allowAllowed s.breaker enabled now).clean clean
  | report i success now =>
    obtain ⟨r,found,rfl⟩ := Option.map_eq_some_iff.mp taken
    exact (reportReported s.breaker enabled now success).clean clean

theorem probesBounded {cfg : Breaker} (enabled : cfg.enabled = true) {now : Int} {as : List Action} {s : State}
    (run : Runs (step cfg) (Matched cfg) (initial now) as s) (half : s.breaker.state = .halfOpen) :
    (pending s : Int) ≤ max 1 cfg.halfOpenMaxProbes := by
  have both : Slotted cfg s ∧ Clean s.breaker := run.preserve (fun s => Slotted cfg s ∧ Clean s.breaker)
    (fun _ _ _ ⟨slotted,clean⟩ matched taken => ⟨stepSlotted slotted enabled clean matched taken,stepClean enabled clean taken⟩)
    ⟨initialSlotted cfg now,fun half => nomatch half⟩
  exact both.1.bound half

def twoProbes : Breaker := ⟨true,50,1,1000,10,2⟩

def orderly : List Action :=
  [.allow 1,.report 0 false 2,.allow 12,.allow 12,.allow 13,.report 1 true 14,.allow 15]

theorem orderlyProbes : ∃ s, Runs (step twoProbes) (Matched twoProbes) (initial 1) orderly s ∧
    s.breaker.state = .halfOpen ∧ pending s = 2 ∧ (pending s : Int) ≤ max 1 twoProbes.halfOpenMaxProbes := by
  have run : Runs (step twoProbes) (Matched twoProbes) (initial 1) orderly _ := runAllRuns rfl
  exact ⟨_,run,rfl,rfl,probesBounded rfl run rfl⟩

def lateReport : List Action :=
  [.allow 1,.allow 1,.report 1 false 2,.allow 12,.allow 12,.report 0 true 13,.allow 14]

theorem lateReportFreesProbe : ∃ s, Runs (step twoProbes) anyStep (initial 1) lateReport s ∧
    s.breaker.state = .halfOpen ∧ max 1 twoProbes.halfOpenMaxProbes < pending s :=
  ⟨_,runAllRuns rfl,rfl,by decide⟩

end ReverseProxy.BreakerProbes
