import ReverseProxy.PolicyBuild

/-! Package breaker: one breaker as the state its atomics hold. Allow and Report
are one step each. Counters are int32 and wrap; the probe limit is compared after
its conversion to int32. -/
namespace ReverseProxy.CircuitBreaker
open GoValues
open PolicyBuild (Breaker)

inductive State where
  | closed
  | opened
  | halfOpen
  deriving DecidableEq, Repr

structure Runtime where
  state : State := .closed
  reqCount : Int := 0
  failCount : Int := 0
  windowStart : Int := 0
  openUntil : Int := 0
  probeInFlight : Int := 0
  probeSuccess : Int := 0
  probeFail : Int := 0
  deriving DecidableEq, Repr

namespace Runtime

def new (now : Int) : Runtime := { windowStart := now }

def resetProbes (b : Runtime) : Runtime := { b with probeInFlight := 0, probeSuccess := 0, probeFail := 0 }

def trip (b : Runtime) (cfg : Breaker) (now : Int) : Runtime :=
  let openFor := if cfg.openDuration ≤ 0 then second else cfg.openDuration
  { b with openUntil := wrap64 (now + openFor), state := .opened }

def shut (b : Runtime) (now : Int) : Runtime :=
  resetProbes { b with state := .closed, windowStart := now, reqCount := 0, failCount := 0 }

def rotateWindow (b : Runtime) (cfg : Breaker) (now : Int) : Runtime :=
  let window := if cfg.evaluationWindow ≤ 0 then second else cfg.evaluationWindow
  if b.windowStart = 0 ∨ window < now - b.windowStart then
    { b with windowStart := now, reqCount := 0, failCount := 0 }
  else b

def maybeOpen (b : Runtime) (cfg : Breaker) (now : Int) : Runtime :=
  let minRequests := if cfg.minimumRequests ≤ 0 then 1 else cfg.minimumRequests
  if b.reqCount < minRequests then b
  else if b.reqCount = 0 then b
  else if cfg.failureRateThresholdPercent ≤ 0 then b
  else if cfg.failureRateThresholdPercent ≤ Int.tdiv (b.failCount * 100) b.reqCount then b.trip cfg now
  else b

def maxProbes (cfg : Breaker) : Int := wrap32 (if cfg.halfOpenMaxProbes ≤ 0 then 1 else cfg.halfOpenMaxProbes)

/- A probe over the limit gives its slot straight back. -/
def allowHalfOpen (b : Runtime) (cfg : Breaker) : (State × Bool) × Runtime :=
  let taken := wrap32 (b.probeInFlight + 1)
  if maxProbes cfg < taken then ((.halfOpen,false),b)
  else ((.halfOpen,true),{ b with probeInFlight := taken })

def allow (b : Runtime) (cfg : Breaker) (now : Int) : (State × Bool) × Runtime :=
  if !cfg.enabled then ((.closed,true),b)
  else match b.state with
    | .closed => ((.closed,true),b)
    | .opened =>
      if now < b.openUntil then ((.opened,false),b)
      else allowHalfOpen (resetProbes { b with state := .halfOpen }) cfg
    | .halfOpen => b.allowHalfOpen cfg

def releaseProbe (b : Runtime) : Runtime :=
  if 0 < b.probeInFlight then { b with probeInFlight := b.probeInFlight - 1 } else b

def report (b : Runtime) (cfg : Breaker) (now : Int) (success : Bool) : Runtime :=
  if !cfg.enabled then b
  else match b.state with
    | .closed =>
      let b := b.rotateWindow cfg now
      let b := { b with
        reqCount := wrap32 (b.reqCount + 1)
        failCount := if success then b.failCount else wrap32 (b.failCount + 1) }
      b.maybeOpen cfg now
    | .halfOpen =>
      let b := b.releaseProbe
      if !success then
        let b := { b with probeFail := wrap32 (b.probeFail + 1) }
        b.trip cfg now
      else
        let b := { b with probeSuccess := wrap32 (b.probeSuccess + 1) }
        if b.probeFail = 0 ∧ cfg.halfOpenMaxProbes ≤ b.probeSuccess then b.shut now else b
    | .opened => b

def tallied (b : Runtime) (cfg : Breaker) (now : Int) (success : Bool) : Runtime :=
  let b := b.rotateWindow cfg now
  { b with
    reqCount := wrap32 (b.reqCount + 1)
    failCount := if success then b.failCount else wrap32 (b.failCount + 1) }

def minRequests (cfg : Breaker) : Int := if cfg.minimumRequests ≤ 0 then 1 else cfg.minimumRequests

theorem talliedKeeps (b : Runtime) (cfg : Breaker) (now : Int) (success : Bool) :
    (b.tallied cfg now success).state = b.state ∧ (b.tallied cfg now success).probeInFlight = b.probeInFlight := by
  unfold tallied rotateWindow
  generalize (if cfg.evaluationWindow ≤ 0 then second else cfg.evaluationWindow) = window
  dsimp only
  split <;> exact ⟨rfl,rfl⟩

end Runtime

inductive Allowed (b : Runtime) (cfg : Breaker) (now : Int) : State × Bool → Runtime → Prop where
  | passed (state : b.state = .closed) : Allowed b cfg now (.closed,true) b
  | refused (state : b.state = .opened) (early : now < b.openUntil) : Allowed b cfg now (.opened,false) b
  | entered (state : b.state = .opened) (due : b.openUntil ≤ now) (room : 1 ≤ Runtime.maxProbes cfg) :
      Allowed b cfg now (.halfOpen,true)
        { b with state := .halfOpen, probeInFlight := 1, probeSuccess := 0, probeFail := 0 }
  | enteredFull (state : b.state = .opened) (due : b.openUntil ≤ now) (full : Runtime.maxProbes cfg < 1) :
      Allowed b cfg now (.halfOpen,false)
        { b with state := .halfOpen, probeInFlight := 0, probeSuccess := 0, probeFail := 0 }
  | probed (state : b.state = .halfOpen) (room : wrap32 (b.probeInFlight + 1) ≤ Runtime.maxProbes cfg) :
      Allowed b cfg now (.halfOpen,true) { b with probeInFlight := wrap32 (b.probeInFlight + 1) }
  | held (state : b.state = .halfOpen) (full : Runtime.maxProbes cfg < wrap32 (b.probeInFlight + 1)) :
      Allowed b cfg now (.halfOpen,false) b

theorem allowAllowed (b : Runtime) {cfg : Breaker} (enabled : cfg.enabled = true) (now : Int) :
    Allowed b cfg now (b.allow cfg now).1 (b.allow cfg now).2 := by
  unfold Runtime.allow
  rw [if_neg (by simp [enabled])]
  cases state : b.state with
  | closed => exact .passed state
  | opened =>
    dsimp only
    split
    · exact .refused state (by assumption)
    · rename_i due
      unfold Runtime.allowHalfOpen
      dsimp only
      split
      · exact .enteredFull state (by omega) (by assumption)
      · exact .entered state (by omega) (by rename_i room; exact Int.not_lt.mp room)
  | halfOpen =>
    dsimp only
    unfold Runtime.allowHalfOpen
    dsimp only
    split
    · exact .held state (by assumption)
    · exact .probed state (by omega)

inductive Reported (b : Runtime) (cfg : Breaker) (now : Int) : Bool → Runtime → Prop where
  | ignored {success} (state : b.state = .opened) : Reported b cfg now success b
  | counted {success} (state : b.state = .closed) : Reported b cfg now success (b.tallied cfg now success)
  | tripped {success} (state : b.state = .closed)
      (many : Runtime.minRequests cfg ≤ (b.tallied cfg now success).reqCount)
      (rate : cfg.failureRateThresholdPercent * (b.tallied cfg now success).reqCount ≤ 100 * (b.tallied cfg now success).failCount) :
      Reported b cfg now success ((b.tallied cfg now success).trip cfg now)
  | failed (state : b.state = .halfOpen) :
      Reported b cfg now false (({ b.releaseProbe with probeFail := wrap32 (b.releaseProbe.probeFail + 1) } : Runtime).trip cfg now)
  | succeeded (state : b.state = .halfOpen)
      (few : b.probeFail = 0 → wrap32 (b.probeSuccess + 1) < cfg.halfOpenMaxProbes) :
      Reported b cfg now true { b.releaseProbe with probeSuccess := wrap32 (b.releaseProbe.probeSuccess + 1) }
  | shut (state : b.state = .halfOpen) (enough : cfg.halfOpenMaxProbes ≤ wrap32 (b.releaseProbe.probeSuccess + 1)) :
      Reported b cfg now true (({ b.releaseProbe with probeSuccess := wrap32 (b.releaseProbe.probeSuccess + 1) } : Runtime).shut now)

theorem rateReached {threshold fails requests : Int} (some_ : 0 < requests) (positive : 0 < threshold)
    (reached : threshold ≤ Int.tdiv (fails * 100) requests) : threshold * requests ≤ 100 * fails := by
  have nonneg : 0 ≤ fails * 100 := by
    rcases Int.lt_or_le (fails * 100) 0 with negative | nonneg
    · have mirrored := Int.tdiv_nonneg (a := -(fails * 100)) (by omega) (Int.le_of_lt some_)
      rw [Int.neg_tdiv] at mirrored
      omega
    · exact nonneg
  rw [Int.tdiv_eq_ediv_of_nonneg nonneg] at reached
  have whole := (Int.le_ediv_iff_mul_le some_).mp reached
  omega

theorem maybeOpenCases (b : Runtime) (cfg : Breaker) (now : Int) : b.maybeOpen cfg now = b ∨
    (Runtime.minRequests cfg ≤ b.reqCount ∧ cfg.failureRateThresholdPercent * b.reqCount ≤ 100 * b.failCount ∧
      b.maybeOpen cfg now = b.trip cfg now) := by
  have positive : 1 ≤ Runtime.minRequests cfg := by
    unfold Runtime.minRequests
    split <;> omega
  change (if b.reqCount < Runtime.minRequests cfg then b else _) = b ∨ _ ∧ _ ∧ (if b.reqCount < Runtime.minRequests cfg then b else _) = _
  by_cases few : b.reqCount < Runtime.minRequests cfg
  · exact .inl (if_pos few)
  · rw [if_neg few, if_neg (by omega : ¬b.reqCount = 0)]
    by_cases off : cfg.failureRateThresholdPercent ≤ 0
    · exact .inl (if_pos off)
    · rw [if_neg off]
      by_cases rate : cfg.failureRateThresholdPercent ≤ Int.tdiv (b.failCount * 100) b.reqCount
      · exact .inr ⟨Int.not_lt.mp few,rateReached (by omega) (by omega) rate,if_pos rate⟩
      · exact .inl (if_neg rate)

theorem releaseKeeps (b : Runtime) : b.releaseProbe.state = b.state ∧ b.releaseProbe.probeSuccess = b.probeSuccess ∧
    b.releaseProbe.probeFail = b.probeFail := by
  unfold Runtime.releaseProbe
  split <;> exact ⟨rfl,rfl,rfl⟩

theorem reportReported (b : Runtime) {cfg : Breaker} (enabled : cfg.enabled = true) (now : Int) (success : Bool) :
    Reported b cfg now success (b.report cfg now success) := by
  unfold Runtime.report
  rw [if_neg (by simp [enabled])]
  cases state : b.state with
  | closed =>
    change Reported b cfg now success ((b.tallied cfg now success).maybeOpen cfg now)
    rcases maybeOpenCases (b.tallied cfg now success) cfg now with same | ⟨many,rate,trips⟩
    · rw [same]
      exact .counted state
    · rw [trips]
      exact .tripped state many rate
  | opened => exact .ignored state
  | halfOpen =>
    cases success with
    | false => exact .failed state
    | true =>
      dsimp only
      split
      · cases ‹(!true) = true›
      · split
        · rename_i enough
          exact .shut state enough.2
        · rename_i few
          obtain ⟨-,successes,fails⟩ := releaseKeeps b
          rw [successes,fails] at few
          exact .succeeded state (fun clean => Int.not_le.mp (fun enough => few ⟨clean,enough⟩))

/- A failed probe leaves the half-open state. -/
def Clean (b : Runtime) : Prop := b.state = .halfOpen → b.probeFail = 0

theorem Allowed.clean {b b' : Runtime} {cfg : Breaker} {now : Int} {answer : State × Bool} (allowed : Allowed b cfg now answer b')
    (clean : Clean b) : Clean b' := by
  cases allowed with
  | entered | enteredFull => exact fun _ => rfl
  | probed state room => exact fun _ => clean state
  | _ => exact clean

theorem Reported.clean {b b' : Runtime} {cfg : Breaker} {now : Int} {success : Bool} (reported : Reported b cfg now success b')
    (clean : Clean b) : Clean b' := by
  cases reported with
  | ignored state => exact clean
  | counted state => exact fun half => nomatch state.symm.trans ((b.talliedKeeps cfg now success).1.symm.trans half)
  | succeeded state few => exact fun _ => (releaseKeeps b).2.2.trans (clean state)
  | _ => exact fun half => nomatch half

/- The slot counter never exceeds `owed`, and stays in the int32 range; only the
half-open state reads it. -/
structure Accounted (b : Runtime) (owed : Int) : Prop where
  bound : b.state = .halfOpen → b.probeInFlight ≤ owed
  range : -(2^31) ≤ b.probeInFlight

namespace Accounted
variable {b : Runtime} {cfg : Breaker} {now owed : Int}

theorem fresh (now : Int) : Accounted (Runtime.new now) 0 where
  bound half := nomatch half
  range := by change -(2^31) ≤ (0 : Int); omega

theorem weaken {more : Int} (h : Accounted b owed) (le : owed ≤ more) : Accounted b more :=
  ⟨fun half => Int.le_trans (h.bound half) le,h.range⟩

theorem allowed {answer : State × Bool} {b' : Runtime} (h : Accounted b owed) (positive : 0 ≤ owed)
    (allowed : Allowed b cfg now answer b') : Accounted b' (if answer = (.halfOpen,true) then owed + 1 else owed) := by
  have range := h.range
  cases allowed with
  | passed state => exact h
  | refused state early => exact h
  | entered state due room => exact ⟨fun _ => by simp only [if_true]; omega,by dsimp only; omega⟩
  | enteredFull state due full => exact ⟨fun _ => positive,by dsimp only; omega⟩
  | probed state room =>
    have bound := h.bound state
    have le := wrap32Le (n := b.probeInFlight + 1) (by omega)
    exact ⟨fun _ => by simp only [if_true]; omega,wrap32Range _⟩
  | held state full => exact h

theorem allow (h : Accounted b owed) (positive : 0 ≤ owed) :
    Accounted (b.allow cfg now).2
      (if (b.allow cfg now).1 = (.halfOpen,true) then owed + 1 else owed) := by
  cases enabled : cfg.enabled with
  | true => exact h.allowed positive (allowAllowed b enabled now)
  | false =>
    unfold Runtime.allow
    rw [if_pos (by simp [enabled])]
    exact h

theorem releaseProbe (h : Accounted b owed) (half : b.state = .halfOpen) :
    b.releaseProbe.probeInFlight ≤ max 0 (owed - 1) ∧ -(2^31) ≤ b.releaseProbe.probeInFlight := by
  have bound := h.bound half
  have range := h.range
  unfold Runtime.releaseProbe
  split
  · dsimp only
    omega
  · omega

/- A report takes a slot back where it can, so it settles one debt. Outside the
half-open state nothing is taken back, and that state is entered by a reset. -/
theorem reported {success : Bool} {b' : Runtime} (h : Accounted b owed) (reported : Reported b cfg now success b') :
    Accounted b' (max 0 (owed - 1)) := by
  have range := h.range
  cases reported with
  | ignored state => exact ⟨fun half => (nomatch state.symm.trans half),range⟩
  | counted state =>
    obtain ⟨still,slots⟩ := b.talliedKeeps cfg now success
    exact ⟨fun half => (nomatch (still.trans state).symm.trans half),by rw [slots]; exact range⟩
  | tripped state many rate =>
    obtain ⟨-,slots⟩ := b.talliedKeeps cfg now success
    exact ⟨fun half => (nomatch half),slots ▸ range⟩
  | failed state => exact ⟨fun half => (nomatch half),(h.releaseProbe state).2⟩
  | succeeded state =>
    obtain ⟨released,low⟩ := h.releaseProbe state
    exact ⟨fun _ => released,low⟩
  | shut state enough =>
    refine ⟨fun half => (nomatch half),?_⟩
    change -(2^31) ≤ (0 : Int)
    omega

theorem report (h : Accounted b owed) (success : Bool) (enabled : cfg.enabled = true) :
    Accounted (b.report cfg now success) (max 0 (owed - 1)) := h.reported (reportReported b enabled now success)

theorem idleAllows (h : Accounted b 0) (half : b.state = .halfOpen) (room : 1 ≤ Runtime.maxProbes cfg) :
    (b.allow cfg now).1.2 = true := by
  have bound := h.bound half
  have range := h.range
  have le := wrap32Le (n := b.probeInFlight + 1) (by omega)
  unfold Runtime.allow
  split
  · rfl
  · rw [half]
    unfold Runtime.allowHalfOpen
    dsimp only
    rw [if_neg (by omega)]

end Accounted
end ReverseProxy.CircuitBreaker
