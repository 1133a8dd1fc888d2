import ReverseProxy.OutlierDetection
import ReverseProxy.Transition

/-! The results of one endpoint against its counters. Beside the endpoint are kept the
failures in a row since the last success or consecutive_fail ejection, and the results
since the window last started or was last reset by an error_rate ejection, the latest
first. -/
namespace ReverseProxy.OutlierCounters
open GoValues OutlierDetection
open OutlierRegistry (EndpointState)
open PolicyBuild (Outlier)
open Transition (Runs)

structure State where
  endpoint : EndpointState
  clock : Int
  streak : Nat := 0
  window : List Bool := []

structure Result where
  success : Bool
  now : Int

def initial (cfg : Outlier) (now : Int) : State := { endpoint := .new cfg, clock := now }

def fails (results : List Bool) : Nat := results.countP (!·)

def errorRateWindow (cfg : Outlier) : Int := if cfg.errorRateWindow ≤ 0 then second else cfg.errorRateWindow

section
variable (cfg : Outlier)

def rotates (e : EndpointState) (now : Int) : Bool := decide (e.windowStart = 0 ∨ errorRateWindow cfg < now - e.windowStart)

def noted (s : State) (r : Result) : List Bool := r.success :: (if rotates cfg s.endpoint r.now then [] else s.window)

def reason (s : State) (r : Result) : Option String := (recordResult s.endpoint cfg r.success r.now).1

def after (s : State) (r : Result) : State where
  endpoint := (recordResult s.endpoint cfg r.success r.now).2
  clock := r.now
  streak := if r.success || decide (reason cfg s r = some "consecutive_fail") then 0 else s.streak + 1
  window := if reason cfg s r = some "error_rate" then [] else noted cfg s r

def step (s : State) (r : Result) : Option State := some (after cfg s r)

/- The clock does not go back and a window has fewer than 2^31 results. -/
structure Regular (s : State) (r : Result) : Prop where
  clock : s.clock ≤ r.now
  few : (noted cfg s r).length < 2^31

structure Contract (s : State) : Prop where
  ordered : s.endpoint.windowFail ≤ s.endpoint.windowReq
  below : s.endpoint.consecutiveFails < cfg.consecutiveFailures
  divides : ∀ r, Regular cfg s r → (counted s.endpoint cfg r.success r.now).windowReq ≠ 0
  streak : ∀ r, Regular cfg s r →
    (reason cfg s r = some "consecutive_fail" ↔ r.success = false ∧ (s.streak : Int) + 1 = cfg.consecutiveFailures)
  rate : ∀ r, Regular cfg s r → reason cfg s r = some "error_rate" →
    cfg.minRequests ≤ (noted cfg s r).length ∧
    cfg.errorRateThresholdPercent * (noted cfg s r).length ≤ 100 * fails (noted cfg s r)

structure Windowed (s : State) : Prop where
  few : s.window.length < 2^31
  requests : s.endpoint.windowReq = s.window.length
  failures : s.endpoint.windowFail = fails s.window

structure Counting (s : State) : Prop extends Windowed s where
  row : s.endpoint.consecutiveFails = s.streak
  short : (s.streak : Int) < cfg.consecutiveFailures

end

section
variable {cfg : Outlier} {s : State} {r : Result}

theorem failsLe (results : List Bool) : fails results ≤ results.length := List.countP_le_length

theorem countedNoted (windowed : Windowed s) (few : (noted cfg s r).length < 2^31) :
    (counted s.endpoint cfg r.success r.now).windowReq = (noted cfg s r).length ∧
    (counted s.endpoint cfg r.success r.now).windowFail = fails (noted cfg s r) := by
  obtain ⟨_,requests,failures⟩ := windowed
  have fewer := failsLe s.window
  unfold noted at few ⊢
  unfold counted rotateWindow
  cases rotated : rotates cfg s.endpoint r.now with
  | true =>
    have due : s.endpoint.windowStart = 0 ∨ errorRateWindow cfg < r.now - s.endpoint.windowStart := of_decide_eq_true rotated
    unfold errorRateWindow at due
    simp only [if_pos due]
    cases r.success <;> exact ⟨rfl,rfl⟩
  | false =>
    have early : ¬(s.endpoint.windowStart = 0 ∨ errorRateWindow cfg < r.now - s.endpoint.windowStart) :=
      of_decide_eq_false rotated
    unfold errorRateWindow at early
    rw [rotated] at few
    simp only [Bool.false_eq_true, if_false, List.length_cons] at few
    simp only [if_neg early, Bool.false_eq_true, if_false, requests, failures, List.length_cons]
    rw [wrap32Same (by omega) (by omega)]
    refine ⟨by omega,?_⟩
    cases success : r.success with
    | true => simp [fails]
    | false =>
      rw [if_neg Bool.false_ne_true, wrap32Same (by omega) (by omega)]
      simp [fails]

theorem rotateConsecutive (e : EndpointState) (cfg : Outlier) (now : Int) :
    (rotateWindow e cfg now).consecutiveFails = e.consecutiveFails := by
  unfold rotateWindow
  generalize (if cfg.errorRateWindow ≤ 0 then second else cfg.errorRateWindow) = window
  dsimp only
  split <;> rfl

theorem countedConsecutive (e : EndpointState) (cfg : Outlier) (success : Bool) (now : Int) :
    (counted e cfg success now).consecutiveFails = if success then 0 else wrap32 (e.consecutiveFails + 1) := by
  unfold counted
  dsimp only
  rw [rotateConsecutive]

theorem reasonStreak (enabled : cfg.enabled = true) : reason cfg s r = some "consecutive_fail" ↔
    streakDue cfg r.success (counted s.endpoint cfg r.success r.now) = true := by
  have recorded := recordRecorded s.endpoint enabled r.success r.now
  unfold reason
  generalize recordResult s.endpoint cfg r.success r.now = answer at recorded
  cases recorded with
  | streak due => exact ⟨fun _ => due,fun _ => rfl⟩
  | rate short due => simp [short]
  | quiet short low => simp [short]

theorem reasonRate (enabled : cfg.enabled = true) (rate : reason cfg s r = some "error_rate") :
    rateDue cfg (counted s.endpoint cfg r.success r.now) = true := by
  have recorded := recordRecorded s.endpoint enabled r.success r.now
  unfold reason at rate
  generalize recordResult s.endpoint cfg r.success r.now = answer at recorded rate
  cases recorded with
  | streak due => simp at rate
  | rate short due => exact due
  | quiet short low => cases rate

theorem initialWindowed (cfg : Outlier) (now : Int) : Windowed (initial cfg now) := by
  unfold initial
  rw [newBlank]
  exact ⟨Nat.two_pow_pos 31,rfl,rfl⟩

theorem stepWindowed (enabled : cfg.enabled = true) (windowed : Windowed s) (regular : Regular cfg s r) :
    Windowed (after cfg s r) := by
  obtain ⟨requests,failures⟩ := countedNoted windowed regular.few
  have recorded := recordRecorded s.endpoint enabled r.success r.now
  unfold after reason
  generalize recordResult s.endpoint cfg r.success r.now = answer at recorded
  cases recorded with
  | streak due => exact ⟨regular.few,requests,failures⟩
  | rate short due => exact ⟨Nat.two_pow_pos 31,rfl,rfl⟩
  | quiet short low => exact ⟨regular.few,requests,failures⟩

theorem stepRow (enabled : cfg.enabled = true) (small : cfg.consecutiveFailures < 2^31)
    (row : s.endpoint.consecutiveFails = s.streak) (short : (s.streak : Int) < cfg.consecutiveFailures) :
    (after cfg s r).endpoint.consecutiveFails = (after cfg s r).streak ∧
    ((after cfg s r).streak : Int) < cfg.consecutiveFailures := by
  have recorded := recordRecorded s.endpoint enabled r.success r.now
  have consecutive := countedConsecutive s.endpoint cfg r.success r.now
  rw [row, wrap32Same (by omega) (by omega)] at consecutive
  unfold after reason
  generalize recordResult s.endpoint cfg r.success r.now = answer at recorded
  have goesOn (low : streakDue cfg r.success (counted s.endpoint cfg r.success r.now) = false) :
      (counted s.endpoint cfg r.success r.now).consecutiveFails = (if r.success then 0 else s.streak + 1 : Nat) ∧
      ((if r.success then 0 else s.streak + 1 : Nat) : Int) < cfg.consecutiveFailures := by
    unfold streakDue at low
    rw [consecutive] at low ⊢
    cases success : r.success with
    | true => exact ⟨rfl,by simp; omega⟩
    | false =>
      rw [success] at low
      simp only [Bool.not_false, Bool.true_and, Bool.false_eq_true, if_false, Bool.and_eq_false_iff, decide_eq_false_iff_not] at low
      simp only [Bool.false_eq_true, if_false]
      omega
  cases recorded with
  | streak due =>
    simp only [decide_true, Bool.or_true, if_true]
    exact ⟨rfl,by omega⟩
  | rate low due =>
    have other : ¬(some "error_rate" = some "consecutive_fail") := by decide
    simp only [decide_eq_false other, Bool.or_false]
    exact goesOn low
  | quiet low _ =>
    simp only [reduceCtorEq, decide_false, Bool.or_false]
    exact goesOn low

theorem stepCounting (enabled : cfg.enabled = true) (small : cfg.consecutiveFailures < 2^31) (counting : Counting cfg s)
    (regular : Regular cfg s r) : Counting cfg (after cfg s r) := by
  obtain ⟨row,short⟩ := stepRow (r := r) enabled small counting.row counting.short
  exact ⟨stepWindowed enabled counting.toWindowed regular,row,short⟩

theorem Windowed.divides (windowed : Windowed s) (regular : Regular cfg s r) :
    (counted s.endpoint cfg r.success r.now).windowReq ≠ 0 := by
  rw [(countedNoted windowed regular.few).1]
  unfold noted
  rw [List.length_cons]
  omega

theorem Windowed.rate (windowed : Windowed s) (enabled : cfg.enabled = true) (regular : Regular cfg s r)
    (rate : reason cfg s r = some "error_rate") : cfg.minRequests ≤ (noted cfg s r).length ∧
    cfg.errorRateThresholdPercent * (noted cfg s r).length ≤ 100 * fails (noted cfg s r) := by
  have due := reasonRate enabled rate
  obtain ⟨requests,failures⟩ := countedNoted windowed regular.few
  unfold rateDue minRequests at due
  rw [requests, failures] at due
  simp only [Bool.and_eq_true, decide_eq_true_eq] at due
  obtain ⟨⟨many,_⟩,high⟩ := due
  have some_ : 0 < ((noted cfg s r).length : Int) := by
    unfold noted
    rw [List.length_cons]
    omega
  refine ⟨?_,?_⟩
  · split at many <;> omega
  · rw [Int.tdiv_eq_ediv_of_nonneg (by omega), Int.le_ediv_iff_mul_le some_] at high
    omega

theorem Counting.contract (counting : Counting cfg s) (enabled : cfg.enabled = true) (small : cfg.consecutiveFailures < 2^31) :
    Contract cfg s where
  ordered := by
    have fewer := failsLe s.window
    rw [counting.requests, counting.failures]
    omega
  below := by
    rw [counting.row]
    exact counting.short
  divides r regular := counting.toWindowed.divides regular
  streak r regular := by
    have row := counting.row
    have short := counting.short
    rw [reasonStreak enabled]
    unfold streakDue
    rw [countedConsecutive, row, wrap32Same (by omega) (by omega)]
    cases r.success with
    | true => simp
    | false =>
      simp only [Bool.not_false, Bool.true_and, Bool.false_eq_true, if_false, Bool.and_eq_true, decide_eq_true_eq, true_and]
      omega
  rate r regular := counting.toWindowed.rate enabled regular

theorem neverDue (wide : 2^31 ≤ cfg.consecutiveFailures) (enabled : cfg.enabled = true) :
    reason cfg s r ≠ some "consecutive_fail" := by
  rw [ne_eq, reasonStreak enabled]
  unfold streakDue
  rw [countedConsecutive]
  have below := wrap32Lt (s.endpoint.consecutiveFails + 1)
  cases r.success with
  | true => simp
  | false =>
    simp only [Bool.not_false, Bool.true_and, Bool.false_eq_true, if_false, Bool.and_eq_true, decide_eq_true_eq]
    omega

def afterWindow (cfg : Outlier) (s : State) : Result := ⟨false,s.clock + errorRateWindow cfg + 1⟩

theorem errorRateWindowPositive (cfg : Outlier) : 0 < errorRateWindow cfg := by
  unfold errorRateWindow
  split
  · decide
  · exact Int.not_le.mp (by assumption)

theorem afterWindowDue (start : s.endpoint.windowStart = 0 ∨ s.endpoint.windowStart = s.clock) :
    s.endpoint.windowStart = 0 ∨ errorRateWindow cfg < (afterWindow cfg s).now - s.endpoint.windowStart := by
  cases start with
  | inl unset => exact .inl unset
  | inr last =>
    refine .inr ?_
    unfold afterWindow
    dsimp only
    omega

theorem afterWindowNoted (start : s.endpoint.windowStart = 0 ∨ s.endpoint.windowStart = s.clock) :
    noted cfg s (afterWindow cfg s) = [false] := by
  unfold noted rotates
  rw [decide_eq_true (afterWindowDue start)]
  rfl

theorem afterWindowRegular (start : s.endpoint.windowStart = 0 ∨ s.endpoint.windowStart = s.clock) :
    Regular cfg s (afterWindow cfg s) where
  clock := by
    have positive := errorRateWindowPositive cfg
    unfold afterWindow
    dsimp only
    omega
  few := by
    rw [afterWindowNoted start]
    decide

theorem afterWindowStart (enabled : cfg.enabled = true)
    (start : s.endpoint.windowStart = 0 ∨ s.endpoint.windowStart = s.clock) :
    (after cfg s (afterWindow cfg s)).endpoint.windowStart = (after cfg s (afterWindow cfg s)).clock := by
  have restarts : (counted s.endpoint cfg false (afterWindow cfg s).now).windowStart = (afterWindow cfg s).now := by
    have due := @afterWindowDue cfg s start
    unfold errorRateWindow at due
    unfold counted rotateWindow
    simp only [if_pos due]
  have recorded := recordRecorded s.endpoint enabled false (afterWindow cfg s).now
  unfold after
  change (recordResult s.endpoint cfg false (afterWindow cfg s).now).2.windowStart = _
  generalize recordResult s.endpoint cfg false (afterWindow cfg s).now = answer at recorded
  cases recorded with
  | streak due => exact restarts
  | rate short due => exact restarts
  | quiet short low => exact restarts

theorem rowOf (wide : 2^31 ≤ cfg.consecutiveFailures) (enabled : cfg.enabled = true) (now : Int) (length : Nat) :
    ∃ results s, Runs (step cfg) (Regular cfg) (initial cfg now) results s ∧ s.streak = length ∧
      (s.endpoint.windowStart = 0 ∨ s.endpoint.windowStart = s.clock) := by
  induction length with
  | zero =>
    refine ⟨[],initial cfg now,.nil _,rfl,.inl ?_⟩
    unfold initial
    rw [newBlank]
  | succ length ih =>
    obtain ⟨results,s,run,row,start⟩ := ih
    have next : Runs (step cfg) (Regular cfg) s [afterWindow cfg s] (after cfg s (afterWindow cfg s)) :=
      .cons (afterWindowRegular start) rfl (.nil _)
    refine ⟨results ++ [afterWindow cfg s],_,run.append next,?_,.inr (afterWindowStart enabled start)⟩
    have quiet := neverDue (s := s) (r := afterWindow cfg s) wide enabled
    unfold after
    rw [decide_eq_false quiet, row]
    rfl

end

theorem countersExact (cfg : Outlier) (enabled : cfg.enabled = true) (positive : 1 ≤ cfg.consecutiveFailures) :
    (∀ now results s, Runs (step cfg) (Regular cfg) (initial cfg now) results s → Contract cfg s) ↔
      cfg.consecutiveFailures < 2^31 := by
  constructor
  · intro contracts
    refine Int.not_le.mp (fun wide => ?_)
    obtain ⟨results,s,run,row,start⟩ := rowOf wide enabled 0 (cfg.consecutiveFailures - 1).toNat
    have due := ((contracts 0 results s run).streak (afterWindow cfg s) (afterWindowRegular start)).mpr ⟨rfl,by omega⟩
    exact neverDue wide enabled due
  · intro small now results s run
    have counting : Counting cfg s := run.preserve (Counting cfg)
      (fun _ _ _ kept regular taken => Option.some.inj taken ▸ stepCounting enabled small kept regular)
      ⟨initialWindowed cfg now,?_,?_⟩
    · exact counting.contract enabled small
    · unfold initial
      rw [newBlank]
      rfl
    · exact positive

def strict : Outlier := ⟨true,2,50,1000,1,10,10,50,false,0,0,0,0,0⟩

theorem strictCounts : strict.consecutiveFailures < 2^31 ∧
    ∀ now results s, Runs (step strict) (Regular strict) (initial strict now) results s → Contract strict s :=
  ⟨by decide,(countersExact strict rfl (by decide)).mpr (by decide)⟩

def patient : Outlier := { strict with consecutiveFailures := 2^31 }

theorem patientNeverEjects : ∃ results s, Runs (step patient) (Regular patient) (initial patient 0) results s ∧
    (s.streak : Int) + 1 = patient.consecutiveFailures ∧ Regular patient s (afterWindow patient s) ∧
    reason patient s (afterWindow patient s) ≠ some "consecutive_fail" := by
  have wide : 2^31 ≤ patient.consecutiveFailures := by decide
  obtain ⟨results,s,run,row,start⟩ := rowOf wide rfl 0 (2^31 - 1)
  refine ⟨results,s,run,?_,afterWindowRegular start,neverDue wide rfl⟩
  rw [row]
  decide

end ReverseProxy.OutlierCounters
