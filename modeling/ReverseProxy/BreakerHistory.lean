import ReverseProxy.CircuitBreaker
import ReverseProxy.Transition

/-! One breaker over a whole run, with one configuration and a clock that does not go
back. Beside the breaker a journal is kept: the reports since it was last closed, those
of the current window, those since half-open was entered, and when it last opened. The
counters are what the journal says, and each change of state has its reason there. -/
namespace ReverseProxy.BreakerHistory
open GoValues CircuitBreaker
open PolicyBuild (Breaker)
open Transition (Runs runAll runAllRuns)

structure State where
  breaker : Runtime
  clock : Int
  era : List (Int × Bool) := []
  window : List (Int × Bool) := []
  probes : List Bool := []
  openedAt : Option Int := none

inductive Action where
  | allow (now : Int)
  | report (success : Bool) (now : Int)

def Action.now : Action → Int
  | .allow now => now
  | .report _ now => now

def initial (now : Int) : State := { breaker := .new now, clock := now }

def evaluationWindow (cfg : Breaker) : Int := if cfg.evaluationWindow ≤ 0 then second else cfg.evaluationWindow

theorem windowPositive (cfg : Breaker) : 0 < evaluationWindow cfg := by
  unfold evaluationWindow
  split
  · decide
  · exact Int.not_le.mp (by assumption)

/- A report in the closed state stores windowStart. -/
def rotates (b : Runtime) (cfg : Breaker) (now : Int) : Bool :=
  decide (b.windowStart = 0 ∨ evaluationWindow cfg < now - b.windowStart)

def fails (reports : List (Int × Bool)) : Nat := reports.countP (fun r => !r.2)

section
variable (cfg : Breaker)

def allow (s : State) (now : Int) : State :=
  { s with
    breaker := (s.breaker.allow cfg now).2
    clock := now
    probes := if s.breaker.state = .opened then [] else s.probes }

def noted (s : State) (success : Bool) (now : Int) : State :=
  match s.breaker.state with
  | .opened => s
  | .closed => { s with
      era := (now,success) :: s.era
      window := (now,success) :: (if rotates s.breaker cfg now then [] else s.window) }
  | .halfOpen => { s with probes := success :: s.probes }

def report (s : State) (success : Bool) (now : Int) : State :=
  let after := s.breaker.report cfg now success
  let s' := noted cfg s success now
  { s' with
    breaker := after
    clock := now
    era := if s.breaker.state = .halfOpen ∧ after.state = .closed then [] else s'.era
    window := if s.breaker.state = .halfOpen ∧ after.state = .closed then [] else s'.window
    openedAt := if s.breaker.state ≠ .opened ∧ after.state = .opened then some now else s.openedAt }

def after (s : State) : Action → State
  | .allow now => allow cfg s now
  | .report success now => report cfg s success now

def step (s : State) (a : Action) : Option State := some (after cfg s a)

/- The clock does not go back and a window has fewer than 2^31 reports; where the
breaker opens, the end of the open time is an int64. -/
structure Regular (s : State) (a : Action) : Prop where
  clock : s.clock ≤ a.now
  few : (after cfg s a).window.length < 2^31
  fits : s.breaker.state ≠ .opened → (after cfg s a).breaker.state = .opened →
    -(2^63) ≤ a.now + cfg.openDuration ∧ a.now + cfg.openDuration < 2^63

instance (s : State) (a : Action) : Decidable (Regular cfg s a) :=
  decidable_of_iff (s.clock ≤ a.now ∧ (after cfg s a).window.length < 2^31 ∧ (s.breaker.state ≠ .opened →
      (after cfg s a).breaker.state = .opened → -(2^63) ≤ a.now + cfg.openDuration ∧ a.now + cfg.openDuration < 2^63))
    ⟨fun ⟨clock,few,fits⟩ => ⟨clock,few,fits⟩,fun ⟨clock,few,fits⟩ => ⟨clock,few,fits⟩⟩

structure Positive : Prop where
  enabled : cfg.enabled = true
  threshold : 0 < cfg.failureRateThresholdPercent
  requests : 0 < cfg.minimumRequests
  window : 0 < cfg.evaluationWindow
  openFor : 0 < cfg.openDuration
  probes : 0 < cfg.halfOpenMaxProbes

structure Windowed (s : State) : Prop where
  started : s.breaker.windowStart ≤ s.clock
  split : ∃ older, s.era = s.window ++ older ∧
    ∀ r ∈ older, r.1 ≤ s.breaker.windowStart ∧ (s.breaker.windowStart ≠ 0 → r.1 < s.breaker.windowStart)
  inside : ∀ r ∈ s.window, s.breaker.windowStart ≤ r.1 ∧ r.1 ≤ s.breaker.windowStart + evaluationWindow cfg ∧
    (s.breaker.windowStart = 0 → r.1 = 0)

structure Counted (s : State) : Prop extends Windowed cfg s where
  few : s.window.length < 2^31
  requests : s.breaker.reqCount = s.window.length
  failures : s.breaker.failCount = fails s.window

structure Probing (b : Runtime) (probes : List Bool) : Prop where
  spotless : ∀ r ∈ probes, r = true
  range : -(2^31) ≤ b.probeSuccess
  successes : b.probeSuccess ≤ probes.length

structure Blocking (s : State) : Prop where
  opening : ∃ t, s.openedAt = some t ∧ t ≤ s.clock ∧ s.breaker.openUntil = t + cfg.openDuration

structure Faithful (s : State) : Prop where
  closed : s.breaker.state = .closed → Counted cfg s
  halfOpen : s.breaker.state = .halfOpen → Probing s.breaker s.probes
  opened : s.breaker.state = .opened → Blocking cfg s
  recent : ∀ t, s.openedAt = some t → s.clock < t + cfg.openDuration → s.breaker.state = .opened

end

section
variable {cfg : Breaker} {s : State}

theorem countedEmpty (start : s.breaker.windowStart = s.clock) (requests : s.breaker.reqCount = 0)
    (failures : s.breaker.failCount = 0) (era : s.era = []) (window : s.window = []) : Counted cfg s where
  started := Int.le_of_eq start
  split := ⟨[],by rw [era,window]; rfl,fun _ inside => nomatch inside⟩
  inside r member := by
    rw [window] at member
    cases member
  few := by rw [window]; exact Nat.two_pow_pos 31
  requests := by rw [requests,window]; rfl
  failures := by rw [failures,window]; rfl

theorem Blocking.faithful (blocking : Blocking cfg s) (state : s.breaker.state = .opened) : Faithful cfg s where
  closed shut := nomatch state.symm.trans shut
  halfOpen half := nomatch state.symm.trans half
  opened _ := blocking
  recent _ _ _ := state

theorem Blocking.wait (blocking : Blocking cfg s) {now : Int} (later : s.clock ≤ now) (probes : List Bool) :
    Blocking cfg { s with clock := now, probes := probes } := by
  obtain ⟨t,opening,before,until_⟩ := blocking.opening
  exact ⟨t,opening,Int.le_trans before later,until_⟩

theorem initialFaithful (cfg : Breaker) (now : Int) : Faithful cfg (initial now) where
  closed _ := countedEmpty rfl rfl rfl rfl rfl
  halfOpen half := nomatch half
  opened open_ := nomatch open_
  recent _ opening := nomatch opening

theorem talliedRotated {b : Runtime} {now : Int} (rotated : rotates b cfg now = true) (success : Bool) :
    b.tallied cfg now success = { b with windowStart := now, reqCount := 1, failCount := if success then 0 else 1 } := by
  have due : b.windowStart = 0 ∨ (if cfg.evaluationWindow ≤ 0 then second else cfg.evaluationWindow) < now - b.windowStart :=
    of_decide_eq_true rotated
  unfold Runtime.tallied Runtime.rotateWindow
  simp only [if_pos due]
  cases success <;> rfl

theorem talliedKept {b : Runtime} {now : Int} (kept : rotates b cfg now = false) (success : Bool) :
    b.tallied cfg now success = { b with
      reqCount := wrap32 (b.reqCount + 1), failCount := if success then b.failCount else wrap32 (b.failCount + 1) } := by
  have early : ¬(b.windowStart = 0 ∨ (if cfg.evaluationWindow ≤ 0 then second else cfg.evaluationWindow) < now - b.windowStart) :=
    of_decide_eq_false kept
  unfold Runtime.tallied Runtime.rotateWindow
  simp only [if_neg early]

theorem Counted.rotate (counted : Counted cfg s) {now : Int} (later : s.clock ≤ now)
    (rotated : rotates s.breaker cfg now = true) (success : Bool) {t : State}
    (breaker : t.breaker = s.breaker.tallied cfg now success) (clock : t.clock = now) (era : t.era = (now,success) :: s.era)
    (window : t.window = [(now,success)]) : Counted cfg t := by
  rw [talliedRotated rotated] at breaker
  have due : s.breaker.windowStart = 0 ∨ evaluationWindow cfg < now - s.breaker.windowStart := of_decide_eq_true rotated
  have positive := windowPositive cfg
  have started := counted.started
  have start : t.breaker.windowStart = now := by rw [breaker]
  refine ⟨⟨Int.le_of_eq (start.trans clock.symm),?_,?_⟩,by rw [window]; exact Nat.one_lt_two_pow (by decide),by rw [breaker,window]; rfl,?_⟩
  · obtain ⟨older,whole,before⟩ := counted.split
    refine ⟨s.era,by rw [era,window]; rfl,?_⟩
    rw [whole, start]
    intro r member
    rcases List.mem_append.mp member with own | old
    · obtain ⟨low,high,zero⟩ := counted.inside r own
      rcases due with none | far
      · have same := zero none
        omega
      · omega
    · obtain ⟨low,strict⟩ := before r old
      omega
  · rw [start, window]
    intro r member
    rw [List.mem_singleton.mp member]
    dsimp only
    omega
  · rw [breaker, window]
    cases success <;> rfl

theorem Counted.keep (counted : Counted cfg s) {now : Int} (later : s.clock ≤ now)
    (kept : rotates s.breaker cfg now = false) (success : Bool) {t : State}
    (breaker : t.breaker = s.breaker.tallied cfg now success) (clock : t.clock = now) (era : t.era = (now,success) :: s.era)
    (window : t.window = (now,success) :: s.window) (few : t.window.length < 2^31) : Counted cfg t := by
  rw [talliedKept kept] at breaker
  have early : ¬(s.breaker.windowStart = 0 ∨ evaluationWindow cfg < now - s.breaker.windowStart) := of_decide_eq_false kept
  have started := counted.started
  have start : t.breaker.windowStart = s.breaker.windowStart := by rw [breaker]
  have requests := counted.requests
  have failures := counted.failures
  have fewer : fails s.window ≤ s.window.length := List.countP_le_length
  have longer : t.window.length = s.window.length + 1 := by rw [window]; rfl
  refine ⟨⟨by rw [start,clock]; omega,?_,?_⟩,few,?_,?_⟩
  · obtain ⟨older,whole,before⟩ := counted.split
    exact ⟨older,by rw [era,window,whole]; rfl,by rw [start]; exact before⟩
  · rw [start, window]
    intro r member
    rcases List.mem_cons.mp member with rfl | old
    · dsimp only
      omega
    · exact counted.inside r old
  · rw [longer, breaker]
    dsimp only
    rw [wrap32Same (by omega) (by omega)]
    omega
  · rw [breaker, window]
    dsimp only
    cases success with
    | true => rw [if_pos rfl, failures]; rfl
    | false =>
      rw [if_neg Bool.false_ne_true, wrap32Same (by omega) (by omega), failures]
      simp [fails]

theorem Faithful.elapsed (faithful : Faithful cfg s) (elsewhere : s.breaker.state ≠ .opened) {t : Int}
    (opening : s.openedAt = some t) : t + cfg.openDuration ≤ s.clock :=
  Int.not_lt.mp (fun early => elsewhere (faithful.recent t opening early))

theorem Counted.wait (counted : Counted cfg s) {t : State} (breaker : t.breaker = s.breaker) (later : s.clock ≤ t.clock)
    (era : t.era = s.era) (window : t.window = s.window) : Counted cfg t := by
  obtain ⟨⟨started,split,inside⟩,few,requests,failures⟩ := counted
  rw [← breaker] at started split inside requests failures
  rw [← window] at split inside few requests failures
  rw [← era] at split
  exact ⟨⟨Int.le_trans started later,split,inside⟩,few,requests,failures⟩

theorem Faithful.enter (faithful : Faithful cfg s) (state : s.breaker.state = .opened) {now : Int} (due : s.breaker.openUntil ≤ now)
    {b : Runtime} (half : b.state = .halfOpen) (none_ : b.probeSuccess = 0) :
    Faithful cfg { s with breaker := b, clock := now, probes := [] } := by
  obtain ⟨t,opening,before,until_⟩ := (faithful.opened state).opening
  refine ⟨fun shut => (nomatch half.symm.trans shut),fun _ => ⟨fun _ inside => (nomatch inside),?_,?_⟩,
    fun open_ => (nomatch half.symm.trans open_),?_⟩
  · dsimp only
    omega
  · exact Int.le_of_eq none_
  · intro t' opening' early
    cases Option.some.inj (opening.symm.trans opening')
    dsimp only at early
    omega

theorem Faithful.probe (faithful : Faithful cfg s) (state : s.breaker.state = .halfOpen) {now : Int} (later : s.clock ≤ now)
    {b : Runtime} {probes : List Bool} (probing : Probing b probes) (half : b.state = .halfOpen) :
    Faithful cfg { s with breaker := b, clock := now, probes := probes } := by
  refine ⟨fun shut => (nomatch half.symm.trans shut),fun _ => probing,fun open_ => (nomatch half.symm.trans open_),?_⟩
  intro t opening early
  have used := faithful.elapsed (by rw [state]; decide) opening
  dsimp only at early
  omega

theorem allowFaithful (positive : Positive cfg) (faithful : Faithful cfg s) {now : Int} (later : s.clock ≤ now) :
    Faithful cfg (allow cfg s now) := by
  have allowed := allowAllowed s.breaker positive.enabled now
  unfold allow
  generalize s.breaker.allow cfg now = answer at allowed
  obtain ⟨verdict,b⟩ := answer
  dsimp only at allowed ⊢
  cases allowed with
  | passed state =>
    have elsewhere : s.breaker.state ≠ .opened := by rw [state]; decide
    rw [if_neg elsewhere]
    refine ⟨fun _ => (faithful.closed state).wait rfl later rfl rfl,fun half => (nomatch state.symm.trans half),
      fun open_ => absurd open_ elsewhere,?_⟩
    intro t opening early
    have used := faithful.elapsed elsewhere opening
    dsimp only at early
    omega
  | refused state early =>
    exact ((faithful.opened state).wait later _).faithful state
  | entered state due room =>
    rw [if_pos state]
    exact faithful.enter state due rfl rfl
  | enteredFull state due full =>
    rw [if_pos state]
    exact faithful.enter state due rfl rfl
  | probed state room =>
    rw [if_neg (by rw [state]; decide)]
    obtain ⟨spotless,range,successes⟩ := faithful.halfOpen state
    have probing : Probing { s.breaker with probeInFlight := wrap32 (s.breaker.probeInFlight + 1) } s.probes :=
      ⟨spotless,range,successes⟩
    exact faithful.probe state later probing state
  | held state full =>
    rw [if_neg (by rw [state]; decide)]
    exact faithful.probe state later (faithful.halfOpen state) state

theorem openFaithful (positive : Positive cfg) {now : Int}
    (fits : -(2^63) ≤ now + cfg.openDuration ∧ now + cfg.openDuration < 2^63) {b : Runtime} {t : State}
    (breaker : t.breaker = b.trip cfg now) (clock : t.clock = now) (opening : t.openedAt = some now) : Faithful cfg t := by
  have openFor : (if cfg.openDuration ≤ 0 then second else cfg.openDuration) = cfg.openDuration :=
    if_neg (Int.not_le.mpr positive.openFor)
  have until_ : t.breaker.openUntil = now + cfg.openDuration := by
    rw [breaker]
    unfold Runtime.trip
    rw [openFor]
    exact wrap64Same fits.1 fits.2
  have state : t.breaker.state = .opened := by rw [breaker]; rfl
  exact Blocking.faithful ⟨now,opening,Int.le_of_eq clock.symm,until_⟩ state

theorem Faithful.count (faithful : Faithful cfg s) (elsewhere : s.breaker.state ≠ .opened) {t : State}
    (later : s.clock ≤ t.clock) (shut : t.breaker.state = .closed) (counted : Counted cfg t)
    (opening : t.openedAt = s.openedAt) : Faithful cfg t := by
  refine ⟨fun _ => counted,fun half => (nomatch shut.symm.trans half),fun open_ => (nomatch shut.symm.trans open_),?_⟩
  intro t' opened early
  have used := faithful.elapsed elsewhere (opening.symm.trans opened)
  omega

theorem Probing.succeed {b b' : Runtime} {probes : List Bool} (probing : Probing b probes)
    (count : b'.probeSuccess = wrap32 (b.probeSuccess + 1)) : Probing b' (true :: probes) := by
  obtain ⟨spotless,range,successes⟩ := probing
  have le := wrap32Le (n := b.probeSuccess + 1) (by omega)
  refine ⟨?_,by rw [count]; exact wrap32Range _,?_⟩
  · intro r inside
    rcases List.mem_cons.mp inside with rfl | old
    · rfl
    · exact spotless r old
  · rw [count, List.length_cons]
    omega

theorem notedClosed (state : s.breaker.state = .closed) (success : Bool) (now : Int) :
    noted cfg s success now = { s with
      era := (now,success) :: s.era
      window := (now,success) :: (if rotates s.breaker cfg now then [] else s.window) } := by
  unfold noted
  rw [state]

theorem notedHalfOpen (state : s.breaker.state = .halfOpen) (success : Bool) (now : Int) :
    noted cfg s success now = { s with probes := success :: s.probes } := by
  unfold noted
  rw [state]

theorem reportFaithful (positive : Positive cfg) (faithful : Faithful cfg s) {success : Bool} {now : Int}
    (regular : Regular cfg s (.report success now)) : Faithful cfg (report cfg s success now) := by
  obtain ⟨later,few,fits⟩ := regular
  change (report cfg s success now).window.length < 2^31 at few
  change _ → (report cfg s success now).breaker.state = _ → _ at fits
  have reported := reportReported s.breaker positive.enabled now success
  unfold report at few fits ⊢
  dsimp only [Action.now] at later fits few ⊢
  generalize s.breaker.report cfg now success = b at reported fits few ⊢
  cases reported with
  | ignored state =>
    have unnoted : noted cfg s success now = s := by
      unfold noted
      rw [state]
    simp only [unnoted, state, ne_eq, not_true_eq_false, false_and, if_false, reduceCtorEq]
    exact ((faithful.opened state).wait later _).faithful state
  | counted state =>
    have still := (s.breaker.talliedKeeps cfg now success).1.trans state
    have elsewhere : s.breaker.state ≠ .opened := by rw [state]; decide
    simp only [notedClosed state, state, still, reduceCtorEq, false_and, and_false, if_false] at few ⊢
    refine faithful.count elsewhere later still ?_ rfl
    cases rotated : rotates s.breaker cfg now with
    | true => exact (faithful.closed state).rotate later rotated success rfl rfl rfl rfl
    | false =>
      rw [rotated] at few
      exact (faithful.closed state).keep later rotated success rfl rfl rfl rfl few
  | tripped state many rate =>
    have elsewhere : s.breaker.state ≠ .opened := by rw [state]; decide
    exact openFaithful positive (fits elsewhere rfl) rfl rfl (if_pos ⟨elsewhere,rfl⟩)
  | failed state =>
    have elsewhere : s.breaker.state ≠ .opened := by rw [state]; decide
    exact openFaithful positive (fits elsewhere rfl) rfl rfl (if_pos ⟨elsewhere,rfl⟩)
  | succeeded state =>
    obtain ⟨still,count,-⟩ := releaseKeeps s.breaker
    have half := still.trans state
    have stays : ¬(s.breaker.state = .halfOpen ∧ s.breaker.releaseProbe.state = .closed) := by simp [half]
    have blocks : ¬(s.breaker.state ≠ .opened ∧ s.breaker.releaseProbe.state = .opened) := by simp [half]
    dsimp only
    rw [notedHalfOpen state, if_neg stays, if_neg stays, if_neg blocks]
    have probing : Probing { s.breaker.releaseProbe with probeSuccess := wrap32 (s.breaker.releaseProbe.probeSuccess + 1) }
        (true :: s.probes) := (faithful.halfOpen state).succeed (by dsimp only; rw [count])
    exact faithful.probe state later probing half
  | shut state enough =>
    have elsewhere : s.breaker.state ≠ .opened := by rw [state]; decide
    refine faithful.count elsewhere later rfl ?_ (if_neg (fun opens => nomatch opens.2))
    exact countedEmpty rfl rfl rfl (if_pos ⟨state,rfl⟩) (if_pos ⟨state,rfl⟩)

theorem stepFaithful (positive : Positive cfg) (faithful : Faithful cfg s) {a : Action} (regular : Regular cfg s a) {t : State}
    (taken : step cfg s a = some t) : Faithful cfg t := by
  cases Option.some.inj taken
  cases a with
  | allow now => exact allowFaithful positive faithful regular.clock
  | report success now => exact reportFaithful positive faithful regular

end

structure Contract (cfg : Breaker) (s : State) : Prop where
  counts : s.breaker.state = .closed →
    s.breaker.reqCount = s.window.length ∧ s.breaker.failCount = fails s.window ∧
    (s.breaker.windowStart ≠ 0 → s.window = s.era.filter (fun r => decide (s.breaker.windowStart ≤ r.1)))
  opens : ∀ a, s.breaker.state = .closed → (after cfg s a).breaker.state = .opened →
    (∃ success now, a = .report success now) ∧ cfg.minimumRequests ≤ (after cfg s a).breaker.reqCount ∧
    cfg.failureRateThresholdPercent * (after cfg s a).breaker.reqCount ≤ 100 * (after cfg s a).breaker.failCount
  refuses : ∀ opening, s.openedAt = some opening → ∀ now, s.clock ≤ now → now < opening + cfg.openDuration →
    (s.breaker.allow cfg now).1 = (.opened,false)
  admits : s.breaker.state = .opened → ∃ opening, s.openedAt = some opening ∧
    ∀ now, opening + cfg.openDuration ≤ now → (s.breaker.allow cfg now).1 = (.halfOpen,true)
  reopens : ∀ a, s.breaker.state = .halfOpen →
    ((after cfg s a).breaker.state = .opened ↔ ∃ now, a = .report false now)
  closes : ∀ a, s.breaker.state = .halfOpen → (after cfg s a).breaker.state = .closed →
    (∀ r ∈ (after cfg s a).probes, r = true) ∧ cfg.halfOpenMaxProbes ≤ (after cfg s a).probes.length

section
variable {cfg : Breaker} {s : State}

theorem Windowed.window (windowed : Windowed cfg s) (stamped : s.breaker.windowStart ≠ 0) :
    s.window = s.era.filter (fun r => decide (s.breaker.windowStart ≤ r.1)) := by
  obtain ⟨older,whole,before⟩ := windowed.split
  have own : s.window.filter (fun r => decide (s.breaker.windowStart ≤ r.1)) = s.window :=
    List.filter_eq_self.mpr (fun r member => decide_eq_true (windowed.inside r member).1)
  have old : older.filter (fun r => decide (s.breaker.windowStart ≤ r.1)) = [] := by
    rw [List.filter_eq_nil_iff]
    intro r member
    have strict := (before r member).2 stamped
    simp only [decide_eq_true_eq]
    omega
  rw [whole, List.filter_append, own, old, List.append_nil]

theorem openRefuses (positive : Positive cfg) (state : s.breaker.state = .opened) {now : Int} (early : now < s.breaker.openUntil) :
    (s.breaker.allow cfg now).1 = (.opened,false) := by
  unfold Runtime.allow
  rw [if_neg (by simp [positive.enabled]), state]
  dsimp only
  rw [if_pos early]

theorem openAdmits (positive : Positive cfg) (room : 1 ≤ Runtime.maxProbes cfg) (state : s.breaker.state = .opened) {now : Int}
    (due : s.breaker.openUntil ≤ now) : (s.breaker.allow cfg now).1 = (.halfOpen,true) := by
  have first : ¬Runtime.maxProbes cfg < wrap32 (0 + 1) := Int.not_lt.mpr room
  unfold Runtime.allow
  rw [if_neg (by simp [positive.enabled]), state]
  dsimp only
  rw [if_neg (Int.not_lt.mpr due)]
  unfold Runtime.allowHalfOpen
  exact congrArg Prod.fst (if_neg first)

theorem allowStays (positive : Positive cfg) (elsewhere : s.breaker.state ≠ .opened) (now : Int) :
    (s.breaker.allow cfg now).2.state = s.breaker.state := by
  have allowed := allowAllowed s.breaker positive.enabled now
  generalize s.breaker.allow cfg now = answer at allowed
  obtain ⟨verdict,b⟩ := answer
  cases allowed with
  | passed state => rfl
  | refused state early => exact absurd state elsewhere
  | entered state due room => exact absurd state elsewhere
  | enteredFull state due full => exact absurd state elsewhere
  | probed state room => rfl
  | held state full => rfl

theorem closedOpens (positive : Positive cfg) {a : Action} (state : s.breaker.state = .closed)
    (opens : (after cfg s a).breaker.state = .opened) :
    (∃ success now, a = .report success now) ∧ cfg.minimumRequests ≤ (after cfg s a).breaker.reqCount ∧
    cfg.failureRateThresholdPercent * (after cfg s a).breaker.reqCount ≤ 100 * (after cfg s a).breaker.failCount := by
  cases a with
  | allow now =>
    have same := allowStays positive (by rw [state]; decide) now
    cases (same.trans state).symm.trans opens
  | report success now =>
    have minimum : Runtime.minRequests cfg = cfg.minimumRequests := if_neg (Int.not_le.mpr positive.requests)
    have reported := reportReported s.breaker positive.enabled now success
    refine ⟨⟨success,now,rfl⟩,?_⟩
    change (s.breaker.report cfg now success).state = .opened at opens
    change cfg.minimumRequests ≤ (s.breaker.report cfg now success).reqCount ∧
      cfg.failureRateThresholdPercent * (s.breaker.report cfg now success).reqCount ≤
        100 * (s.breaker.report cfg now success).failCount
    generalize s.breaker.report cfg now success = b at reported opens
    cases reported with
    | ignored open_ => cases state.symm.trans open_
    | counted _ => cases ((s.breaker.talliedKeeps cfg now success).1.trans state).symm.trans opens
    | tripped _ many rate => exact ⟨minimum ▸ many,rate⟩
    | failed half => cases state.symm.trans half
    | succeeded half => cases state.symm.trans half
    | shut half enough => cases state.symm.trans half

theorem halfOpenReopens (positive : Positive cfg) (a : Action) (state : s.breaker.state = .halfOpen) :
    (after cfg s a).breaker.state = .opened ↔ ∃ now, a = .report false now := by
  cases a with
  | allow now =>
    have same := allowStays positive (by rw [state]; decide) now
    constructor
    · intro opens
      cases (same.trans state).symm.trans opens
    · rintro ⟨_,other⟩
      cases other
  | report success now =>
    have reported := reportReported s.breaker positive.enabled now success
    change (s.breaker.report cfg now success).state = .opened ↔ _
    generalize s.breaker.report cfg now success = b at reported
    cases reported with
    | ignored open_ => cases state.symm.trans open_
    | counted shut => cases state.symm.trans shut
    | tripped shut many rate => cases state.symm.trans shut
    | failed _ => exact ⟨fun _ => ⟨now,rfl⟩,fun _ => rfl⟩
    | succeeded _ =>
      have half := (releaseKeeps s.breaker).1.trans state
      constructor
      · intro opens
        cases half.symm.trans opens
      · rintro ⟨_,other⟩
        cases other
    | shut _ enough =>
      constructor
      · intro opens
        cases opens
      · rintro ⟨_,other⟩
        cases other

theorem halfOpenCloses (positive : Positive cfg) {a : Action} (state : s.breaker.state = .halfOpen) (probing : Probing s.breaker s.probes)
    (closes : (after cfg s a).breaker.state = .closed) :
    (∀ r ∈ (after cfg s a).probes, r = true) ∧ cfg.halfOpenMaxProbes ≤ (after cfg s a).probes.length := by
  cases a with
  | allow now =>
    have same := allowStays positive (by rw [state]; decide) now
    cases (same.trans state).symm.trans closes
  | report success now =>
    have reported := reportReported s.breaker positive.enabled now success
    have noted : (after cfg s (.report success now)).probes = success :: s.probes := by
      change (noted cfg s success now).probes = _
      rw [notedHalfOpen state]
    rw [noted]
    change (s.breaker.report cfg now success).state = .closed at closes
    generalize s.breaker.report cfg now success = b at reported closes
    cases reported with
    | ignored open_ => cases state.symm.trans open_
    | counted shut => cases state.symm.trans shut
    | tripped shut many rate => cases state.symm.trans shut
    | failed _ => cases closes
    | succeeded _ => cases ((releaseKeeps s.breaker).1.trans state).symm.trans closes
    | shut _ enough =>
      rw [(releaseKeeps s.breaker).2.1] at enough
      have next : Probing { s.breaker with probeSuccess := wrap32 (s.breaker.probeSuccess + 1) } (true :: s.probes) :=
        probing.succeed rfl
      exact ⟨next.spotless,Int.le_trans enough next.successes⟩

theorem Faithful.contract (positive : Positive cfg) (room : 1 ≤ Runtime.maxProbes cfg) (faithful : Faithful cfg s) :
    Contract cfg s where
  counts state :=
    have counted := faithful.closed state
    ⟨counted.requests,counted.failures,counted.toWindowed.window⟩
  opens _ state opens := closedOpens positive state opens
  refuses opening opened now later early := by
    have state := faithful.recent opening opened (by omega)
    obtain ⟨t,same,-,until_⟩ := (faithful.opened state).opening
    cases Option.some.inj (opened.symm.trans same)
    exact openRefuses positive state (by omega)
  admits state := by
    obtain ⟨t,opened,-,until_⟩ := (faithful.opened state).opening
    exact ⟨t,opened,fun now due => openAdmits positive room state (by omega)⟩
  reopens a state := halfOpenReopens positive a state
  closes _ state closes := halfOpenCloses positive state (faithful.halfOpen state) closes

end

theorem breakerKeepsContract {cfg : Breaker} (positive : Positive cfg) (room : 1 ≤ Runtime.maxProbes cfg) {start : Int}
    {as : List Action} {s : State} (run : Runs (step cfg) (Regular cfg) (initial start) as s) : Contract cfg s := by
  have faithful : Faithful cfg s := run.preserve (Faithful cfg)
    (fun _ _ _ faithful regular taken => stepFaithful positive faithful regular taken) (initialFaithful cfg start)
  exact faithful.contract positive room

def probing (probes : Int) : Breaker := ⟨true,50,2,1000,10,probes⟩

theorem probingPositive {probes : Int} (some_ : 0 < probes) : Positive (probing probes) where
  enabled := rfl
  threshold := by change (0 : Int) < 50; omega
  requests := by change (0 : Int) < 2; omega
  window := by change (0 : Int) < 1000; omega
  openFor := by change (0 : Int) < 10; omega
  probes := some_

def thereAndBack : List Action := [.report true 2,.report false 3,.allow 5,.allow 13,.report true 14,.report false 15]

theorem recoveryKeepsContract : ∃ s, Runs (step (probing 1)) (Regular (probing 1)) (initial 1) thereAndBack s ∧
    Contract (probing 1) s ∧ s.breaker.state = .closed ∧ s.openedAt = some 3 ∧ s.window = [(15,false)] := by
  have run : Runs (step (probing 1)) (Regular (probing 1)) (initial 1) thereAndBack _ := runAllRuns rfl
  exact ⟨_,run,breakerKeepsContract (probingPositive (by decide)) (by decide) run,rfl,rfl,rfl⟩

/- A limit of 2^31 probes is negative as an int32, so nobody is let in when the open
time is past. -/
theorem truncatedLimitLocksOut : ∃ s, Positive (probing (2^31)) ∧
    Runs (step (probing (2^31))) (Regular (probing (2^31))) (initial 1) [.report true 2,.report false 3] s ∧
    s.breaker.state = .opened ∧ s.openedAt = some 3 ∧ (s.breaker.allow (probing (2^31)) 13).1 = (.halfOpen,false) :=
  ⟨_,probingPositive (by decide),runAllRuns rfl,rfl,rfl,rfl⟩

end ReverseProxy.BreakerHistory
