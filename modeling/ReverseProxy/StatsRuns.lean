import ReverseProxy.StatsWindow
import ReverseProxy.Transition

/-! Calls of Record and WindowTotals in any order under a clock that does not go back, and
the windows for which the totals are sound in every such run. -/
namespace ReverseProxy.StatsRuns
open GoValues Binary64 Tally TrafficStats StatsWindow
open RetryExecute (elapsed timeSub)
open Transition (Runs)

structure State where
  stats : Stats
  journal : List Event := []
  clock : Int

inductive Action where
  | record (e : Event)
  | totals (now : Int)

def Action.time : Action → Int
  | .record e => e.time
  | .totals now => now

def step (s : State) : Action → Option State
  | .record e => some ⟨record s.stats e,s.journal ++ [e],e.time⟩
  | .totals now => some ⟨(windowTotals s.stats now).2,s.journal,now⟩

def Timely (s : State) (a : Action) : Prop := s.clock ≤ a.time

def initial (window now : Int) : State := { stats := newStats window, clock := now }

def Always (window : Int) : Prop := ∀ start actions s, Runs step Timely (initial window start) actions s →
  ∀ now, s.clock ≤ now → Sound window (windowTotals s.stats now).1 s.journal now

/- The quotient of the floating-point numbers is not rounded down to a number of buckets that
the window is longer than, and as many buckets as it asks for last no longer than a Duration. -/
structure Covered (window : Int) : Prop where
  rounding : ∀ k : Int, k * bucketDuration window < window → k < quotient window
  range : window ≤ 9223372036 * second

section
variable {window : Int}

theorem durationPositive (positive : 0 < window) : (0 : Int) < bucketDuration window := by
  unfold bucketDuration
  split
  · exact positive
  · decide

theorem durationLong (beyond : 9223372036 * second < window) : bucketDuration window = second := by
  unfold bucketDuration
  rw [if_neg]
  exact Int.not_lt.mpr (Int.le_trans (by decide) (Int.le_of_lt beyond))

theorem quotientPositive (positive : 0 < window) : 0 < quotient window := by
  have duration := durationPositive positive
  refine float64Positive (div_pos (float64Positive ?_) (float64Positive ?_))
  · exact_mod_cast positive
  · exact_mod_cast duration

theorem countCeil (positive : 0 < window) : bucketCount window = (quotient window).ceil := by
  have above : (0 : Int) < (quotient window).ceil := Rat.lt_ceil_iff.mpr (by exact_mod_cast quotientPositive positive)
  unfold bucketCount
  rw [if_neg (by omega)]

theorem roundingIff (positive : 0 < window) : (∀ k : Int, k * bucketDuration window < window → k < quotient window) ↔
    window ≤ bucketCount window * bucketDuration window := by
  have duration := durationPositive positive
  rw [countCeil positive]
  constructor
  · intro rounding
    refine Int.not_lt.mp (fun short => ?_)
    have below := rounding _ short
    exact absurd Rat.le_ceil (not_le.mpr below)
  · intro enough k short
    have fewer : k < (quotient window).ceil := Int.lt_of_mul_lt_mul_right (Int.lt_of_lt_of_le short enough) (Int.le_of_lt duration)
    exact Rat.lt_ceil_iff.mp fewer

theorem floatSecond : float64 (second : Int) = (second : Int) := float64Int (by decide)

theorem countShort (positive : 0 < window) (short : window < second) :
    bucketDuration window = window ∧ bucketCount window = 1 := by
  have same : bucketDuration window = window := if_pos short
  have one : float64 (1 : Int) = (1 : Int) := float64Int (by decide)
  have self : float64 window / float64 window = (1 : Int) := by
    rw [Int.cast_one]
    exact div_self (float64Positive (by exact_mod_cast positive)).ne'
  refine ⟨same,?_⟩
  rw [countCeil positive]
  unfold quotient
  rw [same, self, one, Rat.ceil_intCast]

theorem countFits (positive : 0 < window) (range : window ≤ 9223372036 * second) :
    bucketCount window * bucketDuration window < 2^63 := by
  by_cases short : window < second
  · obtain ⟨duration,count⟩ := countShort positive short
    rw [duration, count]
    have bound : (second : Int) < 2^63 := by decide
    exact Int.lt_trans (by rw [Int.one_mul]; exact short) bound
  · have duration : bucketDuration window = second := if_neg short
    have le : (window : Rat) ≤ (9223372036 * second : Int) := by exact_mod_cast range
    have rounded : float64 window ≤ (9223372036 * second : Int) :=
      @float64Below window _ (2305843009 * 1953125) 11 (by unfold second millisecond; norm_num) (by decide)
        (by exact_mod_cast positive) le
    have most : quotient window ≤ (9223372036 : Int) := by
      refine @float64Below _ _ 9223372036 0 (by norm_num) (by decide) (div_pos ?_ ?_) ?_
      · exact float64Positive (by exact_mod_cast positive)
      · exact float64Positive (by exact_mod_cast durationPositive positive)
      · rw [duration, floatSecond, div_le_iff₀ (by unfold second millisecond; norm_num)]
        exact_mod_cast rounded
    have count : bucketCount window ≤ 9223372036 := by
      rw [countCeil positive]
      exact Rat.ceil_le_iff.mpr most
    rw [duration]
    unfold second millisecond
    omega

theorem ratioPositive (positive : 0 < window) : (0 : Rat) < window / (second : Int) :=
  div_pos (by exact_mod_cast positive) (by unfold second millisecond; norm_num)

theorem ratioAbove {k : Int} (short : k * second < window) : (k : Rat) + 1 / 1000000000 ≤ window / (second : Int) := by
  have next : k * second + 1 ≤ window := short
  have cast : ((k * second + 1 : Int) : Rat) ≤ window := by exact_mod_cast next
  unfold second millisecond at cast ⊢
  rw [le_div_iff₀ (by norm_num)]
  push_cast at cast ⊢
  linarith

theorem coveredBelow (positive : 0 < window) (small : window < 2^53) : Covered window := by
  have range : window ≤ 9223372036 * second := by
    unfold second millisecond
    omega
  refine ⟨fun k short => ?_,range⟩
  by_cases brief : window < second
  · obtain ⟨duration,count⟩ := countShort positive brief
    have enough := (roundingIff positive).mpr (by rw [duration, count, Int.one_mul])
    exact enough k short
  · have duration : bucketDuration window = second := if_neg brief
    have exact_ : float64 window = window := float64Int (by rw [abs_of_pos positive]; exact small)
    rw [duration] at short
    have bound : (window : Rat) / (second : Int) < 2 ^ (24 : Int) := by
      have cast : (window : Rat) < 2^53 := by exact_mod_cast small
      unfold second millisecond
      rw [div_lt_iff₀ (by norm_num)]
      norm_num at cast ⊢
      linarith
    have above := ratioAbove short
    have low := float64Above (ratioPositive positive) bound
    unfold quotient
    rw [duration, exact_, floatSecond]
    norm_num at low
    linarith

end

/- A window of whole milliseconds is at least a millisecond longer than the buckets it exceeds,
more than the two roundings can take away. -/
theorem wholeRounding {ms window : Int} (whole : window = ms * millisecond) (positive : 0 < window) (range : window < 2^63)
    {k : Int} (short : k * bucketDuration window < window) : k < quotient window := by
  by_cases brief : window < second
  · obtain ⟨duration,count⟩ := countShort positive brief
    exact (roundingIff positive).mpr (by rw [duration, count, Int.one_mul]) k short
  · have duration : bucketDuration window = second := if_neg brief
    rw [duration] at short
    have next : k * 1000000000 + 1000000 ≤ window := by
      unfold second millisecond at *
      omega
    have cast : (k : Rat) * 1000000000 + 1000000 ≤ window := by exact_mod_cast next
    have wide : (window : Rat) < 2 ^ (63 : Int) := by exact_mod_cast range
    have some_ : (0 : Rat) < window := by exact_mod_cast positive
    have low := float64Above some_ wide
    have high : float64 window ≤ (2 : Rat) ^ (63 : Int) := float64Below (by rw [Int.cast_one, one_mul]) (by decide) some_ wide.le
    have seconds : (0 : Rat) < (second : Int) := by unfold second millisecond; norm_num
    have bound : float64 window / (second : Int) < 2 ^ (34 : Int) := by
      rw [div_lt_iff₀ seconds]
      unfold second millisecond
      norm_num at high ⊢
      linarith
    have above : (k : Rat) + 999 / 1000000 ≤ float64 window / (second : Int) := by
      rw [le_div_iff₀ seconds]
      unfold second millisecond
      norm_num at low ⊢
      linarith
    have rounded := float64Above (div_pos (float64Positive some_) seconds) bound
    unfold quotient
    rw [duration, floatSecond]
    norm_num at rounded
    linarith

theorem wholeCovered {ms window : Int} (whole : window = ms * millisecond) (positive : 0 < window)
    (range : window ≤ 9223372036 * second) : Covered window :=
  ⟨fun _ => wholeRounding whole positive (Int.lt_of_le_of_lt range (by decide)),range⟩

structure Kept (window : Int) (s : State) : Prop where
  alike : Alike (newStats window) s.stats
  counted : (s.stats.currentStart = none ∧ s.journal = [] ∧ ∀ b ∈ s.stats.buckets, b = {}) ∨
    ∃ start, s.stats.currentStart = some start ∧ start ≤ s.clock ∧ Ring s.stats start s.journal

section
variable {window now : Int} {s t : State} {a : Action}

theorem newLaid (positive : 0 < window) : ((newStats window).buckets.length : Int) = bucketCount window ∧
    (newStats window).bucketDuration = bucketDuration window ∧ (newStats window).window = window := by
  have one := bucketCountPositive window
  unfold newStats
  dsimp only
  rw [if_neg (Int.not_le.mpr positive), List.length_replicate]
  exact ⟨Int.toNat_of_nonneg (by omega),rfl,rfl⟩

theorem initialKept (window now : Int) : Kept window (initial window now) :=
  ⟨⟨rfl,rfl,rfl⟩,.inl ⟨rfl,rfl,fun _ inside => List.eq_of_mem_replicate inside⟩⟩

theorem rotateKept (positive : 0 < window) (fits : bucketCount window * bucketDuration window < 2^63) (kept : Kept window s)
    (later : s.clock ≤ now) : ∃ start, (rotateLocked s.stats now).currentStart = some start ∧ start ≤ now ∧
      now < start + bucketDuration window ∧ Ring (rotateLocked s.stats now) start s.journal := by
  obtain ⟨length,duration,_⟩ := newLaid positive
  have some_ := durationPositive positive
  rw [← kept.alike.length] at length
  rw [← kept.alike.duration] at duration
  rcases kept.counted with ⟨unset,empty,blank⟩ | ⟨start,set,from_,ring⟩
  · obtain ⟨recent,starts,none_,counts⟩ := ringFirst blank now
    unfold rotateLocked
    rw [unset, empty]
    exact ⟨now,rfl,Int.le_refl _,by omega,⟨recent,starts,none_,counts⟩⟩
  · exact rotateRing ring set (Int.le_trans from_ later) duration some_ (by rw [length]; exact fits)

theorem stepKept (positive : 0 < window) (fits : bucketCount window * bucketDuration window < 2^63) (kept : Kept window s)
    (timely : Timely s a) (taken : step s a = some t) : Kept window t := by
  obtain ⟨start,set,from_,before,ring⟩ := rotateKept positive fits kept timely
  have turned := rotateAlike s.stats a.time
  have alike : Alike (newStats window) (rotateLocked s.stats a.time) :=
    ⟨turned.length.trans kept.alike.length,turned.duration.trans kept.alike.duration,turned.window.trans kept.alike.window⟩
  cases a with
  | totals now =>
    cases taken
    exact ⟨alike,.inr ⟨start,set,from_,ring⟩⟩
  | record e =>
    cases taken
    rw [← (newLaid positive).2.1, ← alike.duration] at before
    exact ⟨⟨(List.length_modify _ _ _).trans alike.length,alike.duration,alike.window⟩,
      .inr ⟨start,set,from_,ringRecord ring from_ before⟩⟩

theorem coveredAlways (positive : 0 < window) (covered : Covered window) : Always window := by
  intro start actions s run now later
  have fits := countFits positive covered.range
  have kept : Kept window s := run.preserve (Kept window) (fun _ _ _ kept timely taken => stepKept positive fits kept timely taken)
    (initialKept window start)
  obtain ⟨first,_,from_,_,ring⟩ := rotateKept positive fits kept later
  obtain ⟨length,duration,whole⟩ := newLaid positive
  have turned := rotateAlike s.stats now
  have same : (rotateLocked s.stats now).window = window := (turned.window.trans kept.alike.window).trans whole
  unfold windowTotals
  dsimp only
  rw [same]
  refine ringSound ring ((turned.duration.trans kept.alike.duration).trans duration) (durationPositive positive) ?_ rfl from_
  rw [turned.length, kept.alike.length, length]
  exact (roundingIff positive).mp covered.rounding

theorem totalsNothing {stats : Stats} {column : Column} {cutoff : Int}
    (nothing : ∀ b ∈ stats.buckets, fresh cutoff b = true → column.count b = 0) :
    column.total (stats.buckets.foldl (addUp cutoff) {}) = 0 := by
  have zero : column.total {} = 0 := by cases column <;> rfl
  rw [foldTotal, zero, Nat.zero_add]
  refine totalZero (fun b inside => ?_)
  split
  · exact nothing b inside (by assumption)
  · rfl

theorem advancesAll {P : Bucket → Prop} (empty : ∀ t, P { start := t }) {stats : Stats} (all : ∀ b ∈ stats.buckets, P b)
    (from_ : Int) (steps : Nat) : ∀ b ∈ (advances stats from_ steps).buckets, P b := by
  induction steps with
  | zero => exact all
  | succ steps ih =>
    intro b inside
    rcases List.mem_or_eq_of_mem_set inside with old | rfl
    · exact ih b old
    · exact empty _

theorem resetAll {P : Bucket → Prop} (empty : ∀ t, P { start := t }) (stats : Stats) (now : Int) :
    ∀ b ∈ (reset stats now).buckets, P b := by
  intro b inside
  rcases List.mem_or_eq_of_mem_set inside with old | rfl
  · rw [List.eq_of_mem_replicate old]
    exact empty none
  · exact empty _

theorem changeAll {P : Bucket → Prop} {f : Bucket → Bucket} (keeps : ∀ b, P b → P (f b)) {stats : Stats}
    (all : ∀ b ∈ stats.buckets, P b) : ∀ b ∈ (change stats f).buckets, P b := by
  intro b inside
  obtain ⟨j,there⟩ := List.mem_iff_getElem?.mp inside
  obtain ⟨old,found,rfl⟩ := changeFound there
  have was := all old (List.mem_of_getElem? found)
  split
  · exact keeps old was
  · exact was

theorem rotateAll {P : Bucket → Prop} (empty : ∀ t, P { start := t }) {stats : Stats} (all : ∀ b ∈ stats.buckets, P b)
    {start : Int} (set : stats.currentStart = some start) (now : Int) : ∀ b ∈ (rotateLocked stats now).buckets, P b := by
  unfold rotateLocked
  rw [set]
  dsimp only
  split
  · exact all
  · split
    · exact resetAll empty stats now
    · exact advancesAll empty all start _

theorem missedUnsound {totals : WindowTotals} {journal : List Event} {column : Column} {e : Event}
    (inside : e ∈ journal) (young : now - e.time ≤ window - bucketDuration window) (has : column.has e = true)
    (zero : column.total totals = 0) : ¬Sound window totals journal now := by
  intro sound
  obtain ⟨kept,counts,all,_⟩ := sound.counts
  rw [counts column] at zero
  have missed := List.countP_eq_zero.mp zero e inside
  rw [all e inside young, has] at missed
  exact missed rfl

end

def first : Event := ⟨0,.stable,200,false⟩

def lastOf (window : Int) : Event := ⟨bucketDuration window - 1,.canary,200,false⟩

section
variable {window : Int}

theorem timeSubZero {t : Int} (nonneg : 0 ≤ t) (range : t < 2^63) : timeSub t 0 = t := by
  have sub := (elapsed nonneg).2.2.1 (by omega)
  omega

theorem firstStarted (window : Int) : (record (newStats window) first).currentStart = some 0 := rfl

theorem firstLaid (window : Int) : Alike (newStats window) (record (newStats window) first) :=
  ⟨(List.length_modify _ _ _).trans (rotateAlike (newStats window) 0).length,rfl,rfl⟩

theorem durationBounds (positive : 0 < window) : ∃ d : Int, bucketDuration window = d ∧ 0 < d ∧ d ≤ 1000000000 := by
  refine ⟨bucketDuration window,rfl,durationPositive positive,?_⟩
  unfold bucketDuration
  split
  · exact Int.le_of_lt (by assumption)
  · exact Int.le_refl _

theorem lastSame (positive : 0 < window) :
    rotateLocked (record (newStats window) first) (lastOf window).time = record (newStats window) first := by
  obtain ⟨d,duration,some_,most⟩ := durationBounds positive
  unfold rotateLocked
  rw [firstStarted]
  dsimp only
  rw [(firstLaid window).duration, (newLaid positive).2.1]
  unfold lastOf
  dsimp only
  rw [duration, timeSubZero (by omega) (by omega), if_pos (by omega)]

def afterLast (window : Int) : State :=
  ⟨record (record (newStats window) first) (lastOf window),[first,lastOf window],(lastOf window).time⟩

theorem lastRuns (positive : 0 < window) :
    Runs step Timely (initial window 0) [.record first,.record (lastOf window)] (afterLast window) := by
  obtain ⟨d,duration,some_,_⟩ := durationBounds positive
  refine .cons (Int.le_refl 0) rfl (.cons ?_ rfl (.nil _))
  change 0 ≤ bucketDuration window - 1
  rw [duration]
  exact Int.le_sub_one_of_lt some_

theorem uncoveredMisses (positive : 0 < window) (range : window < 2^63)
    (short : bucketCount window * bucketDuration window < window) :
    ¬Sound window (windowTotals (afterLast window).stats (bucketCount window * bucketDuration window)).1
      (afterLast window).journal (bucketCount window * bucketDuration window) := by
  obtain ⟨d,duration,some_,_⟩ := durationBounds positive
  obtain ⟨length,own,whole⟩ := newLaid positive
  have one := bucketCountPositive window
  have turns : 1 * d ≤ bucketCount window * d := Int.mul_le_mul_of_nonneg_right one (Int.le_of_lt some_)
  have started : (afterLast window).stats.currentStart = some 0 := by
    change (rotateLocked (record (newStats window) first) (lastOf window).time).currentStart = some 0
    rw [lastSame positive, firstStarted]
  have alike : Alike (newStats window) (afterLast window).stats := by
    have turned := rotateAlike (record (newStats window) first) (lastOf window).time
    have start := firstLaid window
    exact ⟨(List.length_modify _ _ _).trans (turned.length.trans start.length),turned.duration.trans start.duration,
      turned.window.trans start.window⟩
  rw [duration] at short ⊢
  have cleared : rotateLocked (afterLast window).stats (bucketCount window * d) =
      reset (afterLast window).stats (bucketCount window * d) := by
    unfold rotateLocked
    rw [started]
    dsimp only
    rw [alike.duration, own, duration, alike.length, length, timeSubZero (by omega) (by omega), if_neg (by omega),
      Int.tdiv_eq_ediv_of_nonneg (by omega), Int.mul_ediv_cancel _ (by omega), if_pos (Int.le_refl _)]
  refine missedUnsound (List.mem_cons_of_mem first List.mem_cons_self) ?_
    (show Column.canaryReq.has (lastOf window) = true from rfl) ?_
  · unfold lastOf
    dsimp only
    rw [duration]
    omega
  · unfold windowTotals
    rw [cleared]
    exact totalsNothing (fun b inside _ => @resetAll (fun b => b.canaryReq = 0) (fun _ => rfl) _ _ b inside)

def distant : Event := ⟨2^63 + 2 * second,.canary,200,false⟩

def afterDistant (window : Int) : State := ⟨record (record (newStats window) first) distant,[first,distant],distant.time⟩

theorem distantRuns (window : Int) :
    Runs step Timely (initial window 0) [.record first,.record distant] (afterDistant window) :=
  .cons (Int.le_refl 0) rfl (.cons (show (0 : Int) ≤ 2^63 + 2 * second by decide) rfl (.nil _))

theorem advancesCurrent (stats : Stats) (from_ : Int) {steps : Nat} (some_ : 0 < steps) {b : Bucket}
    (found : (advances stats from_ steps).buckets[(advances stats from_ steps).current]? = some b) :
    b.start = some (from_ + wrap64 (stats.bucketDuration * steps)) := by
  cases steps with
  | zero => cases some_
  | succ steps =>
    have inside := (advances stats from_ (steps + 1)).inside
    unfold advances advance at found inside
    dsimp only at found inside
    rw [List.length_set] at inside
    rw [List.getElem?_set_self inside, (advancesAlike stats from_ steps).duration] at found
    rw [← Option.some.inj found, Nat.cast_add, Nat.cast_one]

theorem distantTurned (long : bucketDuration window = second) (positive : 0 < window) (many : 9223372036 < bucketCount window) :
    ∃ steps : Nat, (steps : Int) = 9223372036 ∧ rotateLocked (record (newStats window) first) distant.time =
      { advances (record (newStats window) first) 0 steps with currentStart := some (9223372036 * second) } := by
  obtain ⟨length,own,_⟩ := newLaid positive
  have gap : timeSub distant.time 0 = 2^63 - 1 := by decide
  refine ⟨Int.toNat 9223372036,rfl,?_⟩
  unfold rotateLocked
  rw [firstStarted]
  dsimp only
  rw [(firstLaid window).duration, own, long, (firstLaid window).length, length, gap, if_neg (by decide),
    show Int.tdiv (2^63 - 1) second = 9223372036 by decide, if_neg (by omega)]
  rfl

theorem firstBuckets (window : Int) : ∀ b ∈ (record (newStats window) first).buckets, b.canaryReq = 0 := by
  have blank : ∀ b ∈ (newStats window).buckets, b.canaryReq = 0 := fun b inside => by rw [List.eq_of_mem_replicate inside]
  have started : ∀ b ∈ (rotateLocked (newStats window) 0).buckets, b.canaryReq = 0 :=
    @changeAll (fun b => b.canaryReq = 0) (fun b => { b with start := some 0 }) (fun _ zero => zero) _ blank
  exact @changeAll (fun b => b.canaryReq = 0) (counted first) (fun _ zero => zero) _ started

theorem distantBuckets (long : bucketDuration window = second) (positive : 0 < window) (many : 9223372036 < bucketCount window) :
    ∀ b ∈ (afterDistant window).stats.buckets, b.canaryReq = 0 ∨ b.start = some (9223372036 * second) := by
  intro b inside
  change b ∈ (change (rotateLocked (record (newStats window) first) distant.time) (counted distant)).buckets at inside
  obtain ⟨steps,count,turned⟩ := distantTurned long positive many
  rw [turned] at inside
  obtain ⟨j,there⟩ := List.mem_iff_getElem?.mp inside
  obtain ⟨old,found,rfl⟩ := changeFound there
  split
  · rename_i here
    subst here
    have last := advancesCurrent (record (newStats window) first) 0 (by omega) found
    rw [(firstLaid window).duration, (newLaid positive).2.1, long, count] at last
    refine .inr ?_
    rw [countedStart, last]
    decide
  · exact .inl (advancesAll (fun _ => rfl) (firstBuckets window) 0 steps old (List.mem_of_getElem? found))

theorem distantMisses (positive : 0 < window) (beyond : 9223372036 * second < window) (many : 9223372036 < bucketCount window) :
    ¬Sound window (windowTotals (afterDistant window).stats (9223372036 * second + window + 1)).1
      (afterDistant window).journal (9223372036 * second + window + 1) := by
  have long := durationLong beyond
  obtain ⟨_,own,whole⟩ := newLaid positive
  have turned := rotateAlike (record (newStats window) first) distant.time
  have started : (afterDistant window).stats.currentStart = some (9223372036 * second) := by
    obtain ⟨_,_,turned⟩ := distantTurned long positive many
    change (rotateLocked (record (newStats window) first) distant.time).currentStart = _
    rw [turned]
  have same : (rotateLocked (afterDistant window).stats (9223372036 * second + window + 1)).window = window :=
    (rotateAlike (afterDistant window).stats _).window.trans ((turned.window.trans (firstLaid window).window).trans whole)
  refine missedUnsound (List.mem_cons_of_mem first List.mem_cons_self) ?_ (show Column.canaryReq.has distant = true from rfl) ?_
  · rw [long]
    unfold distant second millisecond
    dsimp only
    omega
  · unfold windowTotals
    dsimp only
    rw [same]
    refine totalsNothing (fun b inside young => ?_)
    have placed := rotateAll (fun _ => .inl rfl) (distantBuckets long positive many) started _ b inside
    rcases placed with zero | start
    · exact zero
    · unfold fresh at young
      rw [start, Option.any_some, decide_eq_true_eq] at young
      omega

theorem alwaysEnough (positive : 0 < window) (range : window < 2^63) (always : Always window) :
    window ≤ bucketCount window * bucketDuration window := by
  refine Int.not_lt.mp (fun short => ?_)
  obtain ⟨d,duration,some_,_⟩ := durationBounds positive
  have one := bucketCountPositive window
  have turns : 1 * d ≤ bucketCount window * d := Int.mul_le_mul_of_nonneg_right one (Int.le_of_lt some_)
  have later : d - 1 ≤ bucketCount window * d := by omega
  rw [← duration] at later
  exact uncoveredMisses positive range short (always 0 _ _ (lastRuns positive) _ later)

end

theorem statsExact {window : Int} (positive : 0 < window) (range : window < 2^63) : Always window ↔ Covered window := by
  constructor
  · intro always
    have enough := alwaysEnough positive range always
    have rounding := (roundingIff positive).mpr enough
    refine ⟨rounding,Int.not_lt.mp (fun beyond => ?_)⟩
    have many : 9223372036 < bucketCount window := by
      rw [countCeil positive]
      exact Rat.lt_ceil_iff.mpr (rounding 9223372036 (by rw [durationLong beyond]; exact beyond))
    have later : (2^63 + 2 * 1000000000 : Int) ≤ 9223372036 * 1000000000 + window + 1 := by
      unfold second millisecond at beyond
      omega
    exact distantMisses positive beyond many (always 0 _ _ (distantRuns window) _ later)
  · exact coveredAlways positive

theorem secondsAndHalf : Always 1500000000 := (statsExact (by decide) (by decide)).mpr (coveredBelow (by decide) (by decide))

def overlong : Int := 9223372036001 * millisecond

theorem overlongMisses : PolicyBuild.durationOrZero 9223372036001 = overlong ∧
    Runs step Timely (initial overlong 0) [.record first,.record distant] (afterDistant overlong) ∧
    (afterDistant overlong).clock ≤ 9223372036 * second + overlong + 1 ∧
    ¬Sound overlong (windowTotals (afterDistant overlong).stats (9223372036 * second + overlong + 1)).1
      (afterDistant overlong).journal (9223372036 * second + overlong + 1) := by
  have many : 9223372036 < bucketCount overlong := by
    rw [countCeil (by decide)]
    exact Rat.lt_ceil_iff.mpr (wholeRounding rfl (by decide) (by decide) (by decide))
  exact ⟨by decide,distantRuns overlong,by decide,distantMisses (by decide) (by decide) many⟩

end ReverseProxy.StatsRuns
