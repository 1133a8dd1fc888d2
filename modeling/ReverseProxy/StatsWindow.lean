import ReverseProxy.TrafficStats

/-! What WindowTotals counts of the events recorded before. -/
namespace ReverseProxy.StatsWindow
open GoValues Binary64 Tally TrafficStats
open RetryExecute (elapsed timeSub)

def behind (current length j : Nat) : Nat := if j ≤ current then current - j else current + length - j

def back (s : Stats) (j : Nat) : Nat := behind s.current s.buckets.length j

def age (start duration time : Int) : Nat := ((start + duration - 1 - time) / duration).toNat

structure Ring (s : Stats) (start : Int) (journal : List Event) : Prop where
  recent : ∀ e ∈ journal, e.time < start + s.bucketDuration
  starts : ∀ j b, s.buckets[j]? = some b → ∀ t, b.start = some t → t = start - back s j * s.bucketDuration
  blank : ∀ j b, s.buckets[j]? = some b → b.start = none →
    0 < back s j ∧ ∀ e ∈ journal, age start s.bucketDuration e.time ≠ back s j
  counts : ∀ (column : Column) j b, s.buckets[j]? = some b → column.count b =
    journal.countP (fun e => decide (age start s.bucketDuration e.time = back s j) && column.has e)

section
variable {start duration time : Int}

theorem ageNext (positive : 0 < duration) (before : time < start + duration) :
    age (start + duration) duration time = age start duration time + 1 := by
  have shift : start + duration + duration - 1 - time = start + duration - 1 - time + 1 * duration := by omega
  have nonneg : 0 ≤ (start + duration - 1 - time) / duration := Int.ediv_nonneg (by omega) (by omega)
  unfold age
  rw [shift, Int.add_mul_ediv_right _ _ (by omega)]
  omega

theorem ageNow (from_ : start ≤ time) (before : time < start + duration) : age start duration time = 0 := by
  unfold age
  rw [Int.ediv_eq_zero_of_lt (by omega) (by omega)]
  rfl

theorem agePast (positive : 0 < duration) {n : Nat} (long : n * duration ≤ start + duration - 1 - time) :
    n ≤ age start duration time := by
  have turns := (Int.le_ediv_iff_mul_le positive).mpr long
  unfold age
  omega

theorem ageBounds (positive : 0 < duration) (before : time < start + duration) :
    start - age start duration time * duration ≤ time ∧ time < start - age start duration time * duration + duration := by
  have nonneg : 0 ≤ (start + duration - 1 - time) / duration := Int.ediv_nonneg (by omega) (by omega)
  have cast : (age start duration time : Int) = (start + duration - 1 - time) / duration := Int.toNat_of_nonneg nonneg
  have low := Int.ediv_mul_le (start + duration - 1 - time) (show duration ≠ 0 by omega)
  have high := Int.lt_ediv_add_one_mul_self (start + duration - 1 - time) positive
  rw [Int.add_mul, Int.one_mul] at high
  rw [cast]
  omega

end

section
variable {s : Stats} {start now : Int} {journal : List Event} {e : Event}

theorem behindBelow {current length j : Nat} (at_ : current < length) (inside : j < length) : behind current length j < length := by
  unfold behind
  split <;> omega

theorem behindTwice {current length j : Nat} (at_ : current < length) (inside : j < length) :
    behind current length (behind current length j) = j := by
  unfold behind
  split <;> split <;> omega

theorem behindNext {current length j : Nat} (at_ : current < length) (inside : j < length) (other : j ≠ (current + 1) % length) :
    behind ((current + 1) % length) length j = behind current length j + 1 := by
  unfold behind
  by_cases last : current + 1 = length
  · rw [last, Nat.mod_self] at other ⊢
    rw [if_neg (by omega), if_pos (by omega)]
    omega
  · rw [Nat.mod_eq_of_lt (by omega)] at other ⊢
    split <;> split <;> omega

theorem backCurrent (s : Stats) : back s s.current = 0 := by
  unfold back behind
  rw [if_pos (Nat.le_refl _), Nat.sub_self]

theorem foundInside {j : Nat} {b : Bucket} (found : s.buckets[j]? = some b) : j < s.buckets.length :=
  (List.getElem?_eq_some_iff.mp found).1

theorem advanceLength (s : Stats) (from_ : Int) (i : Nat) : (advance s from_ i).buckets.length = s.buckets.length :=
  List.length_set

theorem advanceBack {j i : Nat} {from_ : Int} (inside : j < s.buckets.length) (other : j ≠ (s.current + 1) % s.buckets.length) :
    back (advance s from_ i) j = back s j + 1 := by
  unfold back
  rw [advanceLength]
  exact behindNext s.inside inside other

theorem ringAdvance (ring : Ring s start journal) (positive : 0 < s.bucketDuration) {from_ : Int} {i : Nat}
    (value : from_ + wrap64 (s.bucketDuration * (i + 1)) = start + s.bucketDuration) :
    Ring (advance s from_ i) (start + s.bucketDuration) journal := by
  have next : (s.current + 1) % s.buckets.length < s.buckets.length :=
    Nat.mod_lt _ (Nat.lt_of_le_of_lt (Nat.zero_le _) s.inside)
  have zero : back (advance s from_ i) ((s.current + 1) % s.buckets.length) = 0 := backCurrent (advance s from_ i)
  have older (e : Event) (inside : e ∈ journal) := ageNext positive (ring.recent e inside)
  obtain ⟨old,found⟩ : ∃ old, s.buckets[(s.current + 1) % s.buckets.length]? = some old := ⟨_,List.getElem?_eq_getElem next⟩
  refine ⟨?_,?_,?_,?_⟩
  · intro e inside
    exact Int.lt_trans (ring.recent e inside) (Int.lt_add_of_pos_right _ positive)
  · intro j b there t known
    rcases Crew.atMove found there with ⟨rfl,rfl⟩ | ⟨other,there⟩
    · rw [zero, ← Option.some.inj known, value]
      simp
    · rw [advanceBack (foundInside there) other, ring.starts j b there t known]
      change _ = start + s.bucketDuration - ((back s j + 1 : Nat) : Int) * s.bucketDuration
      rw [Nat.cast_add, Int.add_mul, Nat.cast_one, Int.one_mul]
      omega
  · intro j b there unknown
    rcases Crew.atMove found there with ⟨rfl,rfl⟩ | ⟨other,there⟩
    · cases unknown
    · obtain ⟨_,none_⟩ := ring.blank j b there unknown
      rw [advanceBack (foundInside there) other]
      refine ⟨Nat.succ_pos _,fun e inside => ?_⟩
      have apart := none_ e inside
      have shifted := older e inside
      change age (start + s.bucketDuration) s.bucketDuration e.time ≠ back s j + 1
      omega
  · intro column j b there
    rcases Crew.atMove found there with ⟨rfl,rfl⟩ | ⟨other,there⟩
    · refine Eq.trans (by cases column <;> rfl) (List.countP_eq_zero.mpr (fun e inside here => ?_)).symm
      have shifted := older e inside
      simp only [zero, Bool.and_eq_true, decide_eq_true_eq] at here
      have first : age (start + s.bucketDuration) s.bucketDuration e.time = 0 := here.1
      omega
    · rw [ring.counts column j b there, advanceBack (foundInside there) other]
      refine List.countP_congr (fun e inside => ?_)
      have shifted : age (start + s.bucketDuration) (advance s from_ i).bucketDuration e.time = _ := older e inside
      rw [shifted]
      simp

structure Alike (s t : Stats) : Prop where
  length : t.buckets.length = s.buckets.length
  duration : t.bucketDuration = s.bucketDuration
  window : t.window = s.window

theorem advancesAlike (s : Stats) (from_ : Int) (steps : Nat) : Alike s (advances s from_ steps) := by
  induction steps with
  | zero => exact ⟨rfl,rfl,rfl⟩
  | succ steps ih => exact ⟨(advanceLength _ _ _).trans ih.length,ih.duration,ih.window⟩

theorem rotateAlike (s : Stats) (now : Int) : Alike s (rotateLocked s now) := by
  unfold rotateLocked
  cases s.currentStart with
  | none => exact ⟨List.length_modify _ _ _,rfl,rfl⟩
  | some start =>
    dsimp only
    split
    · exact ⟨rfl,rfl,rfl⟩
    · split
      · exact ⟨List.length_set.trans List.length_replicate,rfl,rfl⟩
      · obtain ⟨length,duration,window⟩ := advancesAlike s start (Int.tdiv (timeSub now start) s.bucketDuration).toNat
        exact ⟨length,duration,window⟩

theorem ringAdvances (ring : Ring s start journal) {d : Int} (duration : s.bucketDuration = d) (positive : 0 < d) {steps : Nat}
    (range : steps * d < 2^63) : Ring (advances s start steps) (start + steps * d) journal := by
  induction steps with
  | zero =>
    rw [Nat.cast_zero, Int.zero_mul, Int.add_zero]
    exact ring
  | succ steps ih =>
    rw [Nat.cast_add, Int.add_mul, Nat.cast_one, Int.one_mul] at range ⊢
    have same : (advances s start steps).bucketDuration = d := (advancesAlike s start steps).duration.trans duration
    have product : d * ((steps : Int) + 1) = steps * d + d := by rw [Int.mul_add, Int.mul_one, Int.mul_comm]
    have nonneg : 0 ≤ (steps : Int) * d := Int.mul_nonneg (Int.natCast_nonneg _) (Int.le_of_lt positive)
    rw [← Int.add_assoc]
    have next := ringAdvance (ih (by omega)) (same ▸ positive) (show start + wrap64 (_ * ((steps : Int) + 1)) = _ by
      rw [same, product, wrap64Same (by omega) (by omega), ← Int.add_assoc])
    rw [same] at next
    exact next

theorem resetLength (s : Stats) (now : Int) : (reset s now).buckets.length = s.buckets.length :=
  List.length_set.trans List.length_replicate

theorem resetMade {j : Nat} {b : Bucket} (there : (reset s now).buckets[j]? = some b) :
    (j = 0 ∧ b = { start := some now }) ∨ (0 < j ∧ b = {}) := by
  obtain ⟨old,found⟩ : ∃ old, (List.replicate s.buckets.length ({} : Bucket))[0]? = some old :=
    ⟨_,List.getElem?_eq_getElem (by rw [List.length_replicate]; exact Nat.lt_of_le_of_lt (Nat.zero_le _) s.inside)⟩
  rcases Crew.atMove found there with ⟨zero,new⟩ | ⟨other,there⟩
  · exact .inl ⟨zero,new⟩
  · exact .inr ⟨Nat.pos_of_ne_zero other,List.eq_of_mem_replicate (List.mem_of_getElem? there)⟩

theorem resetApart (ring : Ring s start journal) {d : Int} (duration : s.bucketDuration = d) (positive : 0 < d)
    (gap : s.buckets.length * d ≤ now - start) {j : Nat} {b : Bucket} (there : (reset s now).buckets[j]? = some b)
    (inside : e ∈ journal) : age now s.bucketDuration e.time ≠ back (reset s now) j := by
  have before := ring.recent e inside
  rw [duration] at before ⊢
  have old : s.buckets.length ≤ age now d e.time := agePast positive (by omega)
  have below := behindBelow (reset s now).inside (foundInside there)
  unfold back
  rw [resetLength] at below ⊢
  omega

theorem ringReset (ring : Ring s start journal) {d : Int} (duration : s.bucketDuration = d) (positive : 0 < d)
    (gap : s.buckets.length * d ≤ now - start) : Ring (reset s now) now journal := by
  refine ⟨?_,?_,?_,?_⟩
  · intro e inside
    have before := ring.recent e inside
    have turns : 0 ≤ (s.buckets.length : Int) * d := Int.mul_nonneg (Int.natCast_nonneg _) (Int.le_of_lt positive)
    change e.time < now + s.bucketDuration
    rw [duration] at before ⊢
    omega
  · intro j b there t known
    rcases resetMade there with ⟨rfl,rfl⟩ | ⟨_,rfl⟩
    · rw [← Option.some.inj known, show back (reset s now) 0 = 0 from backCurrent (reset s now)]
      simp
    · cases known
  · intro j b there unknown
    rcases resetMade there with ⟨rfl,rfl⟩ | ⟨later,rfl⟩
    · cases unknown
    · refine ⟨?_,fun e inside => resetApart ring duration positive gap there inside⟩
      have inside := foundInside there
      unfold back behind
      rw [if_neg (by exact Nat.not_le.mpr later)]
      omega
  · intro column j b there
    refine Eq.trans ?_ (List.countP_eq_zero.mpr (fun e inside here => ?_)).symm
    · rcases resetMade there with ⟨_,rfl⟩ | ⟨_,rfl⟩ <;> cases column <;> rfl
    · simp only [Bool.and_eq_true, decide_eq_true_eq] at here
      exact resetApart ring duration positive gap there inside here.1

theorem changeFound {f : Bucket → Bucket} {j : Nat} {b : Bucket} (there : (change s f).buckets[j]? = some b) :
    ∃ old, s.buckets[j]? = some old ∧ b = if s.current = j then f old else old := by
  unfold change at there
  rw [List.getElem?_modify] at there
  obtain ⟨old,found,rfl⟩ := Option.map_eq_some_iff.mp there
  exact ⟨old,found,rfl⟩

theorem changeBack (s : Stats) (f : Bucket → Bucket) (j : Nat) : back (change s f) j = back s j := by
  unfold back change
  rw [List.length_modify]

theorem backZero {j : Nat} (inside : j < s.buckets.length) (zero : back s j = 0) : s.current = j := by
  have current := s.inside
  unfold back behind at zero
  split at zero <;> omega

theorem ringFirst (blank : ∀ b ∈ s.buckets, b = {}) (now : Int) :
    Ring (change s (fun b => { b with start := some now })) now [] := by
  refine ⟨fun _ inside => (nomatch inside),?_,?_,?_⟩
  · intro j b there t known
    obtain ⟨old,found,rfl⟩ := changeFound there
    rw [changeBack]
    split at known
    · rename_i here
      rw [← here, backCurrent, ← Option.some.inj known]
      simp
    · rw [blank old (List.mem_of_getElem? found)] at known
      cases known
  · intro j b there unknown
    obtain ⟨old,found,rfl⟩ := changeFound there
    rw [changeBack]
    split at unknown
    · cases unknown
    · rename_i other
      refine ⟨Nat.pos_of_ne_zero (fun zero => other (backZero (foundInside found) zero)),fun _ inside => nomatch inside⟩
  · intro column j b there
    obtain ⟨old,found,rfl⟩ := changeFound there
    rw [blank old (List.mem_of_getElem? found)]
    split <;> cases column <;> rfl

theorem changedStart (e : Event) (b : Bucket) (here : Prop) [Decidable here] :
    (if here then counted e b else b).start = b.start := by
  split
  · exact countedStart e b
  · rfl

theorem ringRecord (ring : Ring s start journal) (from_ : start ≤ e.time) (before : e.time < start + s.bucketDuration) :
    Ring (change s (counted e)) start (journal ++ [e]) := by
  have now : age start s.bucketDuration e.time = 0 := ageNow from_ before
  refine ⟨?_,?_,?_,?_⟩
  · intro x inside
    rcases List.mem_append.mp inside with old | new
    · exact ring.recent x old
    · rw [List.mem_singleton.mp new]
      exact before
  · intro j b there t known
    obtain ⟨old,found,rfl⟩ := changeFound there
    rw [changedStart] at known
    rw [changeBack]
    exact ring.starts j old found t known
  · intro j b there unknown
    obtain ⟨old,found,rfl⟩ := changeFound there
    rw [changedStart] at unknown
    obtain ⟨later,apart⟩ := ring.blank j old found unknown
    rw [changeBack]
    refine ⟨later,fun x inside => ?_⟩
    rcases List.mem_append.mp inside with old | new
    · exact apart x old
    · rw [List.mem_singleton.mp new]
      change age start s.bucketDuration e.time ≠ back s j
      omega
  · intro column j b there
    obtain ⟨old,found,rfl⟩ := changeFound there
    rw [changeBack, List.countP_append, List.countP_singleton]
    change _ = journal.countP (fun x => decide (age start s.bucketDuration x.time = back s j) && column.has x) +
      if (decide (age start s.bucketDuration e.time = back s j) && column.has e) = true then 1 else 0
    rw [← ring.counts column j old found, now]
    split
    · rename_i here
      rw [countCounted, ← here, backCurrent]
      cases column.has e <;> simp
    · rename_i other
      have later : ¬0 = back s j := fun zero => other (backZero (foundInside found) zero.symm)
      simp [later]

theorem rotateRing (ring : Ring s start journal) (set : s.currentStart = some start) (later : start ≤ now) {d : Int}
    (duration : s.bucketDuration = d) (positive : 0 < d) (fits : s.buckets.length * d < 2^63) :
    ∃ start', (rotateLocked s now).currentStart = some start' ∧ start' ≤ now ∧ now < start' + d ∧
      Ring (rotateLocked s now) start' journal := by
  have one : 1 * d ≤ s.buckets.length * d := Int.mul_le_mul_of_nonneg_right (by have := s.inside; omega) (Int.le_of_lt positive)
  obtain ⟨nonneg,most,same,long⟩ := elapsed later
  have low := Int.ediv_mul_le (timeSub now start) (show d ≠ 0 by omega)
  have high := Int.lt_ediv_add_one_mul_self (timeSub now start) positive
  have turns : 0 ≤ timeSub now start / d := Int.ediv_nonneg nonneg (Int.le_of_lt positive)
  rw [Int.add_mul, Int.one_mul] at high
  unfold rotateLocked
  rw [set]
  dsimp only
  rw [duration, Int.tdiv_eq_ediv_of_nonneg nonneg]
  by_cases within : timeSub now start < d
  · rw [if_pos within]
    exact ⟨start,set,later,by omega,ring⟩
  · rw [if_neg within]
    by_cases gap : (s.buckets.length : Int) ≤ timeSub now start / d
    · rw [if_pos gap]
      have product := Int.mul_le_mul_of_nonneg_right gap (Int.le_of_lt positive)
      exact ⟨now,rfl,Int.le_refl _,by omega,ringReset ring duration positive (by omega)⟩
    · rw [if_neg gap]
      have fewer : timeSub now start / d + 1 ≤ s.buckets.length := by omega
      have product := Int.mul_le_mul_of_nonneg_right fewer (Int.le_of_lt positive)
      rw [Int.add_mul, Int.one_mul] at product
      have short : timeSub now start = now - start := by omega
      have cast : ((timeSub now start / d).toNat : Int) = timeSub now start / d := Int.toNat_of_nonneg turns
      have moved := ringAdvances ring duration positive (show ((timeSub now start / d).toNat : Int) * d < 2^63 by rw [cast]; omega)
      rw [cast] at moved
      have value : wrap64 (d * (timeSub now start / d)) = timeSub now start / d * d := by
        rw [Int.mul_comm, wrap64Same (by omega) (by omega)]
      rw [value]
      exact ⟨_,rfl,by omega,by omega,⟨moved.recent,moved.starts,moved.blank,moved.counts⟩⟩

end

structure Sound (window : Int) (totals : WindowTotals) (journal : List Event) (now : Int) : Prop where
  counts : ∃ kept : Event → Bool, (∀ column : Column, column.total totals = journal.countP (fun e => kept e && column.has e)) ∧
    (∀ e ∈ journal, now - e.time ≤ window - bucketDuration window → kept e = true) ∧
    ∀ e ∈ journal, kept e = true → now - e.time ≤ window

section
variable {s : Stats} {start now window : Int} {journal : List Event}

def kept (s : Stats) (start cutoff : Int) (e : Event) : Bool :=
  decide (age start s.bucketDuration e.time < s.buckets.length) &&
    decide (cutoff ≤ start - age start s.bucketDuration e.time * s.bucketDuration)

theorem bucketOf {j k : Nat} (inside : j < s.buckets.length) :
    behind s.current s.buckets.length k = j ∧ k < s.buckets.length ↔ k = back s j := by
  constructor
  · intro ⟨here,below⟩
    unfold back
    rw [← here, behindTwice s.inside below]
  · intro same
    rw [same]
    exact ⟨behindTwice s.inside inside,behindBelow s.inside inside⟩

theorem ringShare (ring : Ring s start journal) (column : Column) (cutoff : Int) {j : Nat} {b : Bucket}
    (found : s.buckets[j]? = some b) :
    (if fresh cutoff b then column.count b else 0) =
      journal.countP (fun e => decide (behind s.current s.buckets.length (age start s.bucketDuration e.time) = 0 + j) &&
        (kept s start cutoff e && column.has e)) := by
  have regroup (e : Event) : (decide (behind s.current s.buckets.length (age start s.bucketDuration e.time) = 0 + j) &&
      (kept s start cutoff e && column.has e)) = true ↔ (decide (age start s.bucketDuration e.time = back s j) &&
        (decide (cutoff ≤ start - back s j * s.bucketDuration) && column.has e)) = true := by
    have here := @bucketOf s j (age start s.bucketDuration e.time) (foundInside found)
    unfold kept
    simp only [Nat.zero_add, Bool.and_eq_true, decide_eq_true_eq]
    constructor
    · intro ⟨at_,⟨below,young⟩,has⟩
      have same := here.mp ⟨at_,below⟩
      exact ⟨same,same ▸ young,has⟩
    · intro ⟨same,young,has⟩
      obtain ⟨at_,below⟩ := here.mpr same
      exact ⟨at_,⟨below,same ▸ young⟩,has⟩
  rw [List.countP_congr (fun e _ => regroup e)]
  have count := ring.counts column j b found
  cases known : b.start with
  | none =>
    obtain ⟨_,apart⟩ := ring.blank j b found known
    have never : fresh cutoff b = false := by simp [fresh,known]
    rw [never]
    refine (List.countP_eq_zero.mpr (fun e inside here => ?_)).symm
    simp only [Bool.and_eq_true, decide_eq_true_eq] at here
    exact apart e inside here.1
  | some t =>
    have value := ring.starts j b found t known
    have young : fresh cutoff b = decide (cutoff ≤ start - back s j * s.bucketDuration) := by
      unfold fresh
      rw [known, value]
      rfl
    rw [young, count]
    cases decide (cutoff ≤ start - back s j * s.bucketDuration) <;> simp

theorem ringTotals (ring : Ring s start journal) (column : Column) (cutoff : Int) :
    column.total (s.buckets.foldl (addUp cutoff) {}) = journal.countP (fun e => kept s start cutoff e && column.has e) := by
  have zero : column.total {} = 0 := by cases column <;> rfl
  rw [foldTotal, zero, Nat.zero_add, totalCount 0 (fun j b found => ringShare ring column cutoff found)]
  refine List.countP_congr (fun e _ => ?_)
  have below := @behindBelow s.current s.buckets.length (age start s.bucketDuration e.time) s.inside
  unfold kept
  simp only [Nat.zero_le, decide_true, Bool.true_and, Nat.zero_add, Bool.and_eq_true, decide_eq_true_eq]
  exact ⟨fun both => both.2,fun both => ⟨below both.1.1,both⟩⟩

theorem ringSound (ring : Ring s start journal) {d : Int} (duration : s.bucketDuration = d) (positive : 0 < d)
    (covers : window ≤ s.buckets.length * d) (split : bucketDuration window = d) (from_ : start ≤ now) :
    Sound window (s.buckets.foldl (addUp (now - window)) {}) journal now := by
  refine ⟨kept s start (now - window),fun column => ringTotals ring column _,?_,?_⟩
  · intro e inside young
    have recent := ring.recent e inside
    unfold kept
    rw [duration] at recent ⊢
    rw [split] at young
    obtain ⟨low,high⟩ := ageBounds positive recent
    have below : (age start d e.time : Int) * d < s.buckets.length * d := by omega
    have fewer : (age start d e.time : Int) < s.buckets.length := Int.lt_of_mul_lt_mul_right below (Int.le_of_lt positive)
    simp only [Bool.and_eq_true, decide_eq_true_eq]
    omega
  · intro e inside here
    have recent := ring.recent e inside
    unfold kept at here
    rw [duration] at recent here
    obtain ⟨low,high⟩ := ageBounds positive recent
    simp only [Bool.and_eq_true, decide_eq_true_eq] at here
    omega

end
end ReverseProxy.StatsWindow
