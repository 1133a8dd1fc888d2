import ReverseProxy.Binary64
import ReverseProxy.Crew
import ReverseProxy.GoValues
import ReverseProxy.Tally

/-! The requests that the rollout gate counts: obs.rollingCounter, a ring of buckets of
one second each, as NewMetrics makes it and Rolling5xx asks it. -/
namespace ReverseProxy.RollingCounter
open GoValues Binary64 Tally

structure RollingBucket where
  second : Int := 0
  total : Nat := 0
  errors : Nat := 0
  deriving DecidableEq, Repr

structure Counter where
  buckets : List RollingBucket
  window : Duration
  nonempty : 0 < buckets.length

/- The whole part of Duration.Seconds, for positive durations. -/
def wholeSeconds (d : Duration) : Int :=
  (float64 (float64 (Int.tdiv d second : Int) + float64 (float64 (Int.tmod d second : Int) / second))).floor

def atLeastOne (n : Int) : Int := if n < 1 then 1 else n

theorem atLeastOnePositive (n : Int) : 1 ≤ atLeastOne n := by
  unfold atLeastOne
  split <;> omega

def newRollingCounter (window : Duration) : Counter :=
  let window := if window ≤ 0 then 10 * second else window
  { buckets := List.replicate (atLeastOne (wholeSeconds window)).toNat {}
    window := window
    nonempty := by
      have one := atLeastOnePositive (wholeSeconds window)
      rw [List.length_replicate]
      omega }

structure Request where
  second : Int
  status : Int
  deriving DecidableEq, Repr

def isError (q : Request) : Bool := decide (500 ≤ q.status)

def counted (bucket : RollingBucket) (q : Request) : RollingBucket :=
  let bucket := if bucket.second ≠ q.second then { second := q.second } else bucket
  { bucket with total := bucket.total + 1, errors := if isError q then bucket.errors + 1 else bucket.errors }

def Counter.put (r : Counter) (i : Nat) (bucket : RollingBucket) : Counter where
  buckets := r.buckets.set i bucket
  window := r.window
  nonempty := by
    rw [List.length_set]
    exact r.nonempty

/- Record at a time of `q.second`; a negative index panics. -/
def record (r : Counter) (q : Request) : Option Counter :=
  let index := Int.tmod q.second r.buckets.length
  if index < 0 then none else (r.buckets[index.toNat]?).map (fun bucket => r.put index.toNat (counted bucket q))

def recordAll (r : Counter) : List Request → Option Counter
  | [] => some r
  | q :: rest => (record r q).bind (fun r => recordAll r rest)

def counts (r : Counter) (window : Duration) (now : Int) : Nat × Nat :=
  let window := if window ≤ 0 then r.window else window
  let maxAge := atLeastOne (wholeSeconds window)
  r.buckets.foldl (fun sums bucket =>
    if bucket.second = 0 then sums
    else if now - bucket.second < maxAge then (sums.1 + bucket.total,sums.2 + bucket.errors)
    else sums) (0,0)

/- Rolling5xx at a time, on the counter of NewMetrics. -/
def requestWindow : Counter := newRollingCounter (10 * second)

def rolling5xx (r : Counter) (now : Int) (window : Duration) : Nat × Nat := counts r window now

theorem wholeSecondsWhole {w : Int} (nonneg : 0 ≤ w) (small : w < 2^53) : wholeSeconds (w * second) = w := by
  have quotient : Int.tdiv (w * second) second = w := Int.mul_tdiv_cancel w (by decide)
  have rest : Int.tmod (w * second) second = 0 := Int.mul_tmod_left w second
  have zero : float64 (0 : Int) = (0 : Int) := float64Int (by decide)
  have exact_ : float64 w = w := float64Int (by rw [abs_of_nonneg nonneg]; exact small)
  unfold wholeSeconds
  rw [quotient, rest, zero, exact_]
  simp only [Int.cast_zero, zero_div]
  rw [Int.cast_zero] at zero
  rw [zero, add_zero, exact_, Rat.floor_intCast]

def ring : Counter := ⟨List.replicate 10 {},10 * second,by decide⟩

theorem requestRing : requestWindow = ring := by
  have ten := @wholeSecondsWhole 10 (by decide) (by decide)
  unfold requestWindow newRollingCounter ring
  simp only [if_neg (show ¬10 * second ≤ 0 by decide), ten]
  rfl

section
variable (r : Counter)

def slot (second : Int) : Nat := (Int.tmod second r.buckets.length).toNat

def live (maxAge now second : Int) : Bool := decide (second ≠ 0) && decide (now - second < maxAge)

def stamped (q : Request) : Bool := (r.buckets[slot r q.second]?).any (fun bucket => bucket.second == q.second)

def tally (p : Request → Bool) (journal : List Request) (i : Nat) (second : Int) : Nat :=
  journal.countP (fun q => decide (slot r q.second = i) && (decide (q.second = second) && p q))

structure Mirrors (journal : List Request) : Prop where
  total : ∀ i bucket, r.buckets[i]? = some bucket → bucket.total = tally r (fun _ => true) journal i bucket.second
  errors : ∀ i bucket, r.buckets[i]? = some bucket → bucket.errors = tally r isError journal i bucket.second
  latest : ∀ i bucket, r.buckets[i]? = some bucket → ∀ q ∈ journal, slot r q.second = i → q.second ≤ bucket.second
  taken : ∀ i bucket, r.buckets[i]? = some bucket → ∀ q ∈ journal, slot r q.second = i →
    ∃ p ∈ journal, slot r p.second = i ∧ p.second = bucket.second

end

section
variable {r : Counter} {journal : List Request} {q : Request} {bucket : RollingBucket}

theorem slotInside (second : Int) : slot r second < r.buckets.length := by
  have positive := r.nonempty
  have below := Int.tmod_lt_of_pos second (show 0 < (r.buckets.length : Int) by omega)
  unfold slot
  omega

theorem slotFound (second : Int) : ∃ bucket, r.buckets[slot r second]? = some bucket :=
  ⟨_,List.getElem?_eq_getElem (slotInside second)⟩

theorem recordSome (indexed : 0 ≤ Int.tmod q.second r.buckets.length) (found : r.buckets[slot r q.second]? = some bucket) :
    record r q = some (r.put (slot r q.second) (counted bucket q)) := by
  unfold record
  dsimp only
  rw [if_neg (Int.not_lt.mpr indexed)]
  exact congrArg (Option.map _) found

theorem mirrorsNil (blank : ∀ bucket ∈ r.buckets, bucket = {}) : Mirrors r [] where
  total i bucket found := by rw [blank bucket (List.mem_of_getElem? found)]; rfl
  errors i bucket found := by rw [blank bucket (List.mem_of_getElem? found)]; rfl
  latest _ _ _ _ inside := nomatch inside
  taken _ _ _ _ inside := nomatch inside

theorem tallyOther (p : Request → Bool) {i : Nat} (other : slot r q.second ≠ i) (second : Int) :
    tally r p (journal ++ [q]) i second = tally r p journal i second := by
  simp [tally,other]

theorem tallyHere (p : Request → Bool) :
    tally r p (journal ++ [q]) (slot r q.second) q.second = tally r p journal (slot r q.second) q.second + (p q).toNat := by
  cases holds : p q <;> simp [tally,holds]

theorem tallyFresh (mirrors : Mirrors r journal) (later : ∀ p ∈ journal, p.second ≤ q.second)
    (found : r.buckets[slot r q.second]? = some bucket) (other : bucket.second ≠ q.second) (p : Request → Bool) :
    tally r p journal (slot r q.second) q.second = 0 := by
  refine List.countP_eq_zero.mpr (fun x inside here => other ?_)
  simp only [Bool.and_eq_true, decide_eq_true_eq] at here
  obtain ⟨same,second,_⟩ := here
  have newest := mirrors.latest _ bucket found x inside same
  obtain ⟨y,there,_,stamp⟩ := mirrors.taken _ bucket found x inside same
  have old := later y there
  omega

theorem countedSecond (bucket : RollingBucket) (q : Request) : (counted bucket q).second = q.second := by
  unfold counted
  dsimp only
  split
  · rfl
  · rename_i same
    exact Decidable.not_not.mp same

theorem putSlot (i : Nat) (b : RollingBucket) : slot (r.put i b) = slot r := by
  funext t
  unfold slot Counter.put
  rw [List.length_set]

theorem putTally (i : Nat) (b : RollingBucket) : tally (r.put i b) = tally r := by
  funext p journal j second
  simp only [tally, putSlot]

theorem countedTallies (mirrors : Mirrors r journal) (later : ∀ p ∈ journal, p.second ≤ q.second)
    (found : r.buckets[slot r q.second]? = some bucket) :
    (counted bucket q).total = tally r (fun _ => true) (journal ++ [q]) (slot r q.second) q.second ∧
      (counted bucket q).errors = tally r isError (journal ++ [q]) (slot r q.second) q.second := by
  rw [tallyHere, tallyHere]
  by_cases stamp : bucket.second = q.second
  · have total := mirrors.total _ bucket found
    have errors := mirrors.errors _ bucket found
    rw [stamp] at total errors
    rw [← total, ← errors]
    unfold counted
    rw [if_neg (by simp [stamp])]
    cases isError q <;> exact ⟨rfl,rfl⟩
  · rw [tallyFresh mirrors later found stamp, tallyFresh mirrors later found stamp]
    unfold counted
    rw [if_pos stamp]
    cases isError q <;> exact ⟨rfl,rfl⟩

theorem putTallies {p : Request → Bool} {value : RollingBucket → Nat}
    (before : ∀ i b, r.buckets[i]? = some b → value b = tally r p journal i b.second)
    (found : r.buckets[slot r q.second]? = some bucket)
    (here : value (counted bucket q) = tally r p (journal ++ [q]) (slot r q.second) q.second) {i : Nat} {b : RollingBucket}
    (there : (r.put (slot r q.second) (counted bucket q)).buckets[i]? = some b) :
    value b = tally (r.put (slot r q.second) (counted bucket q)) p (journal ++ [q]) i b.second := by
  rw [putTally]
  rcases Crew.atMove found there with ⟨rfl,rfl⟩ | ⟨other,there⟩
  · rw [countedSecond]
    exact here
  · rw [tallyOther _ (Ne.symm other)]
    exact before i b there

theorem mirrorsRecord (mirrors : Mirrors r journal) (later : ∀ p ∈ journal, p.second ≤ q.second)
    (found : r.buckets[slot r q.second]? = some bucket) :
    Mirrors (r.put (slot r q.second) (counted bucket q)) (journal ++ [q]) := by
  obtain ⟨totals,errors⟩ := countedTallies mirrors later found
  refine ⟨fun i b there => putTallies mirrors.total found totals there,
    fun i b there => putTallies mirrors.errors found errors there,?_,?_⟩
  · intro i b there x inside
    rw [putSlot]
    intro index
    rcases Crew.atMove found there with ⟨rfl,rfl⟩ | ⟨other,there⟩
    · rw [countedSecond]
      rcases List.mem_append.mp inside with old | new
      · exact later x old
      · rw [List.mem_singleton.mp new]
    · rcases List.mem_append.mp inside with old | new
      · exact mirrors.latest i b there x old index
      · rw [List.mem_singleton.mp new] at index
        exact absurd index.symm other
  · intro i b there x inside
    rw [putSlot]
    intro index
    rcases Crew.atMove found there with ⟨rfl,rfl⟩ | ⟨other,there⟩
    · exact ⟨q,List.mem_append_right _ (List.mem_singleton_self q),rfl,(countedSecond bucket q).symm⟩
    · rcases List.mem_append.mp inside with old | new
      · obtain ⟨p,there,stamp⟩ := mirrors.taken i b there x old index
        exact ⟨p,List.mem_append_left _ there,stamp⟩
      · rw [List.mem_singleton.mp new] at index
        exact absurd index.symm other

theorem recordAllMirrors {requests : List Request} (mirrors : Mirrors r journal)
    (ordered : (journal ++ requests).Pairwise (fun p q => p.second ≤ q.second))
    (indexed : ∀ q ∈ requests, 0 ≤ Int.tmod q.second r.buckets.length) :
    ∃ r', recordAll r requests = some r' ∧ r'.buckets.length = r.buckets.length ∧ Mirrors r' (journal ++ requests) := by
  induction requests generalizing r journal with
  | nil =>
    rw [List.append_nil]
    exact ⟨r,rfl,rfl,mirrors⟩
  | cons q rest ih =>
    obtain ⟨bucket,found⟩ := @slotFound r q.second
    have later : ∀ p ∈ journal, p.second ≤ q.second := fun p inside =>
      (List.pairwise_append.mp ordered).2.2 p inside q List.mem_cons_self
    have length : (r.put (slot r q.second) (counted bucket q)).buckets.length = r.buckets.length := List.length_set
    rw [List.append_cons] at ordered ⊢
    obtain ⟨r',done,size,next⟩ := ih (mirrorsRecord mirrors later found) ordered
      (fun p inside => length ▸ indexed p (List.mem_cons_of_mem q inside))
    refine ⟨r',?_,size.trans length,next⟩
    rw [recordAll, recordSome (indexed q List.mem_cons_self) found]
    exact done

theorem recordAllIndexed {requests : List Request} {r' : Counter} (done : recordAll r requests = some r') :
    ∀ q ∈ requests, 0 ≤ Int.tmod q.second r.buckets.length := by
  induction requests generalizing r with
  | nil => exact fun q inside => nomatch inside
  | cons q rest ih =>
    obtain ⟨mid,first,after⟩ := Option.bind_eq_some_iff.mp done
    unfold record at first
    dsimp only at first
    split at first
    · cases first
    · rename_i index
      obtain ⟨bucket,_,rfl⟩ := Option.map_eq_some_iff.mp first
      intro p inside
      cases inside with
      | head => exact Int.not_lt.mp index
      | tail _ inside =>
        have tail := ih after p inside
        unfold Counter.put at tail
        rwa [List.length_set] at tail

theorem foldTotals (buckets : List RollingBucket) (maxAge now : Int) (sums : Nat × Nat) :
    buckets.foldl (fun sums bucket =>
      if bucket.second = 0 then sums
      else if now - bucket.second < maxAge then (sums.1 + bucket.total,sums.2 + bucket.errors)
      else sums) sums =
    (sums.1 + total (fun b => if live maxAge now b.second then b.total else 0) buckets,
      sums.2 + total (fun b => if live maxAge now b.second then b.errors else 0) buckets) := by
  induction buckets generalizing sums with
  | nil => rfl
  | cons bucket rest ih =>
    rw [List.foldl_cons, ih, total, total]
    by_cases zero : bucket.second = 0
    · simp [live,zero]
    · by_cases young : now - bucket.second < maxAge
      · simp [live,zero,young,Nat.add_assoc]
      · simp [live,zero,young]

theorem bucketShare {p : Request → Bool} {i n : Nat} (found : r.buckets[i]? = some bucket)
    (value : n = tally r p journal i bucket.second) (maxAge now : Int) :
    (if live maxAge now bucket.second then n else 0) =
      journal.countP (fun q => decide (slot r q.second = 0 + i) && (live maxAge now q.second && stamped r q && p q)) := by
  have stamp (q : Request) (here : slot r q.second = i) : stamped r q = (bucket.second == q.second) := by
    unfold stamped
    rw [here, found]
    rfl
  rw [value, Nat.zero_add]
  cases young : live maxAge now bucket.second with
  | true =>
    refine List.countP_congr (fun q _ => ?_)
    by_cases here : slot r q.second = i
    · rw [stamp q here]
      by_cases same : q.second = bucket.second
      · simp [same,young]
      · simp [same,Ne.symm same]
    · simp [here]
  | false =>
    refine (List.countP_eq_zero.mpr (fun q _ seen => ?_)).symm
    simp only [Bool.and_eq_true, decide_eq_true_eq] at seen
    obtain ⟨here,⟨old,stamps⟩,_⟩ := seen
    rw [stamp q here, beq_iff_eq] at stamps
    rw [← stamps, young] at old
    cases old

theorem countsSeen (mirrors : Mirrors r journal) {w : Int} (whole : 1 ≤ w) (small : w < 2^53) (now : Int) :
    counts r (w * second) now =
      (journal.countP (fun q => live w now q.second && stamped r q),
        journal.countP (fun q => live w now q.second && stamped r q && isError q)) := by
  have positive : ¬w * second ≤ 0 := by
    unfold second millisecond
    omega
  have maxAge : atLeastOne w = w := if_neg (by omega)
  have within (q : Request) : slot r q.second < r.buckets.length := slotInside q.second
  unfold counts
  dsimp only
  rw [if_neg positive, wholeSecondsWhole (by omega) small, maxAge, foldTotals,
    totalCount 0 (fun i b found => bucketShare found (mirrors.total i b found) w now),
    totalCount 0 (fun i b found => bucketShare found (mirrors.errors i b found) w now)]
  simp [within]

theorem stampedIff (mirrors : Mirrors r journal) (inside : q ∈ journal) :
    stamped r q = true ↔ ∀ p ∈ journal, q.second < p.second → slot r p.second ≠ slot r q.second := by
  obtain ⟨bucket,found⟩ := @slotFound r q.second
  have newest := mirrors.latest _ bucket found
  unfold stamped
  rw [found, Option.any_some, beq_iff_eq]
  constructor
  · intro stamp p there later same
    have low := newest p there same
    omega
  · intro alone
    obtain ⟨p,there,same,stamp⟩ := mirrors.taken _ bucket found q inside rfl
    have low := newest q inside rfl
    rcases Int.lt_or_eq_of_le low with later | equal
    · exact absurd same (alone p there (stamp ▸ later))
    · exact equal.symm

end

def inWindow (w now : Int) (q : Request) : Bool := decide (now - q.second < w)

def lastRequests (w now : Int) (requests : List Request) : Nat × Nat :=
  (requests.countP (inWindow w now),requests.countP (fun q => inWindow w now q && isError q))

/- Every request has an index, and one of the window is neither at second 0 nor followed
by one of a later second with the same remainder by 10. -/
structure Kept (w now : Int) (requests : List Request) : Prop where
  indexed : ∀ q ∈ requests, 0 ≤ Int.tmod q.second 10
  nonzero : ∀ q ∈ requests, now - q.second < w → q.second ≠ 0
  alone : ∀ q ∈ requests, now - q.second < w → ∀ p ∈ requests, q.second < p.second →
    Int.tmod p.second 10 ≠ Int.tmod q.second 10

section
variable {r : Counter} {requests : List Request} {w now : Int}

theorem countsAll (mirrors : Mirrors r requests) (whole : 1 ≤ w) (small : w < 2^53) :
    counts r (w * second) now = lastRequests w now requests ↔
      ∀ q ∈ requests, inWindow w now q = true → (decide (q.second ≠ 0) && stamped r q) = true := by
  have regroup : (fun q : Request => live w now q.second && stamped r q) =
      fun q => inWindow w now q && (decide (q.second ≠ 0) && stamped r q) := by
    funext q
    unfold live inWindow
    rw [Bool.and_comm (decide (q.second ≠ 0)), Bool.and_assoc]
  rw [countsSeen mirrors whole small]
  constructor
  · intro same
    refine countAll.mp (Eq.trans ?_ (congrArg Prod.fst same))
    rw [regroup]
  · intro all
    refine Prod.ext ?_ ?_
    · rw [regroup]
      exact countAll.mpr all
    · refine List.countP_congr (fun q inside => ?_)
      have here := all q inside
      rw [congrFun regroup q]
      cases young : inWindow w now q with
      | false => simp
      | true =>
        rw [here young]
        exact Iff.rfl

theorem ringMirrors : Mirrors ring [] := mirrorsNil (fun _ inside => List.eq_of_mem_replicate inside)

theorem slotSame (size : r.buckets.length = 10) {s t : Int} (sIndexed : 0 ≤ Int.tmod s 10) (tIndexed : 0 ≤ Int.tmod t 10) :
    slot r s = slot r t ↔ Int.tmod s 10 = Int.tmod t 10 := by
  unfold slot
  rw [size]
  change (Int.tmod s 10).toNat = (Int.tmod t 10).toNat ↔ _
  omega

theorem keptIff (size : r.buckets.length = 10) (mirrors : Mirrors r requests)
    (indexed : ∀ q ∈ requests, 0 ≤ Int.tmod q.second 10) :
    (∀ q ∈ requests, inWindow w now q = true → (decide (q.second ≠ 0) && stamped r q) = true) ↔ Kept w now requests := by
  have each (q : Request) (inside : q ∈ requests) : (decide (q.second ≠ 0) && stamped r q) = true ↔
      q.second ≠ 0 ∧ ∀ p ∈ requests, q.second < p.second → Int.tmod p.second 10 ≠ Int.tmod q.second 10 := by
    rw [Bool.and_eq_true, decide_eq_true_eq, stampedIff mirrors inside]
    refine and_congr_right (fun _ => ?_)
    refine ⟨fun alone p there later same => ?_,fun alone p there later same => ?_⟩
    · exact alone p there later ((slotSame size (indexed p there) (indexed q inside)).mpr same)
    · exact alone p there later ((slotSame size (indexed p there) (indexed q inside)).mp same)
  constructor
  · intro all
    exact ⟨indexed,fun q inside young => ((each q inside).mp (all q inside (decide_eq_true young))).1,
      fun q inside young => ((each q inside).mp (all q inside (decide_eq_true young))).2⟩
  · intro kept q inside young
    have young := of_decide_eq_true young
    exact (each q inside).mpr ⟨kept.nonzero q inside young,kept.alone q inside young⟩

theorem keptWithin (short : w ≤ 10) (positive : ∀ q ∈ requests, 0 < q.second) (past : ∀ q ∈ requests, q.second ≤ now) :
    Kept w now requests where
  indexed q inside := Int.tmod_nonneg 10 (Int.le_of_lt (positive q inside))
  nonzero q inside _ := by
    have := positive q inside
    omega
  alone q inside young p there later same := by
    have first := positive q inside
    have last := past p there
    rw [Int.tmod_eq_emod_of_nonneg (by omega), Int.tmod_eq_emod_of_nonneg (by omega)] at same
    omega

end

theorem rollingExact {w : Int} (whole : 1 ≤ w) (range : w * second < 2^63) {requests : List Request}
    (ordered : requests.Pairwise (fun p q => p.second ≤ q.second)) (now : Int) :
    (∃ r, recordAll requestWindow requests = some r ∧ rolling5xx r now (w * second) = lastRequests w now requests) ↔
      Kept w now requests := by
  have small : w < 2^53 := by
    unfold second millisecond at range
    omega
  have goes (indexed : ∀ q ∈ requests, 0 ≤ Int.tmod q.second 10) : ∃ r, recordAll requestWindow requests = some r ∧
      r.buckets.length = 10 ∧ Mirrors r requests := by
    rw [requestRing]
    exact recordAllMirrors ringMirrors ordered indexed
  constructor
  · intro ⟨r,done,same⟩
    have indexed : ∀ q ∈ requests, 0 ≤ Int.tmod q.second 10 := recordAllIndexed (requestRing ▸ done)
    obtain ⟨r',done',size,mirrors⟩ := goes indexed
    cases Option.some.inj (done.symm.trans done')
    exact (keptIff size mirrors indexed).mp ((countsAll mirrors whole small).mp same)
  · intro kept
    obtain ⟨r,done,size,mirrors⟩ := goes kept.indexed
    exact ⟨r,done,(countsAll mirrors whole small).mpr ((keptIff size mirrors kept.indexed).mpr kept)⟩

theorem tenSeconds : ∃ r, recordAll requestWindow [⟨101,200⟩,⟨105,503⟩,⟨109,200⟩] = some r ∧
    rolling5xx r 110 (10 * second) = lastRequests 10 110 [⟨101,200⟩,⟨105,503⟩,⟨109,200⟩] :=
  (rollingExact (by decide) (by decide) (by decide) 110).mpr (keptWithin (by decide) (by decide) (by decide))

theorem elevenSeconds : ∃ r, recordAll requestWindow [⟨100,500⟩,⟨110,200⟩] = some r ∧
    rolling5xx r 110 (11 * second) = (1,0) ∧ lastRequests 11 110 [⟨100,500⟩,⟨110,200⟩] = (2,1) := by
  have eleven := @wholeSecondsWhole 11 (by decide) (by decide)
  rw [requestRing]
  refine ⟨_,rfl,?_,by decide⟩
  unfold rolling5xx counts
  simp only [if_neg (show ¬11 * second ≤ 0 by decide), eleven]
  rfl

end ReverseProxy.RollingCounter
