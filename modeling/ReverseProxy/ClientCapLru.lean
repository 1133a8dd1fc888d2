import ReverseProxy.Recency
import ReverseProxy.RetryBudget
import ReverseProxy.Transition

/-! retry.ClientCap with both of its structures: the map from keys to list elements and
the list in its order of use. An element, its bucket and the bucket's budget are made
together, so that one number stands for all three. -/
namespace ReverseProxy.ClientCapLru
open FiniteMap Recency
open RetryBudget (Budget)
open Transition (Runs anyStep)

structure ClientBucket where
  key : String
  budget : Budget
  deriving DecidableEq, Repr

/- `heap` has every bucket that was ever made; `order` is the list, its front first. -/
structure Cap where
  percent : Int
  burst : Int
  lruSize : Int
  items : Map String Nat := Map.empty
  order : List Nat := []
  heap : List ClientBucket := []

def newClientCap (percent burst lruSize : Int) : Cap := { percent := percent, burst := burst, lruSize := lruSize }

def keyAt (heap : List ClientBucket) (p : Nat) : String := (heap[p]?.map ClientBucket.key).getD ""

def anonymousClient : String := "anonymous"

def named (key : String) : String := if key = "" then anonymousClient else key

def evict (c : Cap) : Cap :=
  if 0 < c.lruSize ∧ c.lruSize < c.order.length then
    match c.order.getLast? with
    | none => c
    | some oldest => { c with order := c.order.dropLast, items := c.items.erase (keyAt c.heap oldest) }
  else c

def pushed (c : Cap) (key : String) : Cap :=
  { c with
    heap := c.heap ++ [⟨key,Budget.new c.percent c.burst⟩]
    order := c.heap.length :: c.order
    items := c.items.insert key c.heap.length }

def bucket (c : Cap) (given : String) : Nat × Cap :=
  match c.items.get (named given) with
  | some element => (element,{ c with order := element :: c.order.erase element })
  | none => (c.heap.length,evict (pushed c (named given)))

structure Call where
  key : String
  budget : Nat
  tokens : Int
  deriving DecidableEq, Repr

structure State where
  cap : Cap
  calls : List Call := []

inductive Action where
  | bucket (key : String)
  | recordSuccess (p : Nat)
  | consume (p : Nat)

def tokensAt (heap : List ClientBucket) (p : Nat) : Int := (heap[p]?.map (fun b => b.budget.tokens)).getD 0

def use (c : Cap) (p : Nat) (f : Budget → Budget) : Cap :=
  { c with heap := c.heap.modify p (fun b => { b with budget := f b.budget }) }

def step (s : State) : Action → Option State
  | .bucket key =>
    let (p,cap) := bucket s.cap key
    some ⟨cap,⟨named key,p,tokensAt cap.heap p⟩ :: s.calls⟩
  | .recordSuccess p => some { s with cap := use s.cap p Budget.recordSuccess }
  | .consume p => some { s with cap := use s.cap p (fun b => b.consume.2) }

def keys (c : Cap) : List String := c.order.map (keyAt c.heap)

def history (s : State) : List String := s.calls.map Call.key

def distinct (calls : List Call) : Nat := (recent (calls.map Call.key)).length

structure New (call : Call) (older : List Call) : Prop where
  other : ∀ c ∈ older, c.budget ≠ call.budget
  empty : call.tokens = 0

/- The answer to a call after earlier ones: a bucket of its own to the first of a key, and
after that the one of the last call for the key while fewer than n other keys came between. -/
structure Fair (n : Nat) (call : Call) (older : List Call) : Prop where
  first : (∀ c ∈ older, c.key ≠ call.key) → New call older
  same : ∀ between last before, older = between ++ last :: before → last.key = call.key →
    (∀ c ∈ between, c.key ≠ call.key) → (call.budget = last.budget ↔ distinct between < n)
  again : ∀ between last before, older = between ++ last :: before → last.key = call.key →
    (∀ c ∈ between, c.key ≠ call.key) → n ≤ distinct between → New call older

structure Lru (n : Nat) (s : State) : Prop where
  unique : (keys s.cap).Nodup
  same : ∀ key, (s.cap.items.get key).isSome = true ↔ key ∈ keys s.cap
  bounded : (keys s.cap).length = min (recent (history s)).length n
  recency : keys s.cap = (recent (history s)).take n
  fair : ∀ newer call older, s.calls = newer ++ call :: older → Fair n call older
  pairs : ∀ newer later between earlier before, s.calls = newer ++ later :: (between ++ earlier :: before) →
    later.key = earlier.key → (later.budget = earlier.budget ↔
      ∀ gap ∈ between.splitOnP (fun c => c.key = earlier.key), distinct gap < n)

structure Linked (c : Cap) : Prop where
  order : c.order.Nodup
  inside : ∀ p ∈ c.order, p < c.heap.length
  items : ∀ key p, c.items.get key = some p ↔ p ∈ c.order ∧ keyAt c.heap p = key

structure Kept (n : Nat) (s : State) : Prop where
  size : s.cap.lruSize = n
  linked : Linked s.cap
  recency : keys s.cap = (recent (history s)).take n
  latest : ∀ key p, s.cap.items.get key = some p → (s.calls.find? (fun c => c.key = key)).map Call.budget = some p
  made : ∀ c ∈ s.calls, c.budget < s.cap.heap.length
  fair : ∀ newer call older, s.calls = newer ++ call :: older → Fair n call older

section
variable {c : Cap} {key : String} {p q : Nat}

theorem keyAtOld {heap : List ClientBucket} (old : p < heap.length) (new : ClientBucket) : keyAt (heap ++ [new]) p = keyAt heap p := by
  unfold keyAt
  rw [List.getElem?_append_left old]

theorem keyAtNew (heap : List ClientBucket) (new : ClientBucket) : keyAt (heap ++ [new]) heap.length = new.key := by
  unfold keyAt
  rw [List.getElem?_concat_length]
  rfl

theorem keyAtUse (c : Cap) (p q : Nat) (f : Budget → Budget) : keyAt (use c p f).heap q = keyAt c.heap q := by
  unfold keyAt use
  rw [List.getElem?_modify]
  cases c.heap[q]? with
  | none => rfl
  | some b =>
    simp only [Option.map_some]
    split <;> rfl

theorem useKeys (c : Cap) (p : Nat) (f : Budget → Budget) : keys (use c p f) = keys c := by
  unfold keys
  exact List.map_congr_left (fun q _ => keyAtUse c p q f)

theorem Linked.apart (linked : Linked c) (pIn : p ∈ c.order) (qIn : q ∈ c.order)
    (same : keyAt c.heap p = keyAt c.heap q) : p = q := by
  have found := (linked.items _ p).mpr ⟨pIn,rfl⟩
  have other := (linked.items _ q).mpr ⟨qIn,same.symm⟩
  exact Option.some.inj (found.symm.trans other)

theorem Linked.listed (linked : Linked c) : (c.items.get key).isSome = true ↔ key ∈ keys c := by
  unfold keys
  rw [Option.isSome_iff_exists, List.mem_map]
  exact exists_congr (fun p => linked.items key p)

theorem Linked.use (linked : Linked c) (p : Nat) (f : Budget → Budget) : Linked (use c p f) where
  order := linked.order
  inside q there := by
    unfold ClientCapLru.use
    rw [List.length_modify]
    exact linked.inside q there
  items key q := by
    rw [keyAtUse]
    exact linked.items key q

theorem Linked.front (linked : Linked c) (there : p ∈ c.order) : Linked { c with order := p :: c.order.erase p } where
  order := List.nodup_cons.mpr ⟨linked.order.not_mem_erase,linked.order.erase p⟩
  inside q inside := by
    rcases List.mem_cons.mp inside with rfl | rest
    · exact linked.inside q there
    · exact linked.inside q (List.mem_of_mem_erase rest)
  items key q := by
    rw [linked.items key q, List.mem_cons, linked.order.mem_erase_iff]
    refine and_congr_left (fun _ => ?_)
    by_cases here : q = p
    · simp [here,there]
    · simp [here]

theorem frontKeys (linked : Linked c) (there : p ∈ c.order) :
    keys { c with order := p :: c.order.erase p } = keyAt c.heap p :: (keys c).filter (fun x => x ≠ keyAt c.heap p) := by
  unfold keys
  rw [List.map_cons, List.filter_map, linked.order.erase_eq_filter]
  refine congrArg (fun rest => keyAt c.heap p :: rest.map (keyAt c.heap)) (List.filter_congr (fun q inside => ?_))
  have same : keyAt c.heap q = keyAt c.heap p ↔ q = p := ⟨linked.apart inside there,fun eq => eq ▸ rfl⟩
  by_cases here : q = p <;> simp [same,here]

theorem Linked.pushed (linked : Linked c) (absent : c.items.get key = none) : Linked (pushed c key) := by
  have old (q : Nat) (inside : q ∈ c.order) : keyAt (ClientCapLru.pushed c key).heap q = keyAt c.heap q :=
    keyAtOld (linked.inside q inside) _
  have new : keyAt (ClientCapLru.pushed c key).heap c.heap.length = key := keyAtNew c.heap _
  have fresh : c.heap.length ∉ c.order := fun inside => Nat.lt_irrefl _ (linked.inside _ inside)
  refine ⟨List.nodup_cons.mpr ⟨fresh,linked.order⟩,fun q inside => ?_,fun k q => ?_⟩
  · unfold ClientCapLru.pushed
    rw [List.length_append, List.length_singleton]
    rcases List.mem_cons.mp inside with rfl | rest
    · omega
    · have below := linked.inside q rest
      omega
  · change (c.items.insert key c.heap.length).get k = some q ↔ q ∈ c.heap.length :: c.order ∧ _
    rw [Map.getInsert, List.mem_cons]
    constructor
    · intro found
      split at found
      · rename_i here
        cases found
        exact ⟨.inl rfl,here ▸ new⟩
      · obtain ⟨inside,same⟩ := (linked.items k q).mp found
        exact ⟨.inr inside,(old q inside).trans same⟩
    · intro ⟨inside,same⟩
      rcases inside with rfl | inside
      · rw [if_pos (same.symm.trans new)]
      · rw [old q inside] at same
        have found := (linked.items k q).mpr ⟨inside,same⟩
        rw [if_neg (fun here => by rw [here, absent] at found; cases found)]
        exact found

theorem pushedKeys (linked : Linked c) : keys (pushed c key) = key :: keys c := by
  unfold keys
  change keyAt (pushed c key).heap c.heap.length :: c.order.map (keyAt (pushed c key).heap) = _
  rw [show keyAt (pushed c key).heap c.heap.length = key from keyAtNew c.heap _]
  exact congrArg (key :: ·) (List.map_congr_left (fun q inside => keyAtOld (linked.inside q inside) _))

inductive Evicted (c : Cap) : Cap → Prop
  | room (room : ¬(0 < c.lruSize ∧ c.lruSize < c.order.length)) : Evicted c c
  | dropped {oldest : Nat} (full : 0 < c.lruSize ∧ c.lruSize < c.order.length) (whole : c.order = c.order.dropLast ++ [oldest]) :
    Evicted c { c with order := c.order.dropLast, items := c.items.erase (keyAt c.heap oldest) }

theorem evictEvicted (c : Cap) : Evicted c (evict c) := by
  unfold evict
  split
  · rename_i full
    cases last : c.order.getLast? with
    | none =>
      rw [List.getLast?_eq_none_iff.mp last] at full
      simp only [List.length_nil] at full
      omega
    | some oldest => exact .dropped full (List.dropLast_append_getLast? oldest last).symm
  · rename_i room
    exact .room room

theorem dropLastMember {order : List Nat} {oldest : Nat} (unique : order.Nodup) (whole : order = order.dropLast ++ [oldest]) :
    q ∈ order.dropLast ↔ q ∈ order ∧ q ≠ oldest := by
  have split := unique
  rw [whole] at split
  obtain ⟨_,_,apart⟩ := List.nodup_append.mp split
  constructor
  · intro early
    exact ⟨(List.dropLast_sublist order).subset early,apart q early oldest (List.mem_singleton_self oldest)⟩
  · intro ⟨inside,other⟩
    rw [whole] at inside
    exact (List.mem_append.mp inside).resolve_right (fun same => other (List.mem_singleton.mp same))

theorem Linked.evict (linked : Linked c) : Linked (evict c) := by
  have evicted := evictEvicted c
  generalize ClientCapLru.evict c = d at evicted ⊢
  cases evicted with
  | room => exact linked
  | @dropped oldest _ whole =>
    have there : oldest ∈ c.order := by
      rw [whole]
      exact List.mem_append_right _ (List.mem_singleton_self oldest)
    refine ⟨(List.dropLast_sublist c.order).nodup linked.order,
      fun q inside => linked.inside q ((List.dropLast_sublist c.order).subset inside),fun k q => ?_⟩
    change (c.items.erase (keyAt c.heap oldest)).get k = some q ↔ q ∈ c.order.dropLast ∧ keyAt c.heap q = k
    rw [Map.getErase, dropLastMember linked.order whole]
    constructor
    · intro found
      split at found
      · cases found
      · rename_i other
        obtain ⟨inside,same⟩ := (linked.items k q).mp found
        exact ⟨⟨inside,fun eq => other (by rw [← same, eq])⟩,same⟩
    · intro ⟨⟨inside,other⟩,same⟩
      rw [if_neg (fun here => other (linked.apart inside there (same.trans here)))]
      exact (linked.items k q).mpr ⟨inside,same⟩

theorem evictSame (c : Cap) : (evict c).heap = c.heap ∧ (evict c).lruSize = c.lruSize ∧
    (evict c).percent = c.percent ∧ (evict c).burst = c.burst := by
  have evicted := evictEvicted c
  generalize evict c = d at evicted ⊢
  cases evicted <;> exact ⟨rfl,rfl,rfl,rfl⟩

theorem evictOrder (c : Cap) :
    (evict c).order = if 0 < c.lruSize ∧ c.lruSize < c.order.length then c.order.dropLast else c.order := by
  have evicted := evictEvicted c
  generalize evict c = d at evicted ⊢
  cases evicted with
  | room room => rw [if_neg room]
  | dropped full _ => rw [if_pos full]

theorem evictKeys (c : Cap) : keys (evict c) = if 0 < c.lruSize ∧ c.lruSize < c.order.length then (keys c).dropLast else keys c := by
  unfold keys
  rw [evictOrder, (evictSame c).1]
  split
  · exact List.map_dropLast
  · rfl

theorem evictSubset (c : Cap) (inside : q ∈ (evict c).order) : q ∈ c.order := by
  rw [evictOrder] at inside
  split at inside
  · exact (List.dropLast_sublist c.order).subset inside
  · exact inside

end

section
variable {n : Nat} {s : State} {k : String} {p : Nat}

theorem pairsFair {calls : List Call} (fair : ∀ newer call older, calls = newer ++ call :: older → Fair n call older)
    {newer between before : List Call} {later earlier : Call} (whole : calls = newer ++ later :: (between ++ earlier :: before))
    (same : later.key = earlier.key) : later.budget = earlier.budget ↔
      ∀ gap ∈ between.splitOnP (fun c => c.key = earlier.key), distinct gap < n := by
  -- by the calls for the key that come between, the latest of them first
  induction size : between.length using Nat.strongRecOn generalizing newer between later with
  | ind length ih =>
    have now := fair newer later _ whole
    cases found : between.find? (fun c => c.key = earlier.key) with
    | none =>
      have apart : ∀ c ∈ between, decide (c.key = earlier.key) = false := fun c inside =>
        Bool.eq_false_iff.mpr (List.find?_eq_none.mp found c inside)
      rw [List.splitOnP_eq_singleton apart, List.forall_mem_singleton]
      exact now.same between earlier before rfl same.symm (fun c inside => by simpa [same] using apart c inside)
    | some middle =>
      obtain ⟨own,gap,rest,rfl,apart⟩ := List.find?_eq_some_iff_append.mp found
      have outside : ∀ c ∈ gap, decide (c.key = earlier.key) = false := fun c inside => by simpa using apart c inside
      rw [List.append_assoc, List.cons_append] at whole now
      rw [List.splitOnP_append_cons_of_forall_mem outside middle own, List.forall_mem_cons]
      have own : middle.key = earlier.key := of_decide_eq_true own
      have others : ∀ c ∈ gap, c.key ≠ later.key := fun c inside => by simpa [same] using outside c inside
      have first := now.same gap middle _ rfl (own.trans same.symm) others
      by_cases few : distinct gap < n
      · have moved : calls = (newer ++ later :: gap) ++ middle :: (rest ++ earlier :: before) := by simp [whole]
        have shorter : rest.length < length := by
          rw [← size, List.length_append, List.length_cons]
          omega
        have rest := ih rest.length shorter moved own rfl
        rw [first.mpr few, rest]
        exact ⟨fun all => ⟨few,all⟩,fun all => all.2⟩
      · have new := now.again gap middle _ rfl (own.trans same.symm) others (Nat.not_lt.mp few)
        have older : earlier ∈ gap ++ middle :: (rest ++ earlier :: before) := by simp
        exact ⟨fun eq => absurd eq.symm (new.other earlier older),fun all => absurd all.1 few⟩

theorem Kept.lru (kept : Kept n s) : Lru n s where
  unique := by
    rw [kept.recency]
    exact (List.take_sublist _ _).nodup (recentNodup _)
  same _ := kept.linked.listed
  bounded := by rw [kept.recency, List.length_take, Nat.min_comm]
  recency := kept.recency
  fair := kept.fair
  pairs _ _ _ _ _ whole same := pairsFair kept.fair whole same

theorem useKept (kept : Kept n s) (p : Nat) (f : Budget → Budget) : Kept n { s with cap := use s.cap p f } where
  size := kept.size
  linked := kept.linked.use p f
  recency := (useKeys s.cap p f).trans kept.recency
  latest := kept.latest
  made call there := by
    unfold use
    rw [List.length_modify]
    exact kept.made call there
  fair := kept.fair

theorem lastFound {between before : List Call} {last : Call} (same : last.key = k) (apart : ∀ c ∈ between, c.key ≠ k) :
    (between ++ last :: before).find? (fun c => c.key = k) = some last := by
  rw [List.find?_append, List.find?_eq_none.mpr (fun c inside => by simpa using apart c inside), Option.none_or,
    List.find?_cons_of_pos (by simpa using same)]

theorem Kept.has (kept : Kept n s) {between before : List Call} {last : Call} (calls : s.calls = between ++ last :: before)
    (same : last.key = k) (apart : ∀ c ∈ between, c.key ≠ k) : (s.cap.items.get k).isSome = true ↔ distinct between < n := by
  have outside : k ∉ between.map Call.key := fun inside => by
    obtain ⟨c,there,eq⟩ := List.mem_map.mp inside
    exact apart c there eq
  rw [kept.linked.listed, kept.recency]
  unfold history
  rw [calls, List.map_append, List.map_cons, same]
  exact recentWithin outside

theorem fairCons {call : Call} {calls : List Call} (now : Fair n call calls)
    (before : ∀ newer call older, calls = newer ++ call :: older → Fair n call older) :
    ∀ newer other older, call :: calls = newer ++ other :: older → Fair n other older := by
  intro newer other older split
  cases newer with
  | nil =>
    obtain ⟨rfl,rfl⟩ := List.cons.inj split
    exact now
  | cons first newer => exact before newer other older (List.cons.inj split).2

theorem hitKept (kept : Kept (n + 1) s) (found : s.cap.items.get k = some p) (tokens : Int) :
    Kept (n + 1) ⟨{ s.cap with order := p :: s.cap.order.erase p },⟨k,p,tokens⟩ :: s.calls⟩ := by
  obtain ⟨there,key⟩ := (kept.linked.items k p).mp found
  have listed : k ∈ keys s.cap := kept.linked.listed.mp (by rw [found]; rfl)
  refine ⟨kept.size,kept.linked.front there,?_,?_,?_,fairCons ?_ kept.fair⟩
  · rw [frontKeys kept.linked there, key, kept.recency]
    rw [kept.recency] at listed
    exact recentHit listed
  · intro other q has
    by_cases here : other = k
    · subst here
      rw [List.find?_cons_of_pos (by simp)]
      exact found.symm.trans has
    · rw [List.find?_cons_of_neg (by simpa using Ne.symm here)]
      exact kept.latest other q has
  · intro call inside
    rcases List.mem_cons.mp inside with rfl | old
    · exact kept.linked.inside p there
    · exact kept.made call old
  · have lastCall := kept.latest k p found
    refine ⟨fun none_ => ?_,fun between last before calls same apart => ?_,fun between last before calls same apart many => ?_⟩
    · rw [List.find?_eq_none.mpr (fun c inside => by simpa using none_ c inside)] at lastCall
      cases lastCall
    · rw [calls, lastFound same apart, Option.map_some] at lastCall
      exact ⟨fun _ => (kept.has calls same apart).mp (by rw [found]; rfl),fun _ => (Option.some.inj lastCall).symm⟩
    · have few := (kept.has calls same apart).mp (by rw [found]; rfl)
      exact absurd few (Nat.not_lt.mpr many)

theorem missKeys (kept : Kept (n + 1) s) (absent : s.cap.items.get k = none) :
    keys (evict (pushed s.cap k)) = (recent (k :: history s)).take (n + 1) := by
  have unlisted : k ∉ (recent (history s)).take (n + 1) := fun inside => by
    rw [← kept.recency, ← kept.linked.listed, absent] at inside
    cases inside
  have length : s.cap.order.length = min (n + 1) (recent (history s)).length := by
    have same := congrArg List.length kept.recency
    rwa [keys, List.length_map, List.length_take] at same
  rw [evictKeys, pushedKeys kept.linked, kept.recency, ← recentMiss unlisted]
  change (if 0 < s.cap.lruSize ∧ s.cap.lruSize < ((s.cap.heap.length :: s.cap.order).length : Int) then _ else _) = _
  rw [kept.size, List.length_cons, length]
  split
  · rename_i full
    rw [List.dropLast_cons_of_ne_nil (fun empty => by
        have zero := congrArg List.length empty
        simp only [List.length_take, List.length_nil] at zero
        omega), List.dropLast_eq_take, List.length_take, List.take_take,
      show min (min (n + 1) (recent (history s)).length - 1) (n + 1) = n by omega]
  · rename_i room
    have short : (recent (history s)).length ≤ n := by omega
    rw [List.take_of_length_le (Nat.le_succ_of_le short), List.take_of_length_le short]

theorem evictGet {c : Cap} (linked : Linked c) {key : String} {q : Nat} (has : (evict c).items.get key = some q) :
    c.items.get key = some q := by
  obtain ⟨inside,same⟩ := (linked.evict.items key q).mp has
  rw [(evictSame c).1] at same
  exact (linked.items key q).mpr ⟨evictSubset c inside,same⟩

theorem missKept (kept : Kept (n + 1) s) (absent : s.cap.items.get k = none) :
    Kept (n + 1) ⟨evict (pushed s.cap k),
      ⟨k,s.cap.heap.length,tokensAt (evict (pushed s.cap k)).heap s.cap.heap.length⟩ :: s.calls⟩ := by
  have pushes := kept.linked.pushed absent
  have heap : (evict (pushed s.cap k)).heap = s.cap.heap ++ [⟨k,Budget.new s.cap.percent s.cap.burst⟩] := (evictSame _).1
  have new : New ⟨k,s.cap.heap.length,tokensAt (evict (pushed s.cap k)).heap s.cap.heap.length⟩ s.calls := by
    refine ⟨fun c inside => Nat.ne_of_lt (kept.made c inside),?_⟩
    rw [heap]
    unfold tokensAt
    rw [List.getElem?_concat_length]
    rfl
  refine ⟨(evictSame _).2.1.trans kept.size,pushes.evict,missKeys kept absent,?_,?_,fairCons ?_ kept.fair⟩
  · intro other q has
    have was : (s.cap.items.insert k s.cap.heap.length).get other = some q := evictGet pushes has
    rw [Map.getInsert] at was
    split at was
    · rename_i here
      cases was
      rw [List.find?_cons_of_pos (by simpa using here.symm)]
      rfl
    · rename_i apart
      rw [List.find?_cons_of_neg (by simpa using Ne.symm apart)]
      exact kept.latest other q was
  · intro call inside
    rw [heap, List.length_append, List.length_singleton]
    rcases List.mem_cons.mp inside with rfl | old
    · exact Nat.lt_succ_self _
    · have below := kept.made call old
      omega
  · refine ⟨fun _ => new,fun between last before calls same apart => ?_,fun _ _ _ _ _ _ _ => new⟩
    have older : last ∈ s.calls := calls ▸ List.mem_append_right _ List.mem_cons_self
    have hit := kept.has calls same apart
    rw [absent] at hit
    exact ⟨fun eq => absurd eq.symm (new.other last older),fun few => absurd (hit.mpr few) Bool.false_ne_true⟩

theorem newKept (percent burst : Int) (n : Nat) : Kept n ⟨newClientCap percent burst n,[]⟩ where
  size := rfl
  linked := ⟨List.nodup_nil,fun _ inside => (nomatch inside),fun key p => by simp [newClientCap]⟩
  recency := by simp [keys,history,recent,newClientCap]
  latest _ _ has := nomatch has
  made _ inside := nomatch inside
  fair newer _ _ split := by simp at split

theorem stepKept {t : State} {a : Action} (kept : Kept (n + 1) s) (taken : step s a = some t) : Kept (n + 1) t := by
  cases a with
  | recordSuccess p =>
    cases taken
    exact useKept kept p _
  | consume p =>
    cases taken
    exact useKept kept p _
  | bucket key =>
    cases found : s.cap.items.get (named key) with
    | some p =>
      simp only [step, bucket, found] at taken
      cases taken
      exact hitKept kept found _
    | none =>
      simp only [step, bucket, found] at taken
      cases taken
      exact missKept kept found

end

theorem clientCapLru (percent burst : Int) {n : Nat} (positive : 1 ≤ n) {actions : List Action} {s : State}
    (run : Runs step anyStep ⟨newClientCap percent burst n,[]⟩ actions s) : Lru n s := by
  obtain ⟨places,rfl⟩ : ∃ places, n = places + 1 := ⟨n - 1,by omega⟩
  have kept : Kept (places + 1) s := run.preserve (Kept (places + 1)) (fun _ _ _ kept _ taken => stepKept kept taken)
    (newKept percent burst (places + 1))
  exact kept.lru

def returning : List Action := [.bucket "k",.bucket "a",.bucket "k",.bucket "b",.bucket "k"]

theorem returningLru : ∃ s, Runs step anyStep ⟨newClientCap 10 5 2,[]⟩ returning s ∧ Lru 2 s := by
  have run : Runs step anyStep ⟨newClientCap 10 5 2,[]⟩ returning _ :=
    .cons trivial rfl (.cons trivial rfl (.cons trivial rfl (.cons trivial rfl (.cons trivial rfl (.nil _)))))
  exact ⟨_,run,clientCapLru 10 5 (by decide) run⟩

theorem returningSame : ∃ s, Runs step anyStep ⟨newClientCap 10 5 2,[]⟩ returning s ∧
    s.calls = [⟨"k",0,0⟩,⟨"b",2,0⟩,⟨"k",0,0⟩,⟨"a",1,0⟩,⟨"k",0,0⟩] ∧
    distinct ([⟨"b",2,0⟩,⟨"k",0,0⟩,⟨"a",1,0⟩].filter (fun c => c.key ≠ "k")) = 2 :=
  ⟨_,.cons trivial rfl (.cons trivial rfl (.cons trivial rfl (.cons trivial rfl (.cons trivial rfl (.nil _))))),
    by decide,by decide⟩

section
variable {c : Cap} {l : RetryBudget.ClientCap} {number : Nat → Nat}

structure Listed (number : Nat → Nat) (c : Cap) (l : RetryBudget.ClientCap) : Prop where
  percent : l.percent = c.percent
  burst : l.burst = c.burst
  lruSize : l.lruSize = c.lruSize
  order : l.order = c.order.map (fun p => (keyAt c.heap p,number p))

theorem findOnly {order : List Nat} {P : Nat → Bool} {p : Nat} (there : p ∈ order) (only : ∀ q ∈ order, P q = true ↔ q = p) :
    order.find? P = some p := by
  cases found : order.find? P with
  | none => exact absurd ((only p there).mpr rfl) (List.find?_eq_none.mp found p there)
  | some q => rw [(only q (List.mem_of_find?_eq_some found)).mp (List.find?_some found)]

theorem listedHit (linked : Linked c) (listed : Listed number c l) {key : String} {p : Nat} (found : c.items.get (named key) = some p)
    (next : Nat) : (l.bucket next key).1 = number p ∧ (l.bucket next key).2.2 = [] ∧
      Listed number { c with order := p :: c.order.erase p } (l.bucket next key).2.1 := by
  obtain ⟨there,own⟩ := (linked.items _ p).mp found
  have same (q : Nat) (inside : q ∈ c.order) : keyAt c.heap q = named key ↔ q = p :=
    ⟨fun eq => linked.apart inside there (eq.trans own.symm),fun eq => eq ▸ own⟩
  have search : l.order.find? (fun e => e.1 = named key) = some (named key,number p) := by
    rw [listed.order, List.find?_map, findOnly there (fun q inside => by simpa using same q inside), Option.map_some, own]
  have others : l.order.filter (fun e => e.1 ≠ named key) = (c.order.erase p).map (fun q => (keyAt c.heap q,number q)) := by
    rw [listed.order, List.filter_map, linked.order.erase_eq_filter]
    refine congrArg (List.map _) (List.filter_congr (fun q inside => ?_))
    by_cases here : q = p <;> simp [same q inside,here,own]
  unfold RetryBudget.ClientCap.bucket
  dsimp only
  rw [show (if key = "" then "anonymous" else key) = named key from rfl, search]
  refine ⟨rfl,rfl,listed.percent,listed.burst,listed.lruSize,?_⟩
  dsimp only
  rw [others, List.map_cons, own]

theorem listedMiss (linked : Linked c) (listed : Listed number c l) {key : String} (absent : c.items.get (named key) = none)
    (next : Nat) : (l.bucket next key).1 = next ∧
      (l.bucket next key).2.2 = [⟨.client,Budget.new c.percent c.burst⟩] ∧
      Listed (fun p => if p = c.heap.length then next else number p) (evict (pushed c (named key))) (l.bucket next key).2.1 := by
  have search : l.order.find? (fun e => e.1 = named key) = none := by
    rw [listed.order, List.find?_map, Option.map_eq_none_iff, List.find?_eq_none]
    intro q inside
    have other : keyAt c.heap q ≠ named key := fun same => by
      have found := (linked.items _ q).mpr ⟨inside,same⟩
      rw [absent] at found
      cases found
    simpa using other
  have order : (named key,next) :: l.order = (pushed c (named key)).order.map
      (fun p => (keyAt (pushed c (named key)).heap p,if p = c.heap.length then next else number p)) := by
    change _ = (keyAt (pushed c (named key)).heap c.heap.length,if c.heap.length = c.heap.length then next else _) :: c.order.map _
    rw [if_pos rfl, show keyAt (pushed c (named key)).heap c.heap.length = named key from keyAtNew c.heap _, listed.order]
    refine congrArg (_ :: ·) (List.map_congr_left (fun q inside => ?_))
    have old := linked.inside q inside
    rw [if_neg (Nat.ne_of_lt old), show keyAt (pushed c (named key)).heap q = keyAt c.heap q from keyAtOld old _]
  unfold RetryBudget.ClientCap.bucket
  dsimp only
  rw [show (if key = "" then "anonymous" else key) = named key from rfl, search]
  refine ⟨rfl,by rw [listed.percent, listed.burst],?_⟩
  obtain ⟨heap,size,percent,burst⟩ := evictSame (pushed c (named key))
  refine ⟨listed.percent.trans percent.symm,listed.burst.trans burst.symm,listed.lruSize.trans size.symm,?_⟩
  dsimp only
  rw [order, List.length_map, listed.lruSize, evictOrder, heap]
  rw [apply_ite (List.map _), List.map_dropLast]
  rfl

end
end ReverseProxy.ClientCapLru
