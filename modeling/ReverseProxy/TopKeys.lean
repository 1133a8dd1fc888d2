import Mathlib.Data.Finset.Card
import ReverseProxy.Ranking
import ReverseProxy.RetryExecute

/-! obs.TopK: which routes and pools get a label of their own in the metrics. Hits are
counted for everybody; a key is let in while there is room, and now and then the sets are
made anew from the counts. -/
namespace ReverseProxy.TopKeys
open GoValues FiniteMap Ranking
open RetryExecute (timeSub)

abbrev Item := Bytes × Int

/- The comparison that buildTop hands to sort.Slice, on the key and the count. -/
def less (a b : Item) : Bool := if a.2 = b.2 then decide (a.1 < b.1) else decide (b.2 < a.2)

def NotAfter (a b : Item) : Prop := less b a = false

instance : DecidableRel NotAfter := fun a b => inferInstanceAs (Decidable (less b a = false))

theorem notAfterIff {a b : Item} : NotAfter a b ↔ b.2 < a.2 ∨ (a.2 = b.2 ∧ a.1 ≤ b.1) := by
  unfold NotAfter less
  split
  · rename_i same
    rw [decide_eq_false_iff_not,List.not_lt]
    grind
  · grind

instance : Std.Total NotAfter where
  total a b := by
    rw [notAfterIff,notAfterIff]
    have keys := List.le_total a.1 b.1
    grind

instance : IsTrans Item NotAfter where
  trans a b c first second := by
    rw [notAfterIff] at *
    rcases first with more | ⟨same,first⟩
    · grind
    · rcases second with more | ⟨also,second⟩
      · grind
      · exact .inr ⟨same.trans also,List.le_trans first second⟩

instance : Std.Antisymm NotAfter where
  antisymm a b first second := by
    rw [notAfterIff] at *
    rcases first with more | ⟨same,first⟩
    · grind
    · rcases second with more | ⟨also,second⟩
      · grind
      · exact Prod.ext (List.le_antisymm first second) same

structure Enumeration where
  order : List Item → List Item
  perm : ∀ items, (order items).Perm items

def buildTop (e : Enumeration) (counts : Table Bytes Int) (limit : Int) : Finset Bytes :=
  let items := (e.order counts.entries).insertionSort NotAfter
  let limit := if items.length < limit then (items.length : Int) else limit
  ((items.take limit.toNat).map Prod.fst).toFinset

structure Board where
  counts : Table Bytes Int := Table.empty
  top : Finset Bytes := ∅
  limit : Int

structure TopK where
  routes : Board
  pools : Board
  interval : Duration
  lastRecompute : Option Int := none

def newTopK (routeK poolK : Int) (interval : Duration) : TopK where
  routes := { limit := if routeK ≤ 0 then 200 else routeK }
  pools := { limit := if poolK ≤ 0 then 200 else poolK }
  interval := if interval ≤ 0 then 10 * second else interval

def unlabelled (key : Bytes) : Bool := key = [] || key = encodeText "none"

def Board.hit (b : Board) (key : Bytes) : Board :=
  if unlabelled key then b
  else
    { b with
      counts := b.counts.insert key (wrap64 ((b.counts.get key).getD 0 + 1))
      top := if b.top.card < b.limit then insert key b.top else b.top }

def Board.rebuild (b : Board) (e : Enumeration) : Board := { b with top := buildTop e b.counts b.limit }

def recompute (t : TopK) (routes pools : Enumeration) (now : Int) : TopK :=
  { t with routes := t.routes.rebuild routes, pools := t.pools.rebuild pools, lastRecompute := some now }

/- The zero time is longer ago than any interval. -/
def due (t : TopK) (now : Int) : Bool := t.lastRecompute.all (fun last => decide (t.interval ≤ timeSub now last))

def observeHit (t : TopK) (routeID poolKey : Bytes) (routes pools : Enumeration) (now later : Int) : TopK :=
  let t := { t with routes := t.routes.hit routeID, pools := t.pools.hit poolKey }
  if due t now then recompute t routes pools later else t

def canon (top : Finset Bytes) (value : Bytes) : Bytes := if value ∈ top then value else encodeText "other"

def label (top : Finset Bytes) (value : Bytes) : Bytes := if unlabelled value then encodeText "none" else canon top value

def canonRoute (t : TopK) (routeID : Bytes) : Bytes := label t.routes.top routeID

def canonPool (t : TopK) (poolKey : Bytes) : Bytes := label t.pools.top poolKey

/- What the two loops of the program do: a request's hit, with the range orders and times of
the recompute it may come to, and a tick of recomputeLoop. -/
inductive Action where
  | observeHit (routeID poolKey : Bytes) (routes pools : Enumeration) (now later : Int)
  | recompute (routes pools : Enumeration) (now : Int)

def step (t : TopK) : Action → TopK
  | .observeHit routeID poolKey routes pools now later => observeHit t routeID poolKey routes pools now later
  | .recompute routes pools now => recompute t routes pools now

def run (t : TopK) (as : List Action) : TopK := as.foldl step t

def recomputes (t : TopK) : Action → Bool
  | .observeHit _ _ _ _ now _ => due t now
  | .recompute .. => true

def Action.routeID : Action → Bytes
  | .observeHit routeID .. => routeID
  | .recompute .. => []

def Action.poolKey : Action → Bytes
  | .observeHit _ poolKey .. => poolKey
  | .recompute .. => []

def Action.routes : Action → Enumeration
  | .observeHit _ _ routes .. => routes
  | .recompute routes .. => routes

def Action.pools : Action → Enumeration
  | .observeHit _ _ _ pools .. => pools
  | .recompute _ pools _ => pools

def Board.after (b : Board) (key : Bytes) (renew : Bool) (e : Enumeration) : Board :=
  if renew then (b.hit key).rebuild e else b.hit key

theorem stepRoutes (t : TopK) (a : Action) : (step t a).routes = t.routes.after a.routeID (recomputes t a) a.routes := by
  cases a with
  | observeHit routeID poolKey routes pools now later =>
    change (if due t now then _ else _ : TopK).routes = if due t now then _ else _
    split <;> rfl
  | recompute routes pools now => rfl

theorem stepPools (t : TopK) (a : Action) : (step t a).pools = t.pools.after a.poolKey (recomputes t a) a.pools := by
  cases a with
  | observeHit routeID poolKey routes pools now later =>
    change (if due t now then _ else _ : TopK).pools = if due t now then _ else _
    split <;> rfl
  | recompute routes pools now => rfl

section
variable {counts : Table Bytes Int} {limit : Int} {key : Bytes} {count : Int}

theorem entriesNodup (counts : Table Bytes Int) : counts.entries.Nodup := List.Nodup.of_map _ counts.unique

theorem rankLess (items : List Item) (x : Item) : rank NotAfter items x = items.countP (fun y => less y x) := by
  refine List.countP_congr (fun y _ => ?_)
  have same : NotAfter x y ↔ less y x = false := Iff.rfl
  simp [same]

theorem buildTopFirst (e : Enumeration) (nonneg : 0 ≤ limit) :
    buildTop e counts limit = ((first NotAfter limit.toNat counts.entries).map Prod.fst).toFinset := by
  have items : (e.order counts.entries).insertionSort NotAfter = counts.entries.insertionSort NotAfter := by
    have same := firstPerm NotAfter (e.perm counts.entries) counts.entries.length
    have length := (e.perm counts.entries).length_eq
    unfold first at same
    rwa [List.take_of_length_le (by simp [length]),List.take_of_length_le (by simp)] at same
  unfold buildTop first
  dsimp only
  rw [items]
  split
  · rename_i short
    rw [List.take_of_length_le (by simp),List.take_of_length_le (by omega)]
  · rfl

theorem buildTopMember (e : Enumeration) (nonneg : 0 ≤ limit) :
    key ∈ buildTop e counts limit ↔
      ∃ count, counts.get key = some count ∧ counts.entries.countP (fun y => less y (key,count)) < limit.toNat := by
  rw [buildTopFirst e nonneg,List.mem_toFinset,List.mem_map]
  constructor
  · rintro ⟨⟨own,count⟩,chosen,rfl⟩
    obtain ⟨inside,low⟩ := (firstMember NotAfter (entriesNodup counts)).mp chosen
    exact ⟨count,Table.getMember.mpr inside,rankLess _ _ ▸ low⟩
  · rintro ⟨count,found,low⟩
    exact ⟨(key,count),(firstMember NotAfter (entriesNodup counts)).mpr ⟨Table.getMember.mp found,rankLess _ _ ▸ low⟩,rfl⟩

theorem buildTopCard (e : Enumeration) (nonneg : 0 ≤ limit) : (buildTop e counts limit).card = min limit.toNat counts.len := by
  have keys : ((first NotAfter limit.toNat counts.entries).map Prod.fst).Nodup := by
    have sorted := ((List.perm_insertionSort NotAfter counts.entries).map Prod.fst).nodup_iff.mpr counts.unique
    exact ((List.take_sublist _ _).map Prod.fst).nodup sorted
  rw [buildTopFirst e nonneg,List.toFinset_card_of_nodup keys,List.length_map,firstLength]
  rfl

end

structure Exact (b : Board) : Prop where
  greatest : ∀ key, key ∈ b.top ↔
    ∃ count, b.counts.get key = some count ∧ b.counts.entries.countP (fun e => less e (key,count)) < b.limit.toNat
  size : b.top.card = min b.limit.toNat b.counts.len
  others : ∀ key count, b.counts.get key = some count → key ∉ b.top →
    ∀ member ∈ b.top, ∃ more, b.counts.get member = some more ∧ count ≤ more

section
variable {b : Board} {limit : Int} {hits : Bytes → Nat}

theorem rebuildExact (e : Enumeration) (nonneg : 0 ≤ b.limit) : Exact (b.rebuild e) := by
  refine ⟨fun key => buildTopMember e nonneg,buildTopCard e nonneg,?_⟩
  intro key count found left member inside
  change key ∉ buildTop e b.counts b.limit at left
  change member ∈ buildTop e b.counts b.limit at inside
  rw [buildTopFirst e nonneg,List.mem_toFinset,List.mem_map] at left inside
  obtain ⟨⟨own,more⟩,chosen,rfl⟩ := inside
  refine ⟨more,Table.getMember.mpr (firstSubset NotAfter chosen),?_⟩
  have out : (key,count) ∉ first NotAfter b.limit.toNat b.counts.entries := fun there => left ⟨_,there,rfl⟩
  have ahead := notAfterIff.mp (firstAhead NotAfter chosen (Table.getMember.mp found) out)
  grind

structure Kept (limit : Int) (hits : Bytes → Nat) (b : Board) : Prop where
  same : b.limit = limit
  positive : 0 < limit
  bounded : b.top.card ≤ limit
  counted : ∀ key, b.counts.get key = if hits key = 0 then none else some (wrap64 (hits key))

def hitsWith (hits : Bytes → Nat) (new : Bytes) (key : Bytes) : Nat :=
  hits key + (if !unlabelled new && new == key then 1 else 0)

theorem Kept.hit (kept : Kept limit hits b) (new : Bytes) : Kept limit (hitsWith hits new) (b.hit new) := by
  cases skipped : unlabelled new with
  | true =>
    have same : hitsWith hits new = hits := by
      funext key
      simp [hitsWith,skipped]
    rw [same,Board.hit,if_pos skipped]
    exact kept
  | false =>
    rw [Board.hit,if_neg (by simp [skipped])]
    refine ⟨kept.same,kept.positive,?_,?_⟩
    · have room := kept.same
      have bounded := kept.bounded
      have one := Finset.card_insert_le new b.top
      dsimp only
      split <;> omega
    · intro key
      rw [Table.getInsert,kept.counted new]
      by_cases own : key = new
      · subst own
        have next : hitsWith hits key key = hits key + 1 := by simp [hitsWith,skipped]
        rw [if_pos rfl,next,if_neg (Nat.succ_ne_zero _)]
        split
        · rename_i none
          rw [none]
          rfl
        · rw [Option.getD_some,wrap64Next,Int.natCast_succ]
      · have same : hitsWith hits new key = hits key := by simp [hitsWith,Ne.symm own]
        rw [if_neg own,same]
        exact kept.counted key

theorem Kept.exact (kept : Kept limit hits b) (e : Enumeration) : Exact (b.rebuild e) :=
  rebuildExact e (by rw [kept.same]; exact Int.le_of_lt kept.positive)

theorem Kept.rebuild (kept : Kept limit hits b) (e : Enumeration) : Kept limit hits (b.rebuild e) := by
  have size := (kept.exact e).size
  have same : (b.rebuild e).limit = limit := kept.same
  have positive := kept.positive
  exact ⟨same,positive,by omega,kept.counted⟩

theorem Kept.after (kept : Kept limit hits b) (new : Bytes) (renew : Bool) (e : Enumeration) :
    Kept limit (hitsWith hits new) (b.after new renew e) := by
  unfold Board.after
  split
  · exact (kept.hit new).rebuild e
  · exact kept.hit new

end

def hitsOf (named : Action → Bytes) (as : List Action) (key : Bytes) : Nat :=
  as.countP (fun a => !unlabelled (named a) && named a == key)

section
variable (t : TopK) (as : List Action) (a : Action)

theorem runLast : run t (as ++ [a]) = step (run t as) a := List.foldl_concat ..

theorem hitsLast (named : Action → Bytes) : hitsOf named (as ++ [a]) = hitsWith (hitsOf named as) (named a) := by
  funext key
  rw [hitsOf,List.countP_append,List.countP_singleton]
  rfl

end

theorem startKept {limit : Int} (positive : 0 < limit) : Kept limit (fun _ => 0) { limit := limit } :=
  ⟨rfl,positive,Int.le_of_lt positive,fun _ => rfl⟩

theorem runKept {board : TopK → Board} {named : Action → Bytes} {order : Action → Enumeration}
    (steps : ∀ t a, board (step t a) = (board t).after (named a) (recomputes t a) (order a)) {t : TopK} {limit : Int}
    (start : Kept limit (fun _ => 0) (board t)) (as : List Action) : Kept limit (hitsOf named as) (board (run t as)) := by
  induction as using List.reverseRecOn with
  | nil => exact start
  | append_singleton as a ih =>
    rw [runLast,steps,hitsLast]
    exact ih.after ..

theorem orDefaultPositive (limit : Int) : (0 : Int) < if limit ≤ 0 then 200 else limit := by
  split <;> omega

theorem labelMember (top : Finset Bytes) (value : Bytes) :
    (value ∈ top ∧ label top value = value) ∨ label top value = encodeText "other" ∨ label top value = encodeText "none" := by
  unfold label canon
  split
  · exact .inr (.inr rfl)
  · split
    · rename_i inside
      exact .inl ⟨inside,rfl⟩
    · exact .inr (.inl rfl)

theorem topSets (routeK poolK : Int) (interval : Duration) (as : List Action) :
    let start := newTopK routeK poolK interval
    let t := run start as
    (Kept start.routes.limit (hitsOf Action.routeID as) t.routes ∧ Kept start.pools.limit (hitsOf Action.poolKey as) t.pools) ∧
    (∀ a, recomputes t a = true → Exact (step t a).routes ∧ Exact (step t a).pools) ∧
    (∀ routeID, (routeID ∈ t.routes.top ∧ canonRoute t routeID = routeID) ∨
      canonRoute t routeID = encodeText "other" ∨ canonRoute t routeID = encodeText "none") ∧
    (∀ poolKey, (poolKey ∈ t.pools.top ∧ canonPool t poolKey = poolKey) ∨
      canonPool t poolKey = encodeText "other" ∨ canonPool t poolKey = encodeText "none") := by
  intro start t
  have routes : Kept start.routes.limit (hitsOf Action.routeID as) t.routes :=
    runKept stepRoutes (startKept (orDefaultPositive routeK)) as
  have pools : Kept start.pools.limit (hitsOf Action.poolKey as) t.pools :=
    runKept stepPools (startKept (orDefaultPositive poolK)) as
  refine ⟨⟨routes,pools⟩,?_,labelMember t.routes.top,labelMember t.pools.top⟩
  intro a renews
  rw [stepRoutes,stepPools,renews]
  exact ⟨(routes.hit _).exact _,(pools.hit _).exact _⟩

def asListed : Enumeration := ⟨id,fun _ => .refl _⟩

def backwards : Enumeration := ⟨List.reverse,List.reverse_perm⟩

def overtaking : List Action :=
  [.observeHit [0x61] [0x70] asListed asListed 0 0,.observeHit [0x62] [0x70] asListed asListed 1 1,
    .observeHit [0x62] [0x70] asListed asListed 2 2]

theorem overtaken :
    (run (newTopK 1 1 10) overtaking).routes.top = {[0x61]} ∧
    (step (run (newTopK 1 1 10) overtaking) (.recompute backwards asListed 3)).routes.top = {[0x62]} ∧
    Exact (step (run (newTopK 1 1 10) overtaking) (.recompute backwards asListed 3)).routes :=
  ⟨by decide,by decide,((topSets 1 1 10 overtaking).2.1 (.recompute backwards asListed 3) rfl).1⟩

end ReverseProxy.TopKeys
