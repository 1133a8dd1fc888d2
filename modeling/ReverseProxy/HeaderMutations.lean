import ReverseProxy.RequestFlow

/-! plugin.ApplyHeaderMutations on every order in which its map can be ranged over. The
hop-by-hop headers are safe from it and the flag says whether one was asked for. The rest
depends on the order where two spellings of one header come with different values. -/
namespace ReverseProxy.HeaderMutations
open GoValues FiniteMap CacheKey
open RequestFlow (isHopByHopHeader)

def applyMutation (s : Header × Bool) (m : Bytes × Bytes) : Header × Bool :=
  let canon := canonicalKey (trimBytes m.1)
  if canon = [] then s
  else if isHopByHopHeader canon then (s.1,true)
  else (s.1.insert (canonicalKey canon) [m.2],s.2)

def applyHeaderMutations (target : Header) (mutations : List (Bytes × Bytes)) : Header × Bool :=
  mutations.foldl applyMutation (target,false)

def named (key : Bytes) : Bytes := canonicalKey (trimBytes key)

def assigned (m : Bytes × Bytes) : Option (Bytes × List Bytes) :=
  if named m.1 = [] ∨ isHopByHopHeader (named m.1) then none else some (named m.1,[m.2])

/- The letter case that canonicalFrom gives one byte. -/
def cased (atStart : Bool) (c : UInt8) : UInt8 :=
  if atStart && 0x61 ≤ c && c ≤ 0x7A then c - 32
  else if !atStart && 0x41 ≤ c && c ≤ 0x5A then c + 32 else c

theorem casedTwice (atStart : Bool) (c : UInt8) : cased atStart (cased atStart c) = cased atStart c := by
  unfold cased
  grind

theorem tokenLetter {c : UInt8} (letter : (0x41 ≤ c ∧ c ≤ 0x5A) ∨ (0x61 ≤ c ∧ c ≤ 0x7A)) : isTokenByte c = true := by
  unfold isTokenByte
  rcases letter with upper | lower
  · simp [upper]
  · simp [lower]

theorem casedToken {c : UInt8} (token : isTokenByte c = true) (atStart : Bool) : isTokenByte (cased atStart c) = true := by
  unfold cased
  split
  · exact tokenLetter (.inl (by grind))
  · split
    · exact tokenLetter (.inr (by grind))
    · exact token

theorem canonicalFromCons (atStart : Bool) (c : UInt8) (rest : Bytes) :
    canonicalFrom atStart (c :: rest) = cased atStart c :: canonicalFrom (cased atStart c == 0x2D) rest := rfl

theorem canonicalFromTwice (name : Bytes) (atStart : Bool) :
    canonicalFrom atStart (canonicalFrom atStart name) = canonicalFrom atStart name := by
  induction name generalizing atStart with
  | nil => rfl
  | cons c rest ih => rw [canonicalFromCons,canonicalFromCons,casedTwice,ih]

theorem canonicalFromTokens {name : Bytes} (tokens : name.all isTokenByte = true) (atStart : Bool) :
    (canonicalFrom atStart name).all isTokenByte = true := by
  induction name generalizing atStart with
  | nil => rfl
  | cons c rest ih =>
    rw [List.all_cons,Bool.and_eq_true] at tokens
    rw [canonicalFromCons,List.all_cons,casedToken tokens.1,ih tokens.2]
    rfl

theorem canonicalKeyTwice (name : Bytes) : canonicalKey (canonicalKey name) = canonicalKey name := by
  by_cases tokens : name.all isTokenByte = true
  · have once : canonicalKey name = canonicalFrom true name := if_pos tokens
    rw [once,canonicalKey,if_pos (canonicalFromTokens tokens true),canonicalFromTwice]
  · have same : canonicalKey name = name := if_neg tokens
    rw [same,same]

theorem mutationEffect (s : Header × Bool) (m : Bytes × Bytes) :
    applyMutation s m = (s.1.writes (assigned m).toList,s.2 || isHopByHopHeader (named m.1)) := by
  have blank : isHopByHopHeader [] = false := by decide
  unfold applyMutation assigned named
  dsimp only
  rw [canonicalKeyTwice]
  by_cases none : canonicalKey (trimBytes m.1) = []
  · simp [none,blank,Map.writes]
  · by_cases hop : isHopByHopHeader (canonicalKey (trimBytes m.1)) = true
    · simp [none,hop,Map.writes]
    · simp [none,hop,Map.writes]

theorem mutationsEffect (target : Header) (mutations : List (Bytes × Bytes)) :
    applyHeaderMutations target mutations =
      (target.writes (mutations.filterMap assigned),mutations.any (fun m => isHopByHopHeader (named m.1))) := by
  have from_ : ∀ s : Header × Bool, mutations.foldl applyMutation s =
      (s.1.writes (mutations.filterMap assigned),s.2 || mutations.any (fun m => isHopByHopHeader (named m.1))) := by
    induction mutations with
    | nil => simp [Map.writes]
    | cons m rest ih =>
      intro s
      rw [List.foldl_cons,mutationEffect,ih,List.any_cons,Bool.or_assoc]
      cases assigns : assigned m with
      | none => rw [List.filterMap_cons_none assigns]; rfl
      | some w => rw [List.filterMap_cons_some assigns]; rfl
  exact from_ (target,false)

theorem mutationsHeader (target : Header) (mutations : List (Bytes × Bytes)) :
    (applyHeaderMutations target mutations).1 = RequestFlow.applyHeaderMutations target mutations := by
  have from_ : ∀ s : Header × Bool,
      (mutations.foldl applyMutation s).1 = RequestFlow.applyHeaderMutations s.1 mutations := by
    induction mutations with
    | nil => exact fun _ => rfl
    | cons m rest ih =>
      intro s
      rw [List.foldl_cons,ih,RequestFlow.applyHeaderMutations,RequestFlow.applyHeaderMutations,List.foldl_cons]
      unfold applyMutation
      dsimp only
      split
      · rfl
      · split <;> rfl
  exact from_ (target,false)

theorem assignedSome {m : Bytes × Bytes} {w : Bytes × List Bytes} :
    assigned m = some w ↔ named m.1 ≠ [] ∧ isHopByHopHeader (named m.1) = false ∧ w = (named m.1,[m.2]) := by
  unfold assigned
  grind

structure OrderFree (target : Header) (mutations : Table Bytes Bytes) : Prop where
  same : ∀ first second, first.Perm mutations.entries → second.Perm mutations.entries →
    applyHeaderMutations target first = applyHeaderMutations target second
  safe : ∀ order, order.Perm mutations.entries → ∀ name, isHopByHopHeader name = true →
    (applyHeaderMutations target order).1.get name = target.get name
  denied : ∀ order, order.Perm mutations.entries →
    ((applyHeaderMutations target order).2 = true ↔
      ∃ key value, mutations.get key = some value ∧ isHopByHopHeader (named key) = true)

def Agreeing (mutations : Table Bytes Bytes) : Prop :=
  ∀ a ∈ mutations.entries, ∀ b ∈ mutations.entries, named a.1 = named b.1 → named a.1 ≠ [] →
    isHopByHopHeader (named a.1) = false → a.2 = b.2

section
variable {mutations : Table Bytes Bytes} {order : List (Bytes × Bytes)}

theorem hopByHopSafe (target : Header) (order : List (Bytes × Bytes)) {name : Bytes} (hop : isHopByHopHeader name = true) :
    (applyHeaderMutations target order).1.get name = target.get name := by
  rw [mutationsEffect,Map.getWrites]
  cases last : Map.lastWrite (order.filterMap assigned) name with
  | none => rfl
  | some v =>
    obtain ⟨m,-,assigns⟩ := List.mem_filterMap.mp (Map.lastWriteMember last)
    obtain ⟨-,open_,written⟩ := assignedSome.mp assigns
    cases written
    cases hop.symm.trans open_

theorem deniedNamed (target : Header) (perm : order.Perm mutations.entries) :
    (applyHeaderMutations target order).2 = true ↔
      ∃ key value, mutations.get key = some value ∧ isHopByHopHeader (named key) = true := by
  rw [mutationsEffect,List.any_eq_true]
  constructor
  · intro ⟨m,inside,hop⟩
    exact ⟨m.1,m.2,Table.getMember.mpr (perm.mem_iff.mp inside),hop⟩
  · intro ⟨key,value,found,hop⟩
    exact ⟨(key,value),perm.mem_iff.mpr (Table.getMember.mp found),hop⟩

theorem lastWins (target : Header) (order : List (Bytes × Bytes)) {m : Bytes × Bytes} (some_ : named m.1 ≠ [])
    (open_ : isHopByHopHeader (named m.1) = false) :
    (applyHeaderMutations target (order ++ [m])).1.get (named m.1) = some [m.2] := by
  have assigns : assigned m = some (named m.1,[m.2]) := assignedSome.mpr ⟨some_,open_,rfl⟩
  rw [mutationsEffect,Map.getWrites,List.filterMap_append,List.filterMap_cons_some assigns,List.filterMap_nil,
    Map.lastWriteLast]
  rfl

theorem enumeratedLast {m : Bytes × Bytes} (inside : m ∈ mutations.entries) :
    (mutations.entries.erase m ++ [m]).Perm mutations.entries :=
  (List.perm_append_singleton m _).trans (List.perm_cons_erase inside).symm

end

theorem orderFree {target : Header} {mutations : Table Bytes Bytes} : OrderFree target mutations ↔ Agreeing mutations := by
  constructor
  · intro free a first b second shared some_ open_
    have same := free.same _ _ (enumeratedLast first) (enumeratedLast second)
    have one := lastWins target (mutations.entries.erase a) some_ open_
    have two := lastWins target (mutations.entries.erase b) (shared ▸ some_) (shared ▸ open_)
    rw [same,shared,two] at one
    simpa using one.symm
  · intro agreeing
    refine ⟨?_,fun order _ name hop => hopByHopSafe target order hop,fun order perm => deniedNamed target perm⟩
    intro first second one two
    have perm := one.trans two.symm
    have agree : ∀ x ∈ first.filterMap assigned, ∀ y ∈ first.filterMap assigned, x.1 = y.1 → x.2 = y.2 := by
      intro x left y right shared
      obtain ⟨a,inside,assigns⟩ := List.mem_filterMap.mp left
      obtain ⟨b,there,other⟩ := List.mem_filterMap.mp right
      obtain ⟨some_,open_,rfl⟩ := assignedSome.mp assigns
      obtain ⟨-,-,rfl⟩ := assignedSome.mp other
      have value := agreeing a (one.mem_iff.mp inside) b (one.mem_iff.mp there) shared some_ open_
      exact congrArg (fun v => [v]) value
    rw [mutationsEffect,mutationsEffect,perm.any_eq]
    refine congrArg (fun h => (h,second.any _)) (Map.ext (fun name => ?_))
    rw [Map.getWrites,Map.getWrites,Map.lastWritePerm (perm.filterMap assigned) agree]

def distinct : Table Bytes Bytes := ⟨[([0x78,0x2D,0x61],[0x31]),(encodeText "upgrade",[0x32])],by decide⟩

def twoSpellings : Table Bytes Bytes := ⟨[([0x78,0x2D,0x61],[0x31]),([0x58,0x2D,0x41],[0x32])],by decide⟩

instance (mutations : Table Bytes Bytes) : Decidable (Agreeing mutations) := by
  unfold Agreeing
  infer_instance

theorem distinctOrderFree : OrderFree Map.empty distinct := orderFree.mpr (by decide)

theorem twoSpellingsRace : ¬OrderFree Map.empty twoSpellings ∧
    ((applyHeaderMutations Map.empty twoSpellings.entries).1.get [0x58,0x2D,0x41],
      (applyHeaderMutations Map.empty twoSpellings.entries.reverse).1.get [0x58,0x2D,0x41]) = (some [[0x32]],some [[0x31]]) := by
  have values : ((applyHeaderMutations Map.empty twoSpellings.entries).1.get [0x58,0x2D,0x41],
      (applyHeaderMutations Map.empty twoSpellings.entries.reverse).1.get [0x58,0x2D,0x41]) =
      (some [[0x32]],some [[0x31]]) := by decide
  refine ⟨?_,values⟩
  intro free
  rw [free.same _ twoSpellings.entries (List.reverse_perm _) (.refl _)] at values
  exact absurd values (by decide)

end ReverseProxy.HeaderMutations
