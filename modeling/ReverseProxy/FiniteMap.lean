/-! Partial maps over any key type, compared by their lookups. The order in
which a map was filled is not part of its value. `writes` replays a list of
assignments; its effect is decided by the last assignment to each key. A `Table` is
such a map with its size. -/
namespace ReverseProxy.FiniteMap

def Map (K V : Type) : Type := K → Option V

namespace Map
variable {K V W : Type} [DecidableEq K]

def get (m : Map K V) (k : K) : Option V := m k

def empty : Map K V := fun _ => none

def insert (m : Map K V) (k : K) (v : V) : Map K V := fun x => if x = k then some v else m x

def erase (m : Map K V) (k : K) : Map K V := fun x => if x = k then none else m x

def keep (m : Map K V) (p : K → Bool) : Map K V := fun x => if p x then m x else none

def mapValues (m : Map K V) (f : V → W) : Map K W := fun x => (m x).map f

def adjust (m : Map K V) (k : K) (f : V → V) : Map K V := fun x => if x = k then (m x).map f else m x

def assign (m : Map K V) (k : K) (o : Option V) : Map K V := fun x => if x = k then o else m x

def keyed (entries : List (K × V)) : Map K V :=
  fun x => (entries.find? (fun e => e.1 = x)).map (·.2)

omit [DecidableEq K] in
theorem ext {m n : Map K V} (same : ∀ k, m.get k = n.get k) : m = n := funext same

omit [DecidableEq K] in
@[simp] theorem getEmpty (k : K) : (empty : Map K V).get k = none := rfl

@[simp] theorem getInsertSame (m : Map K V) (k : K) (v : V) : (m.insert k v).get k = some v := by
  simp [get,insert]

theorem getInsertOther (m : Map K V) {k x : K} (v : V) (other : x ≠ k) :
    (m.insert k v).get x = m.get x := by
  simp [get,insert,other]

theorem getInsert (m : Map K V) (k x : K) (v : V) :
    (m.insert k v).get x = if x = k then some v else m.get x := rfl

theorem getErase (m : Map K V) (k x : K) :
    (m.erase k).get x = if x = k then none else m.get x := rfl

theorem getAdjust (m : Map K V) (k x : K) (f : V → V) :
    (m.adjust k f).get x = if x = k then (m.get x).map f else m.get x := rfl

theorem getAssign (m : Map K V) (k x : K) (o : Option V) :
    (m.assign k o).get x = if x = k then o else m.get x := rfl

theorem assignSame {m : Map K V} {k : K} {o : Option V} (same : m.get k = o) : m.assign k o = m := by
  apply ext
  intro x
  rw [getAssign]
  split
  · rename_i here
    rw [here,same]
  · rfl

@[simp] theorem isSomeAdjust (m : Map K V) (k x : K) (f : V → V) : ((m.adjust k f).get x).isSome = (m.get x).isSome := by
  rw [getAdjust]
  split <;> simp

theorem isSomeInsert {m : Map K V} {k : K} {old : V} (found : m.get k = some old) (v : V) (x : K) :
    ((m.insert k v).get x).isSome = (m.get x).isSome := by
  rw [getInsert]
  split
  · rename_i same
    rw [same,found]
    rfl
  · rfl

omit [DecidableEq K] in
theorem getKeep (m : Map K V) (p : K → Bool) (x : K) :
    (m.keep p).get x = if p x then m.get x else none := rfl

omit [DecidableEq K] in
@[simp] theorem getMapValues (m : Map K V) (f : V → W) (x : K) :
    (m.mapValues f).get x = (m.get x).map f := rfl

theorem mapValuesInsert (m : Map K V) (f : V → W) (k : K) (v : V) :
    (m.insert k v).mapValues f = (m.mapValues f).insert k (f v) := by
  apply ext
  intro x
  rw [getMapValues, getInsert, getInsert, getMapValues]
  split <;> rfl

theorem mapValuesErase (m : Map K V) (f : V → W) (k : K) : (m.erase k).mapValues f = (m.mapValues f).erase k := by
  apply ext
  intro x
  rw [getMapValues, getErase, getErase, getMapValues]
  split <;> rfl

theorem eraseInsert {m : Map K V} {k : K} (absent : m.get k = none) (v : V) : (m.insert k v).erase k = m := by
  apply ext
  intro x
  rw [getErase, getInsert]
  split
  · rename_i same
    rw [same, absent]
  · rfl

theorem insertSameValue {m : Map K V} {k : K} {v : V} : m.insert k v = m ↔ m.get k = some v := by
  constructor
  · intro same
    rw [← same, getInsertSame]
  · intro found
    apply ext
    intro x
    rw [getInsert]
    split
    · rename_i eq; rw [eq, found]
    · rfl

theorem getKeyed (entries : List (K × V)) (x : K) :
    (keyed entries).get x = (entries.find? (fun e => e.1 = x)).map (·.2) := rfl

theorem keyedMember {entries : List (K × V)} (unique : (entries.map (·.1)).Nodup) {k : K} {v : V} :
    (keyed entries).get k = some v ↔ (k,v) ∈ entries := by
  induction entries with
  | nil => simp [getKeyed]
  | cons head tail ih =>
    obtain ⟨fresh,rest⟩ := List.nodup_cons.mp unique
    rw [getKeyed, List.find?_cons]
    by_cases same : head.1 = k
    · simp only [same, decide_true, Option.map_some, Option.some.injEq, List.mem_cons]
      constructor
      · intro value
        exact .inl (by rw [← same, ← value])
      · rintro (eq | inside)
        · rw [← eq]
        · exact absurd (List.mem_map.mpr ⟨_,inside,same.symm⟩) fresh
    · simp only [same, decide_false, List.mem_cons]
      rw [← getKeyed, ih rest]
      constructor
      · exact .inr
      · rintro (eq | inside)
        · exact absurd (congrArg Prod.fst eq).symm same
        · exact inside

theorem keyedPerm {a b : List (K × V)} (unique : (a.map (·.1)).Nodup) (perm : a.Perm b) :
    keyed a = keyed b := by
  have other : (b.map (·.1)).Nodup := (perm.map _).nodup_iff.mp unique
  apply ext
  intro k
  apply Option.ext
  intro v
  rw [keyedMember unique, keyedMember other]
  exact perm.mem_iff

def Carries (p : V → Prop) (m n : Map K V) : Prop := ∀ k v, m.get k = some v → p v → n.get k = some v

theorem Carries.insert {p : V → Prop} {m n : Map K V} (carries : Carries p m n) (k : K) (v : V) :
    Carries p (m.insert k v) (n.insert k v) := by
  intro x w found holds
  rw [getInsert] at found ⊢
  split
  · rename_i same
    rw [if_pos same] at found
    exact found
  · rename_i other
    rw [if_neg other] at found
    exact carries x w found holds

theorem Carries.eraseLeft {p : V → Prop} {m n : Map K V} (carries : Carries p m n) (k : K) : Carries p (m.erase k) n := by
  intro x w found holds
  rw [getErase] at found
  split at found
  · cases found
  · exact carries x w found holds

theorem Carries.erase {p : V → Prop} {m n : Map K V} (carries : Carries p m n) (k : K) :
    Carries p (m.erase k) (n.erase k) := by
  intro x w found holds
  have kept := carries.eraseLeft k x w found holds
  rw [getErase] at found ⊢
  split
  · rename_i same
    rw [if_pos same] at found
    cases found
  · exact kept

def writes (m : Map K V) (ws : List (K × V)) : Map K V := ws.foldl (fun acc w => acc.insert w.1 w.2) m

def lastWrite (ws : List (K × V)) (k : K) : Option V :=
  (ws.reverse.find? (fun w => w.1 = k)).map (·.2)

theorem getWrites (m : Map K V) (ws : List (K × V)) (k : K) :
    (m.writes ws).get k = (lastWrite ws k).or (m.get k) := by
  induction ws generalizing m with
  | nil => simp [writes,lastWrite]
  | cons w rest ih =>
    change ((m.insert w.1 w.2).writes rest).get k = _
    rw [ih, getInsert]
    simp only [lastWrite, List.reverse_cons, List.find?_append, List.find?_cons, List.find?_nil]
    cases rest.reverse.find? (fun w => w.1 = k) with
    | some v => simp
    | none =>
      by_cases same : k = w.1
      · simp [same]
      · simp [same,Ne.symm same]

theorem lastWriteMember {ws : List (K × V)} {k : K} {v : V} (last : lastWrite ws k = some v) : (k,v) ∈ ws := by
  obtain ⟨w,found,rfl⟩ := Option.map_eq_some_iff.mp last
  have same : w.1 = k := by simpa using List.find?_some found
  exact same ▸ List.mem_reverse.mp (List.mem_of_find?_eq_some found)

theorem lastWriteSome {ws : List (K × V)} {k : K} {v : V} (inside : (k,v) ∈ ws) : ∃ w, lastWrite ws k = some w := by
  have found : (ws.reverse.find? (fun w => w.1 = k)).isSome :=
    List.find?_isSome.mpr ⟨(k,v),List.mem_reverse.mpr inside,by simp⟩
  obtain ⟨w,is⟩ := Option.isSome_iff_exists.mp found
  exact ⟨w.2,by rw [lastWrite,is]; rfl⟩

theorem lastWriteLast (ws : List (K × V)) (k : K) (v : V) : lastWrite (ws ++ [(k,v)]) k = some v := by
  simp [lastWrite]

theorem lastWritePerm {a b : List (K × V)} (perm : a.Perm b)
    (agree : ∀ x ∈ a, ∀ y ∈ a, x.1 = y.1 → x.2 = y.2) (k : K) : lastWrite a k = lastWrite b k := by
  cases last : lastWrite b k with
  | none =>
    cases other : lastWrite a k with
    | none => rfl
    | some v =>
      obtain ⟨w,found⟩ := lastWriteSome (perm.mem_iff.mp (lastWriteMember other))
      cases found.symm.trans last
  | some v =>
    have inside := perm.mem_iff.mpr (lastWriteMember last)
    obtain ⟨w,found⟩ := lastWriteSome inside
    have same : w = v := agree _ (lastWriteMember found) _ inside rfl
    rw [found,same]

theorem writesUnchanged {m : Map K V} {ws : List (K × V)} :
    m.writes ws = m ↔ ∀ k v, lastWrite ws k = some v → m.get k = some v := by
  constructor
  · intro same k v last
    have h := getWrites m ws k
    rw [same, last] at h
    simpa using h
  · intro agree
    apply ext
    intro k
    rw [getWrites]
    cases last : lastWrite ws k with
    | none => rfl
    | some v => simp [agree k v last]

end Map

structure Table (K V : Type) where
  entries : List (K × V) := []
  unique : (entries.map (·.1)).Nodup := by exact .nil
  deriving DecidableEq, Repr

namespace Table
variable {K V : Type} [DecidableEq K]

def empty : Table K V := {}

def get (t : Table K V) (k : K) : Option V := (Map.keyed t.entries).get k

def len (t : Table K V) : Nat := t.entries.length

def others (t : Table K V) (k : K) : List (K × V) := t.entries.filter (fun e => e.1 ≠ k)

theorem othersUnique (t : Table K V) (k : K) : ((t.others k).map (·.1)).Nodup :=
  (List.filter_sublist.map _).nodup t.unique

theorem othersApart (t : Table K V) (k : K) : k ∉ (t.others k).map (·.1) := by
  intro member
  obtain ⟨e,inside,same⟩ := List.mem_map.mp member
  exact (by simpa using (List.mem_filter.mp inside).2 : e.1 ≠ k) same

def erase (t : Table K V) (k : K) : Table K V := ⟨t.others k,t.othersUnique k⟩

theorem extended (t : Table K V) (k : K) (v : V) : (((k,v) :: t.others k).map (·.1)).Nodup :=
  List.nodup_cons.mpr ⟨t.othersApart k,t.othersUnique k⟩

def insert (t : Table K V) (k : K) (v : V) : Table K V := ⟨(k,v) :: t.others k,t.extended k v⟩

theorem getMember {t : Table K V} {k : K} {v : V} : t.get k = some v ↔ (k,v) ∈ t.entries :=
  Map.keyedMember t.unique

theorem getErase (t : Table K V) (k x : K) : (t.erase k).get x = if x = k then none else t.get x := by
  apply Option.ext
  intro v
  rw [getMember]
  by_cases same : x = k
  · simp [erase,others,same]
  · simp [erase,others,same,getMember]

theorem getInsert (t : Table K V) (k x : K) (v : V) : (t.insert k v).get x = if x = k then some v else t.get x := by
  apply Option.ext
  intro w
  rw [getMember]
  by_cases same : x = k
  · subst same
    simp [insert,others,eq_comm]
  · simp [insert,others,same,getMember]

theorem getInsertSame (t : Table K V) (k : K) (v : V) : (t.insert k v).get k = some v := by
  rw [getInsert, if_pos rfl]

omit [DecidableEq K] in
theorem keepUnique (t : Table K V) (p : K × V → Bool) : ((t.entries.filter p).map (·.1)).Nodup :=
  (List.filter_sublist.map _).nodup t.unique

def keep (t : Table K V) (p : K × V → Bool) : Table K V := ⟨t.entries.filter p,t.keepUnique p⟩

theorem getKeep (t : Table K V) (p : K × V → Bool) (k : K) :
    (t.keep p).get k = (t.get k).filter (fun v => p (k,v)) := by
  apply Option.ext
  intro v
  rw [getMember, Option.filter_eq_some_iff, getMember]
  exact List.mem_filter

omit [DecidableEq K] in
theorem entriesNodup {entries : List (K × V)} (unique : (entries.map (·.1)).Nodup) : entries.Nodup :=
  (List.pairwise_map.mp unique).imp (fun apart same => apart (congrArg Prod.fst same))

theorem entriesPerm {t : Table K V} {k : K} {v : V} (found : t.get k = some v) : t.entries.Perm ((k,v) :: t.others k) := by
  have second : ((k,v) :: t.others k).Nodup := entriesNodup (t.extended k v)
  refine (List.perm_ext_iff_of_nodup (entriesNodup t.unique) second).mpr (fun e => ?_)
  have each : e ∈ t.entries ↔ t.get e.1 = some e.2 := getMember.symm
  rw [each, List.mem_cons, others, List.mem_filter, each]
  by_cases same : e.1 = k
  · rw [same, found]
    constructor
    · intro value
      exact .inl (Prod.ext same (Option.some.inj value).symm)
    · rintro (rfl | ⟨-,other⟩)
      · rfl
      · simp at other
  · constructor
    · intro inside
      exact .inr ⟨inside,by simpa using same⟩
    · rintro (rfl | ⟨inside,-⟩)
      · exact absurd rfl same
      · exact inside

theorem othersAbsent {t : Table K V} {k : K} (absent : t.get k = none) : t.others k = t.entries := by
  refine List.filter_eq_self.mpr (fun e inside => ?_)
  have found : t.get e.1 = some e.2 := getMember.mpr inside
  simp only [decide_not, Bool.not_eq_true', decide_eq_false_iff_not]
  intro same
  rw [same, absent] at found
  cases found

theorem lenErase (t : Table K V) (k : K) : (t.erase k).len ≤ t.len := List.length_filter_le _ _

theorem lenInsert (t : Table K V) (k : K) (v : V) : (t.insert k v).len ≤ t.len + 1 :=
  Nat.succ_le_succ (List.length_filter_le _ _)

theorem countKey (t : Table K V) (k : K) : t.entries.countP (fun e => e.1 = k) ≤ 1 := by
  have once := List.nodup_iff_count.mp t.unique k
  rw [List.count,List.countP_map] at once
  exact once

theorem emptyOf {t : Table K V} (none : ∀ k v, t.get k ≠ some v) : t.entries = [] := by
  apply List.eq_nil_iff_forall_not_mem.mpr
  intro e inside
  exact none e.1 e.2 (getMember.mpr inside)

end Table
end ReverseProxy.FiniteMap
