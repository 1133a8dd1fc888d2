import Mathlib.Data.List.Sort

/-! The first k of a list by a linear order on any type. They do not depend on how the
list was arranged, and they are those with fewer than k others before them. -/
namespace ReverseProxy.Ranking
variable {α : Type} (r : α → α → Prop) [DecidableRel r]

def first (k : Nat) (l : List α) : List α := (l.insertionSort r).take k

def rank (l : List α) (x : α) : Nat := l.countP (fun y => !decide (r x y))

theorem firstLength (k : Nat) (l : List α) : (first r k l).length = min k l.length := by
  rw [first,List.length_take,List.length_insertionSort]

theorem firstSubset {k : Nat} {l : List α} {x : α} (inside : x ∈ first r k l) : x ∈ l :=
  (List.perm_insertionSort r l).mem_iff.mp (List.mem_of_mem_take inside)

theorem rankPerm {a b : List α} (perm : a.Perm b) (x : α) : rank r a x = rank r b x := perm.countP_eq _

variable [Std.Total r] [IsTrans α r]

theorem firstAhead {k : Nat} {l : List α} {x y : α} (chosen : x ∈ first r k l) (member : y ∈ l) (left : y ∉ first r k l) :
    r x y := by
  have sorted := List.pairwise_insertionSort r l
  rw [← List.take_append_drop k (l.insertionSort r)] at sorted
  have there : y ∈ (l.insertionSort r).take k ++ (l.insertionSort r).drop k := by
    rw [List.take_append_drop]
    exact (List.perm_insertionSort r l).mem_iff.mpr member
  exact (List.pairwise_append.mp sorted).2.2 x chosen y ((List.mem_append.mp there).resolve_left left)

variable [Std.Antisymm r]

theorem firstPerm {a b : List α} (perm : a.Perm b) (k : Nat) : first r k a = first r k b := by
  have same := ((List.perm_insertionSort r a).trans perm).trans (List.perm_insertionSort r b).symm
  unfold first
  rw [List.Perm.eq_of_pairwise' (List.pairwise_insertionSort r a) (List.pairwise_insertionSort r b) same]

omit [IsTrans α r] in
theorem sortedMember {l : List α} (sorted : l.Pairwise r) (once : l.Nodup) {k : Nat} {x : α} :
    x ∈ l.take k ↔ x ∈ l ∧ rank r l x < k := by
  induction l generalizing k with
  | nil => simp
  | cons head tail ih =>
    obtain ⟨least,rest⟩ := List.pairwise_cons.mp sorted
    obtain ⟨fresh,others⟩ := List.nodup_cons.mp once
    cases k with
    | zero => simp
    | succ k =>
      have reflexive : r head head := (Std.Total.total (r := r) head head).elim id id
      rw [List.take_succ_cons,List.mem_cons,List.mem_cons,ih rest others]
      by_cases own : x = head
      · subst own
        have lowest : rank r (x :: tail) x = 0 := by
          refine List.countP_eq_zero.mpr (fun y inside => ?_)
          rcases List.mem_cons.mp inside with rfl | later
          · simp [reflexive]
          · simp [least y later]
        simp [lowest]
      · have behind : x ∈ tail → rank r (head :: tail) x = rank r tail x + 1 := by
          intro inside
          have later : ¬r x head := fun before => own (antisymm before (least x inside))
          simp [rank,later]
        constructor
        · rintro (same | ⟨inside,low⟩)
          · exact absurd same own
          · exact ⟨.inr inside,by rw [behind inside]; omega⟩
        · rintro ⟨same | inside,low⟩
          · exact absurd same own
          · rw [behind inside] at low
            exact .inr ⟨inside,by omega⟩

theorem firstMember {l : List α} (once : l.Nodup) {k : Nat} {x : α} : x ∈ first r k l ↔ x ∈ l ∧ rank r l x < k := by
  have perm := List.perm_insertionSort r l
  rw [first,sortedMember r (List.pairwise_insertionSort r l) (perm.nodup_iff.mpr once),rankPerm r perm,perm.mem_iff]

end ReverseProxy.Ranking
