import Mathlib.Data.List.DropRight
import Mathlib.Data.List.Rotate

/-! A ring that is overwritten in place, over any type: its cells and the place of the
next write. Read from that place on it is the end of what was there before followed by
everything written. -/
namespace ReverseProxy.RingWrites
variable {α : Type}

def write (r : List α × Nat) (x : α) : List α × Nat := (r.1.set r.2 x,(r.2 + 1) % r.1.length)

def writes (r : List α × Nat) (xs : List α) : List α × Nat := xs.foldl write r

def unrolled (r : List α × Nat) : List α := r.1.rotate r.2

theorem writeLength (r : List α × Nat) (x : α) : (write r x).1.length = r.1.length := List.length_set ..

theorem writeInside {r : List α × Nat} (inside : r.2 < r.1.length) (x : α) : (write r x).2 < (write r x).1.length := by
  rw [writeLength]
  exact Nat.mod_lt _ (by omega)

theorem unrolledWrite {r : List α × Nat} (inside : r.2 < r.1.length) (x : α) :
    unrolled (write r x) = (unrolled r).tail ++ [x] := by
  have before : (r.1.take r.2 ++ [x]).length = r.2 + 1 := by
    rw [List.length_append,List.length_take,List.length_singleton,Nat.min_eq_left (by omega)]
  have cells : r.1.set r.2 x = (r.1.take r.2 ++ [x]) ++ r.1.drop (r.2 + 1) := by
    rw [List.set_eq_take_append_cons_drop,if_pos inside]
    simp
  have turned : unrolled (write r x) = (r.1.set r.2 x).rotate (r.2 + 1) := by
    unfold unrolled write
    rw [← List.length_set (i := r.2) (a := x),List.rotate_mod]
  have halves := List.rotate_append_length_eq (r.1.take r.2 ++ [x]) (r.1.drop (r.2 + 1))
  rw [before] at halves
  rw [turned,cells,halves,unrolled,List.rotate_eq_drop_append_take (by omega),List.drop_eq_getElem_cons inside,
    List.cons_append,List.tail_cons,List.append_assoc]

theorem writesInside {r : List α × Nat} (inside : r.2 < r.1.length) (xs : List α) :
    (writes r xs).2 < (writes r xs).1.length := by
  induction xs generalizing r with
  | nil => exact inside
  | cons x rest ih => exact ih (writeInside inside x)

theorem writesLength (r : List α × Nat) (xs : List α) : (writes r xs).1.length = r.1.length := by
  induction xs generalizing r with
  | nil => rfl
  | cons x rest ih => exact (ih (write r x)).trans (writeLength r x)

theorem writesPlace {r : List α × Nat} (inside : r.2 < r.1.length) (xs : List α) :
    (writes r xs).2 = (r.2 + xs.length) % r.1.length := by
  induction xs generalizing r with
  | nil => exact (Nat.mod_eq_of_lt inside).symm
  | cons x rest ih =>
    have later := ih (writeInside inside x)
    rw [writeLength] at later
    rw [writes,List.foldl_cons]
    refine later.trans ?_
    rw [write,Nat.mod_add_mod,List.length_cons]
    congr 1
    omega

theorem unrolledWrites {r : List α × Nat} (inside : r.2 < r.1.length) (xs : List α) :
    unrolled (writes r xs) = (unrolled r ++ xs).drop xs.length := by
  induction xs generalizing r with
  | nil => simp [writes]
  | cons x rest ih =>
    rw [writes,List.foldl_cons]
    refine (ih (writeInside inside x)).trans ?_
    have filled : 0 < (unrolled r).length := by
      rw [unrolled,List.length_rotate]
      omega
    rw [unrolledWrite inside]
    cases old : unrolled r with
    | nil => rw [old] at filled; cases filled
    | cons head tail => simp

theorem freshHolds {n : Nat} (positive : 0 < n) (fill : α) (xs : List α) :
    ((writes (List.replicate n fill,0) xs).1.take (min xs.length n)).Perm (xs.rtake (min xs.length n)) := by
  have inside : (0 : Nat) < (List.replicate n fill).length := by simpa using positive
  have length := writesLength (List.replicate n fill,0) xs
  have place := writesPlace (r := (List.replicate n fill,0)) inside xs
  have content := unrolledWrites (r := (List.replicate n fill,0)) inside xs
  simp only [unrolled,List.rotate_zero,List.length_replicate,Nat.zero_add] at length place content
  by_cases young : xs.length < n
  · rw [Nat.mod_eq_of_lt young] at place
    rw [place,List.rotate_eq_drop_append_take (by omega),List.drop_append_of_le_length (by simp; omega)] at content
    have cells := (List.append_inj content (by simp [length])).2
    rw [Nat.min_eq_left (by omega),cells,List.rtake]
    simp
  · rw [Nat.min_eq_right (by omega),List.take_of_length_le (by omega),List.rtake]
    have last : (List.replicate n fill ++ xs).drop xs.length = xs.drop (xs.length - n) := by
      rw [List.drop_append,List.drop_of_length_le (by simp; omega)]
      simp
    rw [← last,← content]
    exact (List.rotate_perm _ _).symm

end ReverseProxy.RingWrites
