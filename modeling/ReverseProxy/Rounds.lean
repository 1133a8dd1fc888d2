import Mathlib.Data.Nat.Periodic

/-! Consecutive numbers taken modulo n. However a full round starts, it meets every
residue once, so a property of residues is met as often as in the first round. -/
namespace ReverseProxy.Rounds

theorem countRound (p : Nat → Bool) (start n : Nat) :
    (List.range' start n).countP (fun v => p (v % n)) = (List.range n).countP p := by
  have periodic : Function.Periodic (fun v => p (v % n) = true) n := by
    intro v
    simp
  have window := Nat.filter_Ico_card_eq_of_periodic start n _ periodic
  rw [Nat.Ico_eq_range',Nat.add_sub_cancel_left] at window
  calc (List.range' start n).countP (fun v => p (v % n))
    _ = (List.range n).countP (fun v => p (v % n)) := by
      rw [List.countP_eq_length_filter]
      simpa [Nat.count,Finset.card_def] using window
    _ = (List.range n).countP p :=
      List.countP_congr (fun v inside => by rw [Nat.mod_eq_of_lt (List.mem_range.mp inside)])

theorem countRounds (p : Nat → Bool) (start n k : Nat) :
    (List.range' start (k * n)).countP (fun v => p (v % n)) = k * (List.range n).countP p := by
  induction k generalizing start with
  | zero => simp
  | succ k ih =>
    rw [Nat.succ_mul,Nat.add_comm (k * n),← List.range'_append_1,List.countP_append,countRound,ih,Nat.succ_mul,
      Nat.add_comm]

theorem countBelow (n c : Nat) : (List.range n).countP (fun v => decide (v < c)) = min n c := by
  induction n with
  | zero => simp
  | succ n ih =>
    rw [List.range_succ,List.countP_append,ih,List.countP_singleton]
    split <;> simp only [decide_eq_true_eq] at * <;> omega

theorem countPlace {n i : Nat} (inside : i < n) (start k : Nat) :
    ((List.range' start (k * n)).map (· % n)).count i = k := by
  have once : (List.range n).countP (fun v => v == i) = 1 := List.count_eq_one_of_mem List.nodup_range (List.mem_range.mpr inside)
  rw [List.count,List.countP_map]
  exact (countRounds (· == i) start n k).trans (by rw [once,Nat.mul_one])

end ReverseProxy.Rounds
