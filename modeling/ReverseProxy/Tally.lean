import Mathlib.Data.List.Basic

/-! Entries of a journal counted in slots. Each entry has a slot, a slot keeps the count
of some of its entries, and the slots are added up. -/
namespace ReverseProxy.Tally
variable {J B : Type}

def total (f : B → Nat) : List B → Nat
  | [] => 0
  | slot :: rest => f slot + total f rest

theorem totalZero {f : B → Nat} {slots : List B} (zero : ∀ slot ∈ slots, f slot = 0) : total f slots = 0 := by
  induction slots with
  | nil => rfl
  | cons slot rest ih =>
    rw [total, zero slot List.mem_cons_self, ih (fun later inside => zero later (List.mem_cons_of_mem slot inside))]

theorem countApart (journal : List J) (tag : J → Nat) (n : Nat) (p : J → Bool) :
    journal.countP (fun q => decide (n ≤ tag q) && p q) =
      journal.countP (fun q => decide (tag q = n) && p q) + journal.countP (fun q => decide (n + 1 ≤ tag q) && p q) := by
  induction journal with
  | nil => rfl
  | cons q rest ih =>
    cases holds : p q with
    | false => simp [holds,ih]
    | true =>
      simp only [List.countP_cons, holds, Bool.and_true, decide_eq_true_eq] at ih ⊢
      split <;> split <;> split <;> omega

theorem totalCount {slots : List B} {f : B → Nat} {journal : List J} {tag : J → Nat} {p : J → Bool} (n : Nat)
    (each : ∀ i slot, slots[i]? = some slot → f slot = journal.countP (fun q => decide (tag q = n + i) && p q)) :
    total f slots = journal.countP (fun q => decide (n ≤ tag q) && (decide (tag q < n + slots.length) && p q)) := by
  induction slots generalizing n with
  | nil =>
    refine (List.countP_eq_zero.mpr (fun q _ inside => ?_)).symm
    simp only [List.length_nil, Bool.and_eq_true, decide_eq_true_eq] at inside
    omega
  | cons slot rest ih =>
    rw [total, countApart, each 0 slot rfl, ih (n + 1) (fun i later found => ?_)]
    · refine congrArg₂ (· + ·) (List.countP_congr (fun q _ => ?_)) (List.countP_congr (fun q _ => ?_))
      · by_cases here : tag q = n
        · simp [here]
        · simp [here]
      · rw [List.length_cons, Nat.add_assoc, Nat.add_comm 1 rest.length]
    · rw [each (i + 1) later found, Nat.add_assoc, Nat.add_comm 1 i]

theorem countAll {journal : List J} {p s : J → Bool} :
    journal.countP (fun q => p q && s q) = journal.countP p ↔ ∀ q ∈ journal, p q = true → s q = true := by
  induction journal with
  | nil => simp
  | cons q rest ih =>
    have fewer : rest.countP (fun q => p q && s q) ≤ rest.countP p :=
      List.countP_mono_left (fun x _ both => (Bool.and_eq_true_iff.mp both).1)
    rw [List.countP_cons, List.countP_cons, List.forall_mem_cons, ← ih]
    cases p q with
    | false => simp
    | true =>
      cases s q with
      | false =>
        simp only [Bool.and_false, Bool.false_eq_true, if_false, if_true, forall_const, false_and, iff_false]
        omega
      | true => simp

end ReverseProxy.Tally
