import Mathlib.Tactic.Linarith
import Mathlib.Tactic.Ring

/-! Token buckets over any ordered ring. A bucket holds what was left at its last use; it
fills at a rate, up to a burst, and whoever is served takes one token. However the
requests fall, the served ones of an interval are at most the burst and what flows in
during the interval. -/
namespace ReverseProxy.TokenBucket
structure Bucket (K : Type) where
  remaining : K
  last : K

variable {K : Type} [CommRing K] [LinearOrder K]

/- What can be taken at a time. A bucket that was never used is full. -/
def available (burst rate : K) (now : K) : Option (Bucket K) → K
  | none => burst
  | some b => min burst (b.remaining + rate * (now - b.last))

inductive Serves (burst rate : K) : Option (Bucket K) → List (K × Bool) → Prop where
  | nil (b : Option (Bucket K)) : Serves burst rate b []
  | idle {b : Option (Bucket K)} {now : K} {log : List (K × Bool)} (tail : Serves burst rate b log) :
      Serves burst rate b ((now,false) :: log)
  | ask {b : Option (Bucket K)} {next : Bucket K} {answer : Bool} {log : List (K × Bool)} (left : 0 ≤ next.remaining)
      (paid : next.remaining + (if answer then 1 else 0) ≤ available burst rate next.last b)
      (tail : Serves burst rate (some next) log) : Serves burst rate b ((next.last,answer) :: log)

def servedBy (t : K) (log : List (K × Bool)) : Nat := log.countP (fun e => e.2 && decide (e.1 ≤ t))

def served (s t : K) (log : List (K × Bool)) : Nat := log.countP (fun e => e.2 && decide (s ≤ e.1) && decide (e.1 ≤ t))

def Settled (c : K) (b : Option (Bucket K)) : Prop := ∀ x ∈ b, 0 ≤ x.remaining ∧ x.last ≤ c

variable {burst rate : K}

theorem availableLe (now : K) (b : Option (Bucket K)) : available burst rate now b ≤ burst := by
  cases b with
  | none => exact le_refl burst
  | some b => exact min_le_left _ _

section
variable [IsStrictOrderedRing K] (flows : 0 ≤ rate)
include flows

theorem availableLater {c now : K} (later : c ≤ now) (b : Option (Bucket K)) :
    available burst rate now b ≤ available burst rate c b + rate * (now - c) := by
  have flow : 0 ≤ rate * (now - c) := mul_nonneg flows (by linarith)
  cases b with
  | none => exact le_add_of_nonneg_right flow
  | some b =>
    have split : b.remaining + rate * (now - b.last) = b.remaining + rate * (c - b.last) + rate * (now - c) := by ring
    change min burst (b.remaining + rate * (now - b.last)) ≤ min burst (b.remaining + rate * (c - b.last)) + rate * (now - c)
    rw [split,← min_add_add_right]
    exact min_le_min_right _ (le_add_of_nonneg_right flow)

variable (full : 0 ≤ burst)
include full

theorem availableNonneg {c : K} {b : Option (Bucket K)} (settled : Settled c b) : 0 ≤ available burst rate c b := by
  cases b with
  | none => exact full
  | some b =>
    obtain ⟨left,before⟩ := settled b rfl
    exact le_min full (add_nonneg left (mul_nonneg flows (by linarith)))

theorem servedFrom {b : Option (Bucket K)} {log : List (K × Bool)} {c t : K} (serves : Serves burst rate b log)
    (ordered : log.Pairwise (fun x y => x.1 ≤ y.1)) (settled : Settled c b) (after : ∀ e ∈ log, c ≤ e.1) (within : c ≤ t) :
    (servedBy t log : K) ≤ available burst rate c b + rate * (t - c) := by
  induction serves generalizing c with
  | nil b => simpa [servedBy] using add_nonneg (availableNonneg flows full settled) (mul_nonneg flows (sub_nonneg.mpr within))
  | idle tail ih =>
    have later := ih (List.pairwise_cons.mp ordered).2 settled (fun e inside => after e (List.mem_cons_of_mem _ inside)) within
    simpa [servedBy] using later
  | @ask b next answer log left paid tail ih =>
    obtain ⟨first,rest⟩ := List.pairwise_cons.mp ordered
    have now : c ≤ next.last := after _ (List.mem_cons_self ..)
    by_cases due : next.last ≤ t
    · have later := ih rest (c := next.last) (fun x own => by cases own; exact ⟨left,le_refl _⟩) first due
      have kept : available burst rate next.last b ≤ available burst rate c b + rate * (next.last - c) :=
        availableLater flows now b
      have most : available burst rate next.last (some next) ≤ next.remaining := by simp [available]
      have count : (servedBy t ((next.last,answer) :: log) : K) = servedBy t log + (if answer then 1 else 0) := by
        cases answer <;> simp [servedBy,due]
      have flow : rate * (next.last - c) + rate * (t - next.last) = rate * (t - c) := by ring
      rw [count]
      linarith
    · have nobody : servedBy t ((next.last,answer) :: log) = 0 := by
        refine List.countP_eq_zero.mpr (fun e inside => ?_)
        have past : t < e.1 := by
          rcases List.mem_cons.mp inside with rfl | inside
          · exact not_le.mp due
          · exact lt_of_lt_of_le (not_le.mp due) (first e inside)
        simp [past]
      rw [nobody,Nat.cast_zero]
      exact add_nonneg (availableNonneg flows full settled) (mul_nonneg flows (sub_nonneg.mpr within))

theorem servedWithin {b : Option (Bucket K)} {log : List (K × Bool)} {s t : K} (serves : Serves burst rate b log)
    (ordered : log.Pairwise (fun x y => x.1 ≤ y.1)) (settled : Settled s b) (within : s ≤ t) :
    (served s t log : K) ≤ burst + rate * (t - s) := by
  induction serves with
  | nil b => simpa [served] using add_nonneg full (mul_nonneg flows (sub_nonneg.mpr within))
  | idle tail ih => simpa [served] using ih (List.pairwise_cons.mp ordered).2 settled
  | @ask b next answer log left paid tail ih =>
    obtain ⟨first,rest⟩ := List.pairwise_cons.mp ordered
    by_cases early : next.last < s
    · have later := ih rest (fun x own => by cases own; exact ⟨left,le_of_lt early⟩)
      simpa [served,early] using later
    · have after : ∀ e ∈ (next.last,answer) :: log, s ≤ e.1 := by
        intro e inside
        rcases List.mem_cons.mp inside with rfl | inside
        · exact not_lt.mp early
        · exact le_trans (not_lt.mp early) (first e inside)
      have all : served s t ((next.last,answer) :: log) = servedBy t ((next.last,answer) :: log) :=
        List.countP_congr (fun e inside => by simp [after e inside])
      have paidFor := servedFrom flows full (.ask left paid tail) ordered settled after within
      have most : available burst rate s b ≤ burst := availableLe s b
      rw [all]
      linarith

end

end ReverseProxy.TokenBucket
