import Mathlib.Logic.Function.Basic

/-! The steps of xor-shift generators over words of any width: a word xored with its own
shift, and a product with a unit. None of them loses information. -/
namespace ReverseProxy.XorShift
variable {w : Nat}

def xorRight (k : Nat) (x : BitVec w) : BitVec w := x ^^^ (x >>> k)

def xorLeft (k : Nat) (x : BitVec w) : BitVec w := x ^^^ (x <<< k)

theorem xorRightInjective {k : Nat} (moves : 0 < k) : Function.Injective (xorRight (w := w) k) := by
  intro x y same
  have bits : ∀ n i, w ≤ i + n → x.getLsbD i = y.getLsbD i := by
    intro n
    induction n with
    | zero =>
      intro i high
      rw [BitVec.getLsbD_of_ge x i high,BitVec.getLsbD_of_ge y i high]
    | succ n ih =>
      intro i high
      have bit := congrArg (·.getLsbD i) same
      simp only [xorRight,BitVec.getLsbD_xor,BitVec.getLsbD_ushiftRight,ih (k + i) (by omega)] at bit
      exact Bool.xor_left_inj.mp bit
  exact BitVec.eq_of_getLsbD_eq (fun i _ => bits w i (by omega))

theorem xorLeftInjective {k : Nat} (moves : 0 < k) : Function.Injective (xorLeft (w := w) k) := by
  intro x y same
  have bits : ∀ n i, i < n → x.getLsbD i = y.getLsbD i := by
    intro n
    induction n with
    | zero =>
      intro i low
      omega
    | succ n ih =>
      intro i low
      have bit := congrArg (·.getLsbD i) same
      simp only [xorLeft,BitVec.getLsbD_xor,BitVec.getLsbD_shiftLeft] at bit
      by_cases shifted : i < k
      · simpa [shifted] using bit
      · rw [ih (i - k) (by omega)] at bit
        exact Bool.xor_left_inj.mp bit
  exact BitVec.eq_of_getLsbD_eq (fun i _ => bits (i + 1) i (by omega))

theorem mulInjective {c inverse : BitVec w} (unit : c * inverse = 1#w) : Function.Injective (· * c) := by
  intro x y same
  have scaled : x * c * inverse = y * c * inverse := congrArg (· * inverse) same
  rwa [BitVec.mul_assoc,BitVec.mul_assoc,unit,BitVec.mul_one,BitVec.mul_one] at scaled

end ReverseProxy.XorShift
