import Mathlib.Data.Int.Log
import Mathlib.Data.Rat.Floor
import Mathlib.Tactic.Linarith
import Mathlib.Tactic.NormNum
import Mathlib.Tactic.FieldSimp
import Mathlib.Tactic.Ring

/-! Rounding to binary floating point with significands of 53 bits, to nearest with ties
to even. Exponents are not bounded: the numbers are taken to be in the range where the
format has no subnormal numbers and no overflow. -/
namespace ReverseProxy.Binary64

def nearestEven (x : Rat) : Int :=
  if 2 * (x - x.floor) < 1 then x.floor
  else if 1 < 2 * (x - x.floor) then x.floor + 1
  else if x.floor % 2 = 0 then x.floor
  else x.floor + 1

def unit (x : Rat) : Rat := 2 ^ (Int.log 2 |x| - 52)

def float64 (x : Rat) : Rat := nearestEven (x / unit x) * unit x

theorem nearestEvenInt (n : Int) : nearestEven n = n := by
  have whole : ((n : Rat)).floor = n := Rat.floor_intCast n
  unfold nearestEven
  rw [whole]
  norm_num

theorem nearestEvenNear (x : Rat) : |(nearestEven x : Rat) - x| ≤ 1 / 2 := by
  have low : (x.floor : Rat) ≤ x := Rat.floor_le x
  have high : x < x.floor + 1 := by simpa using Rat.lt_floor_add_one x
  unfold nearestEven
  rw [abs_le]
  split
  · constructor <;> linarith
  · split
    · push_cast
      constructor <;> linarith
    · split
      · constructor <;> linarith
      · push_cast
        constructor <;> linarith

theorem unitPositive (x : Rat) : 0 < unit x := zpow_pos (by norm_num) _

theorem unitBelow {x : Rat} {n : Int} (positive : 0 < x) (bound : x < 2 ^ n) : unit x ≤ 2 ^ (n - 53) := by
  have log : Int.log 2 |x| < n := by
    rw [abs_of_pos positive]
    exact (Int.lt_zpow_iff_log_lt (by norm_num) positive).mp (by exact_mod_cast bound)
  unfold unit
  exact zpow_le_zpow_right₀ (by norm_num) (by omega)

theorem float64Same {x : Rat} {k : Int} (whole : x = k * unit x) : float64 x = x := by
  have ratio : x / unit x = k := by
    rw [div_eq_iff (unitPositive x).ne']
    exact whole
  unfold float64
  rw [ratio, nearestEvenInt]
  exact whole.symm

theorem float64Near (x : Rat) : |float64 x - x| ≤ unit x / 2 := by
  have positive := unitPositive x
  have near := nearestEvenNear (x / unit x)
  have scaled : float64 x - x = ((nearestEven (x / unit x) : Rat) - x / unit x) * unit x := by
    unfold float64
    field_simp
  rw [scaled, abs_mul, abs_of_pos positive]
  linarith [mul_le_mul_of_nonneg_right near positive.le]

theorem nearestEvenGe {x : Rat} {n : Int} (le : n ≤ x) : n ≤ nearestEven x := by
  have low : n ≤ x.floor := Rat.le_floor_iff.mpr le
  unfold nearestEven
  split
  · exact low
  · split
    · omega
    · split <;> omega

theorem nearestEvenLe {x : Rat} {n : Int} (le : x ≤ n) : nearestEven x ≤ n := by
  rcases eq_or_lt_of_le le with same | less
  · rw [same, nearestEvenInt]
  · have low : x.floor < n := Rat.floor_lt_iff.mpr less
    unfold nearestEven
    split
    · omega
    · split
      · omega
      · split <;> omega

theorem float64Positive {x : Rat} (positive : 0 < x) : 0 < float64 x := by
  have power : (2 : Rat) ^ (Int.log 2 |x|) ≤ x := by
    rw [abs_of_pos positive]
    exact_mod_cast Int.zpow_log_le_self (by norm_num) positive
  have ratio : ((2^52 : Int) : Rat) ≤ x / unit x := by
    rw [le_div_iff₀ (unitPositive x)]
    refine le_trans (le_of_eq ?_) power
    unfold unit
    rw [zpow_sub₀ (by norm_num)]
    norm_num
    ring
  have large := nearestEvenGe ratio
  have whole : (0 : Rat) < nearestEven (x / unit x) := by exact_mod_cast lt_of_lt_of_le (by norm_num) large
  exact mul_pos whole (unitPositive x)

theorem float64Above {x : Rat} {n : Int} (positive : 0 < x) (bound : x < 2 ^ n) : x - 2 ^ (n - 54) ≤ float64 x := by
  have near := (abs_le.mp (float64Near x)).1
  have fine := unitBelow positive bound
  have halves : (2 : Rat) ^ (n - 53) = 2 * 2 ^ (n - 54) := by
    rw [show n - 53 = 1 + (n - 54) by omega, zpow_add₀ (by norm_num), zpow_one]
  linarith

section
variable {x y : Rat} {k e : Int}

theorem multiple (value : y = k * 2 ^ e) (small : |k| < 2^53) (nonzero : x ≠ 0) (le : |x| ≤ |y|) :
    ∃ n : Int, y = n * unit x := by
  have two : (2 : Rat) ≠ 0 := by norm_num
  have cast : |(k : Rat)| < 2^53 := by exact_mod_cast small
  have below : |x| < 2 ^ (e + 53) := by
    refine lt_of_le_of_lt le ?_
    rw [value, abs_mul, abs_of_pos (zpow_pos (by norm_num : (0 : Rat) < 2) e), zpow_add₀ two, mul_comm]
    exact mul_lt_mul_of_pos_left cast (zpow_pos (by norm_num) e)
  have high : Int.log 2 |x| < e + 53 :=
    (Int.lt_zpow_iff_log_lt (by norm_num) (abs_pos.mpr nonzero)).mp (by exact_mod_cast below)
  obtain ⟨shift,gap⟩ := Int.le.dest (show Int.log 2 |x| - 52 ≤ e by omega)
  have exponent : (2 : Rat) ^ e = 2^shift * unit x := by
    unfold unit
    rw [← gap, zpow_add₀ two, zpow_natCast, mul_comm]
  refine ⟨k * 2^shift,?_⟩
  rw [value, exponent]
  push_cast
  rw [mul_assoc]

theorem float64Exact (value : x = k * 2 ^ e) (small : |k| < 2^53) : float64 x = x := by
  rcases eq_or_ne x 0 with zero | nonzero
  · refine @float64Same x 0 ?_
    rw [zero, Int.cast_zero, zero_mul]
  · obtain ⟨n,whole⟩ := multiple value small nonzero le_rfl
    exact float64Same whole

theorem float64Below (value : y = k * 2 ^ e) (small : |k| < 2^53) (positive : 0 < x) (le : x ≤ y) : float64 x ≤ y := by
  obtain ⟨n,whole⟩ := multiple value small positive.ne' (by rwa [abs_of_pos positive, abs_of_pos (lt_of_lt_of_le positive le)])
  have ratio : x / unit x ≤ n := by
    rw [div_le_iff₀ (unitPositive x), ← whole]
    exact le
  have rounded : (nearestEven (x / unit x) : Rat) ≤ n := by exact_mod_cast nearestEvenLe ratio
  rw [whole]
  exact mul_le_mul_of_nonneg_right rounded (unitPositive x).le

end

theorem float64Int {n : Int} (small : |n| < 2^53) : float64 n = n :=
  @float64Exact n n 0 (by rw [zpow_zero, mul_one]) small

end ReverseProxy.Binary64
