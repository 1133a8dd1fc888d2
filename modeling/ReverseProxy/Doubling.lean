import ReverseProxy.GoValues

/-! Doubling an int64 until it reaches a limit. The product is compared only after it
has wrapped, so the result is the capped power of two exactly when the first product
at or over the limit is an int64 itself. -/
namespace ReverseProxy.Doubling
open GoValues

def climb (limit : Int) : Nat → Int → Int
  | 0,value => value
  | turns + 1,value => if limit ≤ wrap64 (value * 2) then limit else climb limit turns (wrap64 (value * 2))

def capped (limit base : Int) (turns : Nat) : Int := min (base * 2^turns) limit

/- Some product of the climb is at or over the limit and still an int64. -/
def Reaches (limit base : Int) : Prop := ∃ turns : Nat, limit ≤ base * 2^(turns + 1) ∧ base * 2^(turns + 1) < 2^63

section
variable {limit base : Int}

theorem baseLe (positive : 0 < base) (turns : Nat) : base ≤ base * 2^turns := by
  induction turns with
  | zero => exact Int.le_of_eq (by rw [Int.pow_zero, Int.mul_one])
  | succ turns ih =>
    rw [Int.pow_succ, ← Int.mul_assoc]
    omega

theorem growsWith (positive : 0 < base) {less more : Nat} (le : less ≤ more) : base * 2^less ≤ base * 2^more := by
  obtain ⟨rest,rfl⟩ := Nat.exists_eq_add_of_le le
  have low := baseLe positive less
  rw [Int.pow_add, ← Int.mul_assoc]
  exact baseLe (by omega) rest

theorem nextPower (base : Int) (turns : Nat) : base * 2^(turns + 1) = base * 2 * 2^turns := by
  rw [Int.pow_succ, Int.mul_comm (2^turns) 2, Int.mul_assoc]

theorem Reaches.fits (positive : 0 < base) (reaches : Reaches limit base) : wrap64 (base * 2) = base * 2 := by
  obtain ⟨turns,_,fits⟩ := reaches
  rw [nextPower] at fits
  have le : base * 2 ≤ base * 2 * 2^turns := baseLe (by omega) turns
  exact wrap64Same (by omega) (by omega)

theorem Reaches.next (reaches : Reaches limit base) (below : base * 2 < limit) : Reaches limit (base * 2) := by
  obtain ⟨turns,least,fits⟩ := reaches
  cases turns with
  | zero =>
    rw [Int.pow_succ, Int.pow_zero, Int.one_mul] at least
    omega
  | succ turns =>
    rw [nextPower] at least fits
    exact ⟨turns,least,fits⟩

theorem climbCapped (positive : 0 < base) (reaches : Reaches limit base) (turns : Nat) :
    min (climb limit turns base) limit = capped limit base turns := by
  unfold capped
  induction turns generalizing base with
  | zero => rw [climb, Int.pow_zero, Int.mul_one]
  | succ turns ih =>
    rw [climb, reaches.fits positive, nextPower]
    split
    · rename_i least
      have le : base * 2 ≤ base * 2 * 2^turns := baseLe (by omega) turns
      omega
    · rename_i below
      exact ih (by omega) (reaches.next (Int.not_le.mp below))

theorem climbOver (positive : 0 < base) (small : base < 2^63) (limited : 0 < limit) (wide : 2^63 ≤ base * 2) :
    -(2^63) ≤ climb limit 1 base ∧ climb limit 1 base < 0 := by
  have wrapped := wrap64Over (n := base * 2) wide (by omega)
  rw [climb, wrapped, if_neg (by omega), climb]
  omega

theorem Reaches.before (reaches : Reaches limit (base * 2)) : Reaches limit base := by
  obtain ⟨turns,least,fits⟩ := reaches
  rw [← nextPower] at least fits
  exact ⟨turns + 1,least,fits⟩

theorem climbFalls (positive : 0 < base) (small : base < 2^63) (limited : 0 < limit) (misses : ¬Reaches limit base)
    {fuel : Nat} (least : limit ≤ base * 2^(fuel + 1)) : 
    ∃ turns, turns ≤ fuel + 1 ∧ -(2^63) ≤ climb limit turns base ∧ climb limit turns base < 0 := by
  induction fuel generalizing base with
  | zero =>
    have wide : ¬base * 2 < 2^63 := fun fits => misses ⟨0,least,fits⟩
    exact ⟨1,Nat.le_refl 1,climbOver positive small limited (Int.not_lt.mp wide)⟩
  | succ fuel ih =>
    by_cases fits : base * 2 < 2^63
    · have below : ¬limit ≤ base * 2 := fun reached => misses ⟨0,reached,fits⟩
      rw [nextPower] at least
      obtain ⟨turns,few,falls⟩ := ih (by omega) fits (fun reaches => misses reaches.before) least
      refine ⟨turns + 1,by omega,?_⟩
      rw [climb, wrap64Same (by omega) fits, if_neg below]
      exact falls
    · exact ⟨1,by omega,climbOver positive small limited (Int.not_lt.mp fits)⟩

end
end ReverseProxy.Doubling
