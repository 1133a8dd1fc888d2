import ReverseProxy.Doubling
import ReverseProxy.OutlierDetection
import ReverseProxy.PoolRegistry

/-! How long an ejection lasts. Packages pool and outlier double the base duration once
for each earlier ejection, in the same loop over int64 values, and cap the result. -/
namespace ReverseProxy.EjectDurations
open GoValues Doubling
open PolicyBuild (Health Outlier)
open PoolRegistry (EndpointRuntime)

def duration (base limit : Duration) (count : Int) : Duration :=
  let base := if base ≤ 0 then second else base
  let limit := if limit ≤ 0 then base else limit
  min (climb limit (count - 1).toNat base) limit

theorem minLess (a b : Int) : (if b < a then b else a) = min a b := by
  split <;> omega

theorem poolUntil (e : EndpointRuntime) (cfg : Health) (now : Int) : (e.eject cfg now).ejectUntil =
    wrap64 (now + duration cfg.baseEjectDuration cfg.maxEjectDuration (e.eject cfg now).ejectCount) := by
  unfold EndpointRuntime.eject duration
  dsimp only
  rw [minLess]

theorem outlierUntil (e : OutlierRegistry.EndpointState) (cfg : Outlier) (now : Int) :
    (OutlierDetection.eject e cfg now).ejectUntil =
      wrap64 (now + duration cfg.baseEjectDuration cfg.maxEjectDuration (OutlierDetection.eject e cfg now).ejectCount) := by
  unfold OutlierDetection.eject duration
  dsimp only
  rw [minLess]

section
variable {base limit : Int}

theorem durationCapped (positive : 0 < base) (limited : 0 < limit) (reaches : Reaches limit base) (count : Int) :
    duration base limit count = capped limit base (count - 1).toNat := by
  unfold duration
  dsimp only
  rw [if_neg (Int.not_le.mpr positive), if_neg (Int.not_le.mpr limited)]
  exact climbCapped positive reaches _

theorem cappedMono (positive : 0 < base) {less more : Nat} (le : less ≤ more) :
    capped limit base less ≤ capped limit base more := by
  have grows := growsWith positive le
  unfold capped
  omega

theorem cappedBase (positive : 0 < base) (ordered : base ≤ limit) (turns : Nat) : base ≤ capped limit base turns := by
  have low := baseLe positive turns
  unfold capped
  omega

theorem cappedPositive (positive : 0 < base) (limited : 0 < limit) (turns : Nat) : 0 < capped limit base turns := by
  have low := baseLe positive turns
  unfold capped
  omega

end

structure Doubles (base limit : Int) : Prop where
  pool : ∀ (e : EndpointRuntime) (cfg : Health) (now : Int), cfg.baseEjectDuration = base → cfg.maxEjectDuration = limit →
    1 ≤ (e.eject cfg now).ejectCount →
    (e.eject cfg now).ejectUntil = wrap64 (now + min (base * 2^((e.eject cfg now).ejectCount - 1).toNat) limit)
  outlier : ∀ (e : OutlierRegistry.EndpointState) (cfg : Outlier) (now : Int), cfg.baseEjectDuration = base →
    cfg.maxEjectDuration = limit → 1 ≤ (OutlierDetection.eject e cfg now).ejectCount →
    (OutlierDetection.eject e cfg now).ejectUntil =
      wrap64 (now + min (base * 2^((OutlierDetection.eject e cfg now).ejectCount - 1).toNat) limit)
  positive : ∀ turns : Nat, 0 < min (base * 2^turns) limit
  grows : ∀ turns : Nat, min (base * 2^turns) limit ≤ min (base * 2^(turns + 1)) limit

section
variable {base limit : Int}

theorem reachesDoubles (positive : 0 < base) (limited : 0 < limit) (reaches : Reaches limit base) : Doubles base limit where
  pool e cfg now sameBase sameLimit _ := by
    subst sameBase sameLimit
    rw [poolUntil, durationCapped positive limited reaches]
    rfl
  outlier e cfg now sameBase sameLimit _ := by
    subst sameBase sameLimit
    rw [outlierUntil, durationCapped positive limited reaches]
    rfl
  positive := cappedPositive positive limited
  grows turns := cappedMono positive (Nat.le_succ turns)

def plainOutlier (base limit : Int) : Outlier := ⟨true,1,0,0,0,base,limit,0,false,0,0,0,0,0⟩

theorem doublesAt (doubles : Doubles base limit) (positive : 0 < base) (limited : 0 < limit) {turns : Nat} (few : turns < 2^31 - 1) :
    wrap64 (min (climb limit turns base) limit) = wrap64 (capped limit base turns) := by
  have count : (OutlierDetection.eject { ejectCount := turns } (plainOutlier base limit) 0).ejectCount = turns + 1 := by
    unfold OutlierDetection.eject
    dsimp only
    rw [if_neg (fun late => absurd late.1 (Int.lt_irrefl 0)), wrap32Same (by omega) (by omega)]
  have ejects := doubles.outlier { ejectCount := turns } (plainOutlier base limit) 0 rfl rfl (by rw [count]; omega)
  rw [outlierUntil, count, Int.add_sub_cancel, Int.toNat_natCast, Int.zero_add, Int.zero_add] at ejects
  unfold duration plainOutlier at ejects
  dsimp only at ejects
  rw [if_neg (Int.not_le.mpr positive), if_neg (Int.not_le.mpr limited), Int.add_sub_cancel, Int.toNat_natCast] at ejects
  exact ejects

theorem doublesReaches (baseRange : base < 2^63) (limitRange : limit < 2^63) (doubles : Doubles base limit) :
    0 < base ∧ 0 < limit ∧ Reaches limit base := by
  have first := doubles.positive 0
  rw [Int.pow_zero, Int.mul_one] at first
  have positive : 0 < base := by omega
  have limited : 0 < limit := by omega
  refine ⟨positive,limited,Classical.byContradiction (fun misses => ?_)⟩
  have least : limit ≤ base * 2^(62 + 1) := by omega
  obtain ⟨turns,few,low,falls⟩ := climbFalls positive baseRange limited misses least
  have same : wrap64 (min (climb limit turns base) limit) = wrap64 (capped limit base turns) :=
    doublesAt doubles positive limited (by omega)
  have above := cappedPositive positive limited turns
  have below : capped limit base turns ≤ limit := Int.min_le_right _ _
  rw [wrap64Same (by omega) (by omega), wrap64Same (by omega) (by omega)] at same
  omega

end

theorem durationsExact (base limit : Int) (baseRange : base < 2^63) (limitRange : limit < 2^63) :
    Doubles base limit ↔ 0 < base ∧ 0 < limit ∧ Reaches limit base :=
  ⟨doublesReaches baseRange limitRange,fun ⟨positive,limited,reaches⟩ => reachesDoubles positive limited reaches⟩

theorem defaultsDouble : Doubles (30 * second) (10 * minute) :=
  (durationsExact (30 * second) (10 * minute) (by decide) (by decide)).mpr ⟨by decide,by decide,4,by decide,by decide⟩

theorem secondEjectionWraps : ¬Doubles (milliseconds 5000000000000) (milliseconds 9000000000000) ∧
    (OutlierDetection.eject { ejectCount := 1 } (plainOutlier (milliseconds 5000000000000) (milliseconds 9000000000000)) 0).ejectUntil
      = 10000000000000000000 - 2^64 := by
  have falls : (OutlierDetection.eject { ejectCount := 1 }
      (plainOutlier (milliseconds 5000000000000) (milliseconds 9000000000000)) 0).ejectUntil = 10000000000000000000 - 2^64 := by
    decide
  refine ⟨fun doubles => ?_,falls⟩
  have ejects := doubles.outlier { ejectCount := 1 } (plainOutlier (milliseconds 5000000000000) (milliseconds 9000000000000)) 0
    rfl rfl (by decide)
  rw [falls] at ejects
  revert ejects
  decide

end ReverseProxy.EjectDurations
