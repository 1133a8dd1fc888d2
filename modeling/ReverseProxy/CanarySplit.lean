import ReverseProxy.RequestIntake
import ReverseProxy.Rounds

/-! The weights of a traffic split. In every round of hash values the canary gets its
weight exactly, and a ramp that moves weight to the canary takes no cohort back. -/
namespace ReverseProxy.CanarySplit
open GoValues CacheKey RequestIntake Rounds
open TrafficRegistry (Plan Split)

theorem chooseCanary {s : Split} {value : Nat} :
    choose s value = .canary ↔
      0 < wrap64 (s.stableWeight + s.canaryWeight) ∧ 0 < s.canaryWeight ∧
        (s.stableWeight ≤ 0 ∨
          ((value % (wrap64 (s.stableWeight + s.canaryWeight)).toNat : Nat) : Int) < s.canaryWeight) := by
  unfold choose
  grind

theorem chooseRemainder {s : Split} (stable : 0 ≤ s.stableWeight) (weighted : 0 < s.stableWeight + s.canaryWeight)
    (fits : s.stableWeight + s.canaryWeight < 2^63) (value : Nat) :
    choose s value = .canary ↔ value % (s.stableWeight + s.canaryWeight).toNat < s.canaryWeight.toNat := by
  have below : value % (s.stableWeight + s.canaryWeight).toNat < (s.stableWeight + s.canaryWeight).toNat :=
    Nat.mod_lt _ (by omega)
  rw [chooseCanary,wrap64Same (by omega) fits]
  omega

theorem canaryShare {s : Split} (stable : 0 ≤ s.stableWeight) (weighted : 0 < s.stableWeight + s.canaryWeight)
    (fits : s.stableWeight + s.canaryWeight < 2^63) (start : Nat) :
    (List.range' start (s.stableWeight + s.canaryWeight).toNat).countP (fun value => choose s value = .canary) =
      s.canaryWeight.toNat := by
  simp only [chooseRemainder stable weighted fits]
  rw [countRound (fun v => decide (v < s.canaryWeight.toNat)),countBelow]
  omega

/- The remainder is the same under both, so only the bound it is held against moves. -/
theorem rampChoose {first second : Split}
    (sum : first.stableWeight + first.canaryWeight = second.stableWeight + second.canaryWeight)
    (ramp : first.canaryWeight ≤ second.canaryWeight) {value : Nat} (sent : choose first value = .canary) :
    choose second value = .canary := by
  rw [chooseCanary] at sent ⊢
  rw [← sum]
  omega

theorem sharesAndRamps :
    (∀ s c : Int, 0 ≤ s → 0 ≤ c → 0 < s + c → s + c < 2^63 → ∀ start : Nat, start + (s + c).toNat ≤ 2^64 →
      (((List.range' start (s + c).toNat).countP (fun value => choose ⟨s,c⟩ value = .canary) : Nat) : Int) = c) ∧
    (∀ s₁ c₁ s₂ c₂ : Int, s₁ + c₁ = s₂ + c₂ → c₁ ≤ c₂ → ∀ key : Bytes,
      chooseDeterministic ⟨s₁,c₁⟩ key = .canary → chooseDeterministic ⟨s₂,c₂⟩ key = .canary) := by
  constructor
  · intro s c stable canary weighted fits start _
    rw [canaryShare (s := ⟨s,c⟩) stable weighted fits start]
    exact Int.toNat_of_nonneg canary
  · intro s₁ c₁ s₂ c₂ sum ramp key sent
    exact @rampChoose ⟨s₁,c₁⟩ ⟨s₂,c₂⟩ sum ramp _ sent

theorem quarterRamps :
    (List.range' 5 4).countP (fun value => choose ⟨3,1⟩ value = .canary) = 1 ∧
    chooseDeterministic ⟨3,1⟩ [0x61] = .canary ∧ chooseDeterministic ⟨2,2⟩ [0x61] = .canary ∧
    chooseDeterministic ⟨0,4⟩ [0x61] = .canary := by
  have sent : chooseDeterministic ⟨3,1⟩ [0x61] = .canary := by decide
  exact ⟨Int.ofNat.inj (sharesAndRamps.1 3 1 (by decide) (by decide) (by decide) (by decide) 5 (by decide)),sent,
    sharesAndRamps.2 3 1 2 2 rfl (by decide) _ sent,sharesAndRamps.2 3 1 0 4 rfl (by decide) _ sent⟩

theorem pickVariantKeyed {p : Plan} {r : Inbound} {key : Bytes} (keyed : p.cohort.bind (extract r) = some key)
    (now : Int) (random : Nat) :
    pickVariant p r now random =
      chooseDeterministic (if drained p now then { p.split with canaryWeight := 0 } else p.split) key := by
  unfold pickVariant
  rw [keyed]
  rfl

theorem rampPickVariant {first second : Plan} {r : Inbound} {key : Bytes} (cohort : second.cohort = first.cohort)
    (sum : first.split.stableWeight + first.split.canaryWeight = second.split.stableWeight + second.split.canaryWeight)
    (ramp : first.split.canaryWeight ≤ second.split.canaryWeight) (keyed : first.cohort.bind (extract r) = some key)
    {now later : Int} {random other : Nat} (calm : drained second later = false)
    (sent : pickVariant first r now random = .canary) : pickVariant second r later other = .canary := by
  rw [pickVariantKeyed keyed] at sent
  rw [pickVariantKeyed (cohort ▸ keyed),calm]
  cases before : drained first now with
  | false =>
    rw [before] at sent
    exact rampChoose sum ramp sent
  | true =>
    rw [before] at sent
    exact absurd (chooseCanary.mp sent).2.1 (by simp)

end ReverseProxy.CanarySplit
