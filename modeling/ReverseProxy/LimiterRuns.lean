import ReverseProxy.LimiterSlots
import ReverseProxy.Transition

/-! Any number of callers at one overload limiter, in any order of their channel
operations. -/
namespace ReverseProxy.LimiterRuns
open LimiterSlots
open TrafficRegistry (OverloadLimiter newOverloadLimiter)
open Transition (Runs anyStep runAll runAllRuns)

structure State where
  channels : Channels := {}
  callers : List Place := []
  deriving DecidableEq, Repr

inductive Action where
  | call
  | act (i : Nat) (mv : Move)

def step (l : OverloadLimiter) (s : State) : Action → Option State
  | .call => some { s with callers := s.callers ++ [.entering] }
  | .act i mv => do
    let place ← s.callers[i]?
    let (next,channels) ← move l s.channels place mv
    some ⟨channels,s.callers.set i next⟩

inductive Stepped (l : OverloadLimiter) (s : State) : Action → State → Prop where
  | called : Stepped l s .call { s with callers := s.callers ++ [.entering] }
  | acted {i mv place next channels} (found : s.callers[i]? = some place) (went : Moved l s.channels place mv next channels) :
      Stepped l s (.act i mv) ⟨channels,s.callers.set i next⟩

theorem stepped {l : OverloadLimiter} {s t : State} {a : Action} (taken : step l s a = some t) : Stepped l s a t := by
  cases a with
  | call =>
    cases taken
    exact .called
  | act i mv =>
    simp only [step, bind, Option.bind_eq_some_iff] at taken
    obtain ⟨place,found,⟨next,channels⟩,went,same⟩ := taken
    cases same
    exact .acted found (moved went)

def holders (s : State) : Nat := s.callers.countP Place.holds

def waiting (s : State) : Nat := s.callers.countP Place.waits

structure Owned (l : OverloadLimiter) (s : State) : Prop where
  slots : s.channels.inflight = holders s
  places : s.channels.queue = waiting s
  inflight : s.channels.inflight ≤ l.maxInflight.toNat
  queue : s.channels.queue ≤ l.maxQueue.toNat

structure Safe (maxInflight maxQueue : Int) (l : OverloadLimiter) (s : State) : Prop where
  inflight : holders s ≤ maxInflight.toNat
  queue : waiting s ≤ maxQueue.toNat
  releases : Place.past ∈ s.callers → (move l s.channels .past .release).isSome = true
  leaves : ∀ place ∈ s.callers, place = .slotted ∨ place = .expired → (move l s.channels place .leaveQueue).isSome = true
  empty : holders s = 0 → waiting s = 0 → s.channels = {}

section
variable {l : OverloadLimiter} {s t : State} {a : Action}

theorem ownedStart (l : OverloadLimiter) : Owned l {} := ⟨rfl,rfl,Nat.zero_le _,Nat.zero_le _⟩

theorem stepOwned (owned : Owned l s) (taken : Stepped l s a t) : Owned l t := by
  obtain ⟨slots,places,inflight,queue⟩ := owned
  cases taken with
  | called =>
    exact ⟨slots.trans (Crew.countJoin Place.holds s.callers .entering).symm,
      places.trans (Crew.countJoin Place.waits s.callers .entering).symm,inflight,queue⟩
  | @acted i mv place next channels found went =>
    refine ⟨?_,?_,went.capped inflight,went.queueCapped queue⟩
    · have moves := Crew.countMove Place.holds found next
      have same := went.slots
      unfold holders at slots ⊢
      dsimp only
      omega
    · have moves := Crew.countMove Place.waits found next
      have same := went.places
      unfold waiting at places ⊢
      dsimp only
      omega

theorem Owned.releases (owned : Owned l s) (inside : Place.past ∈ s.callers) :
    (move l s.channels .past .release).isSome = true := by
  have token : 0 < s.channels.inflight := by
    rw [owned.slots]
    exact Crew.countPositive _ inside rfl
  simp [move,token]

theorem Owned.leaves (owned : Owned l s) {place : Place} (inside : place ∈ s.callers)
    (leaving : place = .slotted ∨ place = .expired) : (move l s.channels place .leaveQueue).isSome = true := by
  have waits : place.waits = true := by cases leaving <;> subst place <;> rfl
  have token : 0 < s.channels.queue := by
    rw [owned.places]
    exact Crew.countPositive _ inside waits
  cases leaving <;> subst place <;> simp [move,token]

theorem Owned.safe (owned : Owned l s) {maxInflight maxQueue timeout : Int}
    (made : newOverloadLimiter maxInflight maxQueue timeout = some l) : Safe maxInflight maxQueue l s := by
  have bounds : l.maxInflight.toNat = maxInflight.toNat ∧ l.maxQueue.toNat = maxQueue.toNat := by
    unfold newOverloadLimiter at made
    split at made
    · cases made
    · cases made
      refine ⟨rfl,?_⟩
      dsimp only
      split <;> omega
  obtain ⟨slots,places,inflight,queue⟩ := owned
  refine ⟨by omega,by omega,Owned.releases ⟨slots,places,inflight,queue⟩,
    fun place => Owned.leaves ⟨slots,places,inflight,queue⟩,fun nobody none_ => ?_⟩
  cases held : s.channels
  simp_all

end

theorem limiterSafe {maxInflight maxQueue timeout : Int} {l : OverloadLimiter}
    (made : newOverloadLimiter maxInflight maxQueue timeout = some l) {actions : List Action} {s : State}
    (run : Runs (step l) anyStep {} actions s) : Safe maxInflight maxQueue l s := by
  have owned : Owned l s := run.preserve (Owned l) (fun _ _ _ owned _ taken => stepOwned owned (stepped taken)) (ownedStart l)
  exact owned.safe made

def crowded : List Action :=
  [.call,.call,.act 0 .tryInflight,.act 1 .tryInflight,.act 1 .tryQueue,.act 1 .timeout,.act 1 .leaveQueue,.act 0 .release]

theorem crowdedSafe : Runs (step ⟨1,1,5⟩) anyStep {} crowded ⟨{},[.released,.refused]⟩ ∧
    Safe 1 1 ⟨1,1,5⟩ ⟨{},[.released,.refused]⟩ := by
  have run : Runs (step ⟨1,1,5⟩) anyStep {} crowded ⟨{},[.released,.refused]⟩ := runAllRuns (by decide)
  exact ⟨run,limiterSafe rfl run⟩

end ReverseProxy.LimiterRuns
