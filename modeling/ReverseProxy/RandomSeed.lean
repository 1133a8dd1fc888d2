import ReverseProxy.Crew
import ReverseProxy.Transition
import ReverseProxy.XorShift

/-! The random source of package traffic: one seed that any number of nextRand calls load,
mix and swap. A call compares against 1 in place of a loaded zero, so a stored zero would
keep it from ever swapping; the mixing never stores one. -/
namespace ReverseProxy.RandomSeed
open Crew Transition XorShift

def multiplier : BitVec 64 := 2685821657736338717#64

def mixed (x : BitVec 64) : BitVec 64 :=
  let x := x ^^^ (x >>> 12)
  let x := x ^^^ (x <<< 25)
  let x := x ^^^ (x >>> 27)
  x * multiplier

def orOne (seed : BitVec 64) : BitVec 64 := if seed = 0#64 then 1#64 else seed

/- A call of nextRand in its loop: before the load, before the swap with the seed it holds,
or returned. `rounds` counts the iterations it has finished. -/
inductive Caller where
  | looking (rounds : Nat)
  | holding (rounds : Nat) (seed : BitVec 64)
  | returned (rounds : Nat) (x : BitVec 64)
  deriving DecidableEq, Repr

structure State where
  rngSeed : BitVec 64
  callers : List Caller := []
  deriving DecidableEq, Repr

inductive Action where
  | setSeedForTests (seed : BitVec 64)
  | nextRand
  | turn (i : Nat)
  deriving DecidableEq, Repr

/- A turn is one atomic operation with what the caller computes on its own after it. -/
def turn (s : State) (i : Nat) : Caller → Option State
  | .looking rounds => some { s with callers := s.callers.set i (.holding rounds (orOne s.rngSeed)) }
  | .holding rounds seed =>
    if s.rngSeed = seed then
      some { rngSeed := mixed seed, callers := s.callers.set i (.returned (rounds + 1) (mixed seed)) }
    else some { s with callers := s.callers.set i (.looking (rounds + 1)) }
  | .returned .. => none

def step (s : State) : Action → Option State
  | .setSeedForTests seed => some { s with rngSeed := orOne seed }
  | .nextRand => some { s with callers := s.callers ++ [.looking 0] }
  | .turn i => (s.callers[i]?).bind (turn s i)

theorem mixedSteps (x : BitVec 64) : mixed x = xorRight 27 (xorLeft 25 (xorRight 12 x)) * multiplier := rfl

theorem multiplierUnit : multiplier * 6415128727920758069#64 = 1#64 := by decide

theorem mixedInjective : Function.Injective mixed := by
  intro x y same
  rw [mixedSteps,mixedSteps] at same
  have shifted := mulInjective multiplierUnit same
  exact xorRightInjective (by decide) (xorLeftInjective (by decide) (xorRightInjective (by decide) shifted))

theorem mixedNonzero {x : BitVec 64} (nonzero : x ≠ 0#64) : mixed x ≠ 0#64 := by
  intro zero
  exact nonzero (mixedInjective (zero.trans (by decide)))

theorem orOneNonzero (seed : BitVec 64) : orOne seed ≠ 0#64 := by
  unfold orOne
  split
  · decide
  · assumption

theorem orOneSame {seed : BitVec 64} (nonzero : seed ≠ 0#64) : orOne seed = seed := if_neg nonzero

inductive Stepped (s : State) : Action → State → Prop where
  | set (seed : BitVec 64) : Stepped s (.setSeedForTests seed) { s with rngSeed := orOne seed }
  | nextRand : Stepped s .nextRand { s with callers := s.callers ++ [.looking 0] }
  | load {i rounds : Nat} (found : s.callers[i]? = some (.looking rounds)) :
      Stepped s (.turn i) { s with callers := s.callers.set i (.holding rounds (orOne s.rngSeed)) }
  | swap {i rounds : Nat} (found : s.callers[i]? = some (.holding rounds s.rngSeed)) :
      Stepped s (.turn i)
        { rngSeed := mixed s.rngSeed, callers := s.callers.set i (.returned (rounds + 1) (mixed s.rngSeed)) }
  | lose {i rounds : Nat} {seed : BitVec 64} (found : s.callers[i]? = some (.holding rounds seed)) (moved : s.rngSeed ≠ seed) :
      Stepped s (.turn i) { s with callers := s.callers.set i (.looking (rounds + 1)) }

theorem stepped {s t : State} {a : Action} (taken : step s a = some t) : Stepped s a t := by
  cases a with
  | setSeedForTests seed =>
    cases taken
    exact .set seed
  | nextRand =>
    cases taken
    exact .nextRand
  | turn i =>
    obtain ⟨caller,found,moved⟩ := Option.bind_eq_some_iff.mp taken
    cases caller with
    | looking rounds =>
      cases moved
      exact .load found
    | holding rounds seed =>
      simp only [turn] at moved
      split at moved
      · rename_i same
        subst same
        cases moved
        exact .swap found
      · rename_i other
        cases moved
        exact .lose found other
    | returned rounds x => cases moved

theorem stepNonzero {s t : State} {a : Action} (nonzero : s.rngSeed ≠ 0#64) (taken : step s a = some t) :
    t.rngSeed ≠ 0#64 := by
  cases stepped taken with
  | set seed => exact orOneNonzero seed
  | nextRand => exact nonzero
  | load found => exact nonzero
  | swap found => exact mixedNonzero nonzero
  | lose found moved => exact nonzero

theorem runNonzero {s t : State} {as : List Action} (run : Runs step anyStep s as t) (nonzero : s.rngSeed ≠ 0#64) :
    t.rngSeed ≠ 0#64 :=
  run.preserve (fun s => s.rngSeed ≠ 0#64) (fun _ _ _ held _ taken => stepNonzero held taken) nonzero

theorem runStays {s t : State} {as : List Action} {i : Nat} {caller : Caller} (run : Runs step anyStep s as t)
    (others : ∀ a ∈ as, a ≠ .turn i) (found : s.callers[i]? = some caller) : t.callers[i]? = some caller := by
  induction run with
  | nil => exact found
  | cons allowed taken tail ih =>
    refine ih (fun a inside => others a (List.mem_cons_of_mem _ inside)) ?_
    have other := others _ (List.mem_cons_self ..)
    cases stepped taken with
    | set seed => exact found
    | nextRand => exact keptJoin found _
    | load own => exact keptMove found (fun same => other (by rw [same])) _
    | swap own => exact keptMove found (fun same => other (by rw [same])) _
    | lose own moved => exact keptMove found (fun same => other (by rw [same])) _

theorem uncontended {s : State} {i rounds : Nat} (nonzero : s.rngSeed ≠ 0#64)
    (found : s.callers[i]? = some (.looking rounds)) :
    ∃ t, step s (.turn i) = some t ∧
      ∀ others u, Runs step anyStep t others u → (∀ a ∈ others, a ≠ .turn i) → u.rngSeed = s.rngSeed →
        ∃ v, step u (.turn i) = some v ∧ v.callers[i]? = some (.returned (rounds + 1) (mixed s.rngSeed)) := by
  refine ⟨{ s with callers := s.callers.set i (.holding rounds s.rngSeed) },?_,?_⟩
  · simp only [step,found,Option.bind_some,turn,orOneSame nonzero]
  · intro others u between own unchanged
    have held := runStays between own (placed found _)
    refine ⟨{ rngSeed := mixed s.rngSeed, callers := u.callers.set i (.returned (rounds + 1) (mixed s.rngSeed)) },?_,
      placed held _⟩
    simp only [step,held,Option.bind_some,turn,unchanged,if_true]

theorem seedNeverZero :
    (∀ x : BitVec 64, x ≠ 0#64 → mixed x ≠ 0#64) ∧
    ∀ (seed : BitVec 64) (as : List Action) (s : State), seed ≠ 0#64 → Runs step anyStep { rngSeed := seed } as s →
      s.rngSeed ≠ 0#64 ∧
      ∀ i rounds, s.callers[i]? = some (.looking rounds) →
        ∃ t, step s (.turn i) = some t ∧
          ∀ others u, Runs step anyStep t others u → (∀ a ∈ others, a ≠ .turn i) → u.rngSeed = s.rngSeed →
            ∃ v, step u (.turn i) = some v ∧ v.callers[i]? = some (.returned (rounds + 1) (mixed s.rngSeed)) := by
  refine ⟨fun x => mixedNonzero,?_⟩
  intro seed as s nonzero run
  have held := runNonzero run nonzero
  exact ⟨held,fun i rounds found => uncontended held found⟩

theorem secondReturns : ∃ s t, Runs step anyStep { rngSeed := 7#64 } [.nextRand,.nextRand,.turn 0,.turn 1,.turn 0,.turn 1] s ∧
    s.rngSeed ≠ 0#64 ∧ step s (.turn 1) = some t ∧
    ∃ u, step t (.turn 1) = some u ∧ u.callers[1]? = some (.returned 2 (mixed s.rngSeed)) := by
  have run : Runs step anyStep { rngSeed := 7#64 } [.nextRand,.nextRand,.turn 0,.turn 1,.turn 0,.turn 1]
      { rngSeed := mixed 7#64, callers := [.returned 1 (mixed 7#64),.looking 1] } := runAllRuns (by decide)
  obtain ⟨held,returns⟩ := seedNeverZero.2 _ _ _ (by decide) run
  obtain ⟨t,load,swaps⟩ := returns 1 1 rfl
  have same : t.rngSeed = mixed 7#64 := by
    cases load
    rfl
  exact ⟨_,t,run,held,load,swaps [] t (.nil t) (by simp) same⟩

end ReverseProxy.RandomSeed
