/-! Labelled transition systems with a partial step function, over any state and
action types. A guarded run takes only steps whose state and action satisfy a
guard; an invariant kept by guarded steps holds in every state of such a run. -/
namespace ReverseProxy.Transition

section
variable {S A : Type} (step : S → A → Option S)

inductive Runs (guard : S → A → Prop) : S → List A → S → Prop where
  | nil (s : S) : Runs guard s [] s
  | cons {s t u : S} {a : A} {rest : List A} (allowed : guard s a) (taken : step s a = some t)
      (tail : Runs guard t rest u) : Runs guard s (a :: rest) u

def anyStep (_ : S) (_ : A) : Prop := True

instance (s : S) (a : A) : Decidable (anyStep s a) := .isTrue trivial

def runAll (guard : S → A → Prop) [∀ s a, Decidable (guard s a)] (s : S) : List A → Option S
  | [] => some s
  | a :: rest => if guard s a then (step s a).bind (fun t => runAll guard t rest) else none

end

section
variable {S A : Type} {step : S → A → Option S} {guard : S → A → Prop}

theorem Runs.append {s t u : S} {first second : List A} (left : Runs step guard s first t)
    (right : Runs step guard t second u) : Runs step guard s (first ++ second) u := by
  induction left with
  | nil => exact right
  | cons allowed taken tail ih => exact .cons allowed taken (ih right)

theorem Runs.weaken {weaker : S → A → Prop} (easier : ∀ s a, guard s a → weaker s a)
    {s t : S} {as : List A} (run : Runs step guard s as t) : Runs step weaker s as t := by
  induction run with
  | nil s => exact .nil s
  | cons allowed taken tail ih => exact .cons (easier _ _ allowed) taken ih

theorem Runs.preserve (inv : S → Prop)
    (stepKeeps : ∀ s a t, inv s → guard s a → step s a = some t → inv t)
    {s t : S} {as : List A} (run : Runs step guard s as t) (start : inv s) : inv t := by
  induction run with
  | nil s => exact start
  | cons allowed taken tail ih => exact ih (stepKeeps _ _ _ start allowed taken)

theorem Runs.tighten {tighter : S → A → Prop} (inv : S → Prop) (meets : ∀ s a, inv s → guard s a → tighter s a)
    (stepKeeps : ∀ s a t, inv s → tighter s a → step s a = some t → inv t)
    {s t : S} {as : List A} (run : Runs step guard s as t) (start : inv s) : Runs step tighter s as t := by
  induction run with
  | nil s => exact .nil s
  | cons allowed taken tail ih =>
    have met := meets _ _ start allowed
    exact .cons met taken (ih (stepKeeps _ _ _ start met taken))

theorem Runs.follow {S' A' : Type} {step' : S' → A' → Option S'} {guard' : S' → A' → Prop} (related : S → S' → Prop)
    (moves : ∀ s a t s', related s s' → guard s a → step s a = some t →
      ∃ as' t', Runs step' guard' s' as' t' ∧ related t t')
    {s t : S} {as : List A} (run : Runs step guard s as t) {s' : S'} (start : related s s') :
    ∃ as' t', Runs step' guard' s' as' t' ∧ related t t' := by
  induction run generalizing s' with
  | nil s => exact ⟨[],s',.nil s',start⟩
  | cons allowed taken tail ih =>
    obtain ⟨first,mid,reached,kept⟩ := moves _ _ _ s' start allowed taken
    obtain ⟨rest,last,finished,ends⟩ := ih kept
    exact ⟨first ++ rest,last,reached.append finished,ends⟩

theorem leads {goal : S → Prop} {s t : S} {a : A} (allowed : guard s a) (taken : step s a = some t)
    (later : ∃ as u, Runs step guard t as u ∧ goal u) : ∃ as u, Runs step guard s as u ∧ goal u := by
  obtain ⟨as,u,run,reached⟩ := later
  exact ⟨a :: as,u,.cons allowed taken run,reached⟩

theorem runAllRuns [∀ s a, Decidable (guard s a)] {s t : S} {as : List A} (ok : runAll step guard s as = some t) :
    Runs step guard s as t := by
  induction as generalizing s with
  | nil =>
    cases Option.some.inj ok
    exact .nil _
  | cons a rest ih =>
    unfold runAll at ok
    split at ok
    · rename_i allowed
      obtain ⟨next,taken,tail⟩ := Option.bind_eq_some_iff.mp ok
      exact .cons allowed taken (ih tail)
    · cases ok

end
end ReverseProxy.Transition
