/-! Programs recorded as the calls they make on shared state, for any call, error
and state types. A script is the list of calls in order with the result reached
when none of them fails; `run` performs it one call at a time and stops at the
first call that fails. -/
namespace ReverseProxy.CallScript

structure Script (C E α : Type) where
  calls : List C
  result : Except E α

namespace Script
variable {C E α β : Type}

protected def pure (a : α) : Script C E α := ⟨[],.ok a⟩

protected def bind (s : Script C E α) (f : α → Script C E β) : Script C E β :=
  match s.result with
  | .error e => ⟨s.calls,.error e⟩
  | .ok a => ⟨s.calls ++ (f a).calls,(f a).result⟩

instance : Monad (Script C E) where
  pure := Script.pure
  bind := Script.bind

def call (c : C) : Script C E Unit := ⟨[c],.ok ()⟩

def check (x : Except E α) : Script C E α := ⟨[],x⟩

def fail (e : E) : Script C E α := ⟨[],.error e⟩

@[simp] theorem pureCalls (a : α) : (pure a : Script C E α).calls = [] := rfl
@[simp] theorem callCalls (c : C) : (call c : Script C E Unit).calls = [c] := rfl
@[simp] theorem callResult (c : C) : (call c : Script C E Unit).result = .ok () := rfl
@[simp] theorem checkCalls (x : Except E α) : (check x : Script C E α).calls = [] := rfl
@[simp] theorem checkResult (x : Except E α) : (check x : Script C E α).result = x := rfl
@[simp] theorem failCalls (e : E) : (fail e : Script C E α).calls = [] := rfl

theorem bindOk {s : Script C E α} {f : α → Script C E β} {a : α} (ok : s.result = .ok a) :
    s >>= f = ⟨s.calls ++ (f a).calls,(f a).result⟩ := by
  change Script.bind s f = _
  rw [Script.bind, ok]

theorem bindError {s : Script C E α} {f : α → Script C E β} {e : E} (bad : s.result = .error e) :
    s >>= f = ⟨s.calls,.error e⟩ := by
  change Script.bind s f = _
  rw [Script.bind, bad]

theorem bindCalls {s : Script C E α} {f : α → Script C E β} {p : C → Prop}
    (first : ∀ c ∈ s.calls, p c) (second : ∀ a, s.result = .ok a → ∀ c ∈ (f a).calls, p c) :
    ∀ c ∈ (s >>= f).calls, p c := by
  cases outcome : s.result with
  | error e =>
    rw [bindError outcome]
    exact first
  | ok a =>
    rw [bindOk outcome]
    intro c inside
    rcases List.mem_append.mp inside with left | right
    · exact first c left
    · exact second a outcome c right

end Script

section
variable {C E S R : Type} (perform : S → C → Except E R × S)

def run : S → List C → Except E (List R) × S
  | s,[] => (.ok [],s)
  | s,c :: rest =>
    match perform s c with
    | (.error e,t) => (.error e,t)
    | (.ok r,t) =>
      match run t rest with
      | (.error e,u) => (.error e,u)
      | (.ok replies,u) => (.ok (r :: replies),u)

def reached : S → List C → List C
  | _,[] => []
  | s,c :: rest =>
    match perform s c with
    | (.error _,_) => [c]
    | (.ok _,t) => c :: reached t rest

def after (s : S) (calls : List C) : S := calls.foldl (fun s c => (perform s c).2) s

theorem afterLast (s : S) (calls : List C) (c : C) :
    after perform s (calls ++ [c]) = (perform (after perform s calls) c).2 := by
  simp [after]

theorem runState (s : S) (calls : List C) :
    (run perform s calls).2 = after perform s (reached perform s calls) := by
  induction calls generalizing s with
  | nil => rfl
  | cons c rest ih =>
    unfold run reached
    cases h : perform s c with
    | mk reply t =>
      cases reply with
      | error e => simp [after,h]
      | ok r =>
        have tail := ih t
        cases later : run perform t rest with
        | mk replies u =>
          rw [later] at tail
          cases replies <;> simpa [after,h,later] using tail

def through (stop : C → Bool) : List C → List C
  | [] => []
  | c :: rest => if stop c then [c] else c :: through stop rest

theorem throughSublist (stop : C → Bool) (calls : List C) : (through stop calls).Sublist calls := by
  induction calls with
  | nil => exact .slnil
  | cons c rest ih =>
    unfold through
    split
    · exact .cons_cons c (List.nil_sublist rest)
    · exact .cons_cons c ih

theorem throughAll {stop : C → Bool} {calls : List C} (quiet : ∀ c ∈ calls, stop c = false) :
    through stop calls = calls := by
  induction calls with
  | nil => rfl
  | cons c rest ih =>
    rw [through, quiet c (by simp), if_neg Bool.false_ne_true, ih (fun d member => quiet d (by simp [member]))]

theorem throughAppend {stop : C → Bool} {first : List C} (quiet : ∀ c ∈ first, stop c = false) (rest : List C) :
    through stop (first ++ rest) = first ++ through stop rest := by
  induction first with
  | nil => rfl
  | cons c tail ih =>
    rw [List.cons_append, through, quiet c (by simp), if_neg Bool.false_ne_true, ih (fun d member => quiet d (by simp [member])),
      List.cons_append]

theorem throughCongr {stop halt : C → Bool} {calls : List C} (same : ∀ c ∈ calls, stop c = halt c) :
    through stop calls = through halt calls := by
  induction calls with
  | nil => rfl
  | cons c rest ih =>
    rw [through, through, same c (by simp), ih (fun d member => same d (by simp [member]))]

theorem throughLast {stop : C → Bool} {calls : List C} {c : C} (member : c ∈ through stop calls)
    (stops : stop c = true) :
    ∃ init, through stop calls = init ++ [c] ∧ ∀ d ∈ init, stop d = false := by
  induction calls with
  | nil => simp [through] at member
  | cons head rest ih =>
    rw [through] at member ⊢
    split at member
    · cases List.mem_singleton.mp member
      exact ⟨[],by simp [stops],by simp⟩
    · rename_i goesOn
      rw [if_neg goesOn]
      rcases List.mem_cons.mp member with rfl | later
      · exact absurd stops goesOn
      · obtain ⟨init,same,quiet⟩ := ih later
        refine ⟨head :: init,by rw [same, List.cons_append],?_⟩
        intro d inside
        rcases List.mem_cons.mp inside with rfl | deeper
        · simpa using goesOn
        · exact quiet d deeper

end
end ReverseProxy.CallScript
