import Mathlib.Data.List.Basic

/-! Crews: any number of threads in one list, each at a place of its program, one
of them moving at a time. How a move changes the number of threads at some places
and what is summed over them, and which threads it leaves where they were. -/
namespace ReverseProxy.Crew
variable {P : Type} {crew : List P} {i : Nat} {old new t : P}

theorem joined (found : crew[i]? = some old) :
    ∃ before after, crew = before ++ old :: after ∧ ∀ new, crew.set i new = before ++ new :: after := by
  obtain ⟨inside,same⟩ := List.getElem?_eq_some_iff.mp found
  refine ⟨crew.take i,crew.drop (i + 1),?_,?_⟩
  · rw [← same, ← List.drop_eq_getElem_cons inside, List.take_append_drop]
  · intro new
    rw [List.set_eq_take_append_cons_drop, if_pos inside]

theorem countMove (p : P → Bool) (found : crew[i]? = some old) (new : P) :
    (crew.set i new).countP p + (p old).toNat = crew.countP p + (p new).toNat := by
  obtain ⟨before,after,whole,moved⟩ := joined found
  rw [moved, whole]
  simp only [List.countP_append, List.countP_cons]
  cases p old <;> cases p new <;> simp <;> omega

theorem countSame (p : P → Bool) (found : crew[i]? = some old) (same : p new = p old) :
    (crew.set i new).countP p = crew.countP p := by
  have moved := countMove p found new
  rw [same] at moved
  exact Nat.add_right_cancel moved

theorem countJoin (p : P → Bool) (crew : List P) (new : P) :
    (crew ++ [new]).countP p = crew.countP p + (p new).toNat := by
  simp only [List.countP_append, List.countP_cons, List.countP_nil]
  cases p new <;> rfl

theorem handsMove {Q : Type} (hands : P → List Q) (found : crew[i]? = some old) (new : P) :
    ∃ others, (crew.flatMap hands).Perm (hands old ++ others) ∧ ((crew.set i new).flatMap hands).Perm (hands new ++ others) := by
  obtain ⟨before,after,whole,moved⟩ := joined found
  refine ⟨before.flatMap hands ++ after.flatMap hands,?_,?_⟩
  · rw [whole, List.flatMap_append, List.flatMap_cons]
    exact List.perm_append_comm_assoc _ _ _
  · rw [moved, List.flatMap_append, List.flatMap_cons]
    exact List.perm_append_comm_assoc _ _ _

theorem handsJoin {Q : Type} (hands : P → List Q) (crew : List P) (new : P) :
    ((crew ++ [new]).flatMap hands) = crew.flatMap hands ++ hands new := by
  rw [List.flatMap_append, List.flatMap_singleton]

def total (f : P → Int) : List P → Int
  | [] => 0
  | t :: rest => f t + total f rest

@[simp] theorem totalNil (f : P → Int) : total f [] = 0 := rfl

@[simp] theorem totalCons (f : P → Int) (t : P) (rest : List P) : total f (t :: rest) = f t + total f rest := rfl

theorem totalAppend (f : P → Int) (first second : List P) : total f (first ++ second) = total f first + total f second := by
  induction first with
  | nil => simp
  | cons t rest ih =>
    rw [List.cons_append, totalCons, totalCons, ih]
    omega

theorem totalJoin (f : P → Int) (crew : List P) (new : P) : total f (crew ++ [new]) = total f crew + f new := by
  rw [totalAppend, totalCons, totalNil, Int.add_zero]

theorem totalZero {f : P → Int} (zero : ∀ t ∈ crew, f t = 0) : total f crew = 0 := by
  induction crew with
  | nil => rfl
  | cons t rest ih =>
    rw [totalCons, zero t List.mem_cons_self, ih (fun u inside => zero u (List.mem_cons_of_mem t inside))]
    rfl

theorem totalNonneg {f : P → Int} (nonneg : ∀ t ∈ crew, 0 ≤ f t) : 0 ≤ total f crew := by
  induction crew with
  | nil => exact Int.le_refl 0
  | cons t rest ih =>
    have later := ih (fun u inside => nonneg u (List.mem_cons_of_mem t inside))
    exact Int.add_nonneg (nonneg t List.mem_cons_self) later

theorem totalMove (f : P → Int) (found : crew[i]? = some old) (new : P) :
    total f (crew.set i new) + f old = total f crew + f new := by
  obtain ⟨before,after,whole,moved⟩ := joined found
  rw [moved, whole]
  simp only [totalAppend, totalCons]
  omega

theorem member (found : crew[i]? = some old) : old ∈ crew := List.mem_of_getElem? found

theorem moved (found : crew[i]? = some old) (new : P) : new ∈ crew.set i new := by
  obtain ⟨inside,_⟩ := List.getElem?_eq_some_iff.mp found
  exact List.mem_set inside new

theorem stays (found : crew[i]? = some old) (inside : t ∈ crew) (other : t ≠ old) (new : P) : t ∈ crew.set i new := by
  obtain ⟨before,after,whole,moved⟩ := joined found
  rw [moved]
  rw [whole] at inside
  rcases List.mem_append.mp inside with left | right
  · exact List.mem_append_left _ left
  · rcases List.mem_cons.mp right with same | right
    · exact absurd same other
    · exact List.mem_append_right _ (List.mem_cons_of_mem _ right)

theorem countPositive (p : P → Bool) (inside : t ∈ crew) (holds : p t = true) : 0 < crew.countP p :=
  List.countP_pos_iff.mpr ⟨t,inside,holds⟩

theorem placed (found : crew[i]? = some old) (new : P) : (crew.set i new)[i]? = some new :=
  List.getElem?_set_self (List.getElem?_eq_some_iff.mp found).1

theorem keptJoin {j : Nat} (there : crew[j]? = some t) (new : P) : (crew ++ [new])[j]? = some t := by
  rw [List.getElem?_append_left (List.getElem?_eq_some_iff.mp there).1, there]

theorem keptMove {j : Nat} (there : crew[j]? = some t) (other : j ≠ i) (new : P) : (crew.set i new)[j]? = some t := by
  rw [List.getElem?_set_ne (Ne.symm other), there]

theorem atJoin {j : Nat} (there : (crew ++ [new])[j]? = some t) : crew[j]? = some t ∨ (j = crew.length ∧ t = new) := by
  rw [List.getElem?_append] at there
  split at there
  · exact .inl there
  · rw [List.getElem?_singleton] at there
    split at there
    · exact .inr ⟨by omega,(Option.some.inj there).symm⟩
    · cases there

theorem atMove {j : Nat} (found : crew[i]? = some old) (there : (crew.set i new)[j]? = some t) :
    (j = i ∧ t = new) ∨ (j ≠ i ∧ crew[j]? = some t) := by
  by_cases here : j = i
  · subst here
    rw [List.getElem?_set_self (List.getElem?_eq_some_iff.mp found).1] at there
    exact .inl ⟨rfl,(Option.some.inj there).symm⟩
  · rw [List.getElem?_set_ne (Ne.symm here)] at there
    exact .inr ⟨here,there⟩

theorem soleMoved (p : P → Bool) (sole : crew.countP p ≤ 1) (found : crew[i]? = some old) (here : p old = true)
    (inside : t ∈ crew.set i new) (holds : p t = true) : t = new := by
  obtain ⟨before,after,whole,moved⟩ := joined found
  rw [whole, List.countP_append, List.countP_cons, here] at sole
  simp only [if_true] at sole
  rw [moved] at inside
  have left : before.countP p = 0 := by omega
  have right : after.countP p = 0 := by omega
  rcases List.mem_append.mp inside with early | late
  · exact absurd holds (List.countP_eq_zero.mp left t early)
  · rcases List.mem_cons.mp late with same | late
    · exact same
    · exact absurd holds (List.countP_eq_zero.mp right t late)

end ReverseProxy.Crew
