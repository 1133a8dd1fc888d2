import Mathlib.Data.List.Chain
import ReverseProxy.FiniteMap

/-! Folds that may fail, taken apart: by the components of their state, by the keys
under which their items occur, and, for items of which the later ones may only replace
one part of the first, by the first and the last of them. -/
namespace ReverseProxy.LayeredFold
open FiniteMap

section
variable {S T A E : Type}

theorem toOptionBind {α β : Type} (x : Except E α) (f : α → Except E β) :
    (x >>= f).toOption = x.toOption.bind (fun a => (f a).toOption) := by
  cases x <;> rfl

theorem bindOk {α β : Type} {x : Except E α} {f : α → Except E β} {b : β} (ok : (x >>= f) = .ok b) :
    ∃ a, x = .ok a ∧ f a = .ok b := by
  cases x with
  | error e => cases ok
  | ok a => exact ⟨a,rfl,ok⟩

theorem bindFails {α β : Type} {x : Except E α} {f : α → Except E β} {e : E} (failed : (x >>= f) = .error e) :
    x = .error e ∨ ∃ a, x = .ok a ∧ f a = .error e := by
  cases x with
  | error d =>
    cases failed
    exact .inl rfl
  | ok a => exact .inr ⟨a,rfl,failed⟩

theorem foldToOption (step : S → A → Except E S) (l : List A) (s : S) :
    (l.foldlM step s).toOption = l.foldlM (fun s a => (step s a).toOption) s := by
  induction l generalizing s with
  | nil => rfl
  | cons a rest ih =>
    rw [List.foldlM_cons,List.foldlM_cons,toOptionBind]
    cases step s a with
    | error e => rfl
    | ok t => exact ih t

theorem foldView {step : S → A → Option S} {view : S → T} {seen : T → A → Option T}
    (steps : ∀ s a, (step s a).map view = seen (view s) a) (l : List A) (s : S) :
    (l.foldlM step s).map view = l.foldlM seen (view s) := by
  induction l generalizing s with
  | nil => rfl
  | cons a rest ih =>
    rw [List.foldlM_cons,List.foldlM_cons,← steps]
    cases step s a with
    | none => rfl
    | some t => exact ih t

theorem foldPart (get : S → T) (put : S → T → S) {f : T → A → Option T} (getPut : ∀ s t, get (put s t) = t)
    (putPut : ∀ s t u, put (put s t) u = put s u) (putGet : ∀ s, put s (get s) = s) (l : List A) (s : S) :
    l.foldlM (fun s a => (f (get s) a).map (put s)) s = (l.foldlM f (get s)).map (put s) := by
  induction l generalizing s with
  | nil => exact congrArg some (putGet s).symm
  | cons a rest ih =>
    rw [List.foldlM_cons,List.foldlM_cons]
    cases f (get s) a with
    | none => rfl
    | some t =>
      change rest.foldlM _ (put s t) = (rest.foldlM f t).map (put s)
      rw [ih (put s t),getPut,funext (putPut s t)]

theorem viewBind {x : Except E S} {f : S → Except E S} {view : S → T} {seen : T → Option T}
    (next : ∀ s, (f s).toOption.map view = seen (view s)) :
    (x >>= f).toOption.map view = (x.toOption.map view).bind seen := by
  cases x with
  | error e => rfl
  | ok s => exact next s

theorem foldKeeps {step : S → A → Except E S} {inv : S → Prop} (keeps : ∀ s a t, inv s → step s a = .ok t → inv t)
    {l : List A} {s t : S} (start : inv s) (ok : l.foldlM step s = .ok t) : inv t := by
  induction l generalizing s with
  | nil =>
    cases ok
    exact start
  | cons a rest ih =>
    rw [List.foldlM_cons] at ok
    cases first : step s a with
    | error e => simp [first,bind,Except.bind] at ok
    | ok u =>
      rw [first] at ok
      exact ih (keeps s a u start first) ok

theorem foldFails {step : S → A → Except E S} {l : List A} {s : S} {e : E} (failed : l.foldlM step s = .error e) :
    ∃ t, ∃ a ∈ l, step t a = .error e := by
  induction l generalizing s with
  | nil => cases failed
  | cons a rest ih =>
    rw [List.foldlM_cons] at failed
    cases first : step s a with
    | error d =>
      rw [first] at failed
      cases failed
      exact ⟨s,a,List.mem_cons_self,first⟩
    | ok u =>
      rw [first] at failed
      obtain ⟨t,b,inside,stuck⟩ := ih failed
      exact ⟨t,b,List.mem_cons_of_mem _ inside,stuck⟩

def both (f : S → A → Option S) (g : T → A → Option T) (p : S × T) (a : A) : Option (S × T) :=
  (f p.1 a).bind (fun s => (g p.2 a).map (s,·))

theorem foldBoth (f : S → A → Option S) (g : T → A → Option T) (l : List A) (p : S × T) :
    l.foldlM (both f g) p = (l.foldlM f p.1).bind (fun s => (l.foldlM g p.2).map (s,·)) := by
  induction l generalizing p with
  | nil => rfl
  | cons a rest ih =>
    simp only [List.foldlM_cons,both,Option.bind_eq_bind]
    cases f p.1 a with
    | none => rfl
    | some s =>
      cases g p.2 a with
      | none => simp
      | some t => exact ih (s,t)

theorem foldThrough {B : Type} (f : S → B → Option S) {look : A → B} {l l' : List A} (same : l.map look = l'.map look)
    (s : S) : l.foldlM (fun s a => f s (look a)) s = l'.foldlM (fun s a => f s (look a)) s := by
  have through : ∀ l : List A, (l.map look).foldlM f s = l.foldlM (fun s a => f s (look a)) s := fun _ => List.foldlM_map
  rw [← through,← through,same]

theorem foldFlat {B : Type} (f : S → B → Option S) (items : A → List B) (l : List A) (s : S) :
    l.foldlM (fun s a => (items a).foldlM f s) s = (l.flatMap items).foldlM f s := by
  induction l generalizing s with
  | nil => rfl
  | cons a rest ih =>
    rw [List.foldlM_cons,List.flatMap_cons,List.foldlM_append]
    cases (items a).foldlM f s with
    | none => rfl
    | some t => exact ih t

end

section
variable {K V W : Type} [DecidableEq K]

abbrev Cell (K V W : Type) := K → Option V → W → Option (Option V)

def visit (cell : Cell K V W) (m : Map K V) (w : K × W) : Option (Map K V) :=
  (cell w.1 (m.get w.1) w.2).map (m.assign w.1)

def under (k : K) (ws : List (K × W)) : List W := (ws.filter (fun w => w.1 = k)).map (·.2)

theorem underSame (w : W) (k : K) (ws : List (K × W)) : under k ((k,w) :: ws) = w :: under k ws := by simp [under]

theorem underOther {k x : K} (other : k ≠ x) (w : W) (ws : List (K × W)) : under x ((k,w) :: ws) = under x ws := by
  simp [under,other]

theorem underUnique {ws : List (K × W)} (unique : (ws.map (·.1)).Nodup) (k : K) :
    under k ws = ((Map.keyed ws).get k).toList := by
  induction ws with
  | nil => rfl
  | cons w rest ih =>
    obtain ⟨fresh,distinct⟩ := List.nodup_cons.mp unique
    rw [Map.getKeyed,List.find?_cons]
    by_cases same : w.1 = k
    · subst same
      have none : under w.1 rest = [] := by
        rw [under,List.map_eq_nil_iff,List.filter_eq_nil_iff]
        intro e inside here
        exact fresh (List.mem_map.mpr ⟨e,inside,of_decide_eq_true here⟩)
      change under w.1 ((w.1,w.2) :: rest) = _
      rw [underSame,none]
      simp
    · change under k ((w.1,w.2) :: rest) = _
      rw [underOther same,ih distinct,Map.getKeyed]
      simp [same]

theorem underFlat {A : Type} (items : A → List (K × W)) (k : K) (l : List A) :
    under k (l.flatMap items) = l.flatMap (fun a => under k (items a)) := by
  induction l with
  | nil => rfl
  | cons a rest ih =>
    rw [List.flatMap_cons,List.flatMap_cons,← ih]
    simp [under]

theorem visitedAll {cell : Cell K V W} {ws : List (K × W)} {m m' : Map K V}
    (ok : ws.foldlM (visit cell) m = some m') (k : K) : (under k ws).foldlM (cell k) (m.get k) = some (m'.get k) := by
  induction ws generalizing m with
  | nil =>
    cases ok
    rfl
  | cons w rest ih =>
    rw [List.foldlM_cons] at ok
    obtain ⟨next,visited,later⟩ := Option.bind_eq_some_iff.mp ok
    obtain ⟨o,settled,rfl⟩ := Option.map_eq_some_iff.mp visited
    have tail := ih later
    by_cases same : w.1 = k
    · subst same
      change (under w.1 ((w.1,w.2) :: rest)).foldlM _ _ = _
      rw [underSame,List.foldlM_cons,settled]
      simpa [Map.getAssign] using tail
    · change (under k ((w.1,w.2) :: rest)).foldlM _ _ = _
      rw [underOther same,← tail]
      simp [Map.getAssign,Ne.symm same]

theorem visitsAll {cell : Cell K V W} {ws : List (K × W)} {m : Map K V}
    (each : ∀ k, ((under k ws).foldlM (cell k) (m.get k)).isSome = true) : ∃ m', ws.foldlM (visit cell) m = some m' := by
  induction ws generalizing m with
  | nil => exact ⟨m,rfl⟩
  | cons w rest ih =>
    have own : ((under w.1 ((w.1,w.2) :: rest)).foldlM (cell w.1) (m.get w.1)).isSome = true := each w.1
    rw [underSame,List.foldlM_cons] at own
    cases settled : cell w.1 (m.get w.1) w.2 with
    | none => simp [settled] at own
    | some o =>
      rw [List.foldlM_cons,visit,settled]
      apply ih
      intro k
      by_cases same : k = w.1
      · subst same
        rw [settled] at own
        simpa [Map.getAssign] using own
      · have other : ((under k ((w.1,w.2) :: rest)).foldlM (cell k) (m.get k)).isSome = true := each k
        rw [underOther (Ne.symm same)] at other
        simpa [Map.getAssign,same] using other

theorem visitAgree {cell : Cell K V W} {ws ws' : List (K × W)} (same : ∀ k, under k ws = under k ws') (m : Map K V) :
    ws.foldlM (visit cell) m = ws'.foldlM (visit cell) m := by
  have carried : ∀ {a b : List (K × W)}, (∀ k, under k a = under k b) → ∀ {n}, a.foldlM (visit cell) m = some n →
      b.foldlM (visit cell) m = some n := by
    intro a b same n ok
    obtain ⟨n',ok'⟩ : ∃ n', b.foldlM (visit cell) m = some n' := by
      apply visitsAll
      intro k
      rw [← same k,visitedAll ok k]
      rfl
    rw [ok']
    congr 1
    apply Map.ext
    intro k
    have left := visitedAll ok k
    rw [same k,visitedAll ok' k] at left
    exact Option.some.inj left
  apply Option.ext
  intro n
  exact ⟨carried same,carried fun k => (same k).symm⟩

end

section
variable {V F C : Type} [DecidableEq F] [DecidableEq C] (base : V → F) (content : V → C) (free : V → Bool)

/- The first item is taken as it is. A later one must have the same base, and another
content only if it is free to. -/
def layer : Option (F × C) → V → Option (Option (F × C))
  | none,v => some (some (base v,content v))
  | some (f,c),v => if base v = f ∧ (content v = c ∨ free v = true) then some (some (f,content v)) else none

def Succeeds (before after : V) : Prop := content after = content before ∨ free after = true

section
variable {base content free}

theorem layersFrom {vs : List V} {x : V} {f : F} {o : Option (F × C)} (own : base x = f) :
    vs.foldlM (layer base content free) (some (f,content x)) = some o ↔
      o = some (f,content (vs.getLastD x)) ∧ (∀ v ∈ vs, base v = f) ∧ (x :: vs).IsChain (Succeeds content free) := by
  induction vs generalizing x with
  | nil => simp [eq_comm]
  | cons v rest ih =>
    rw [List.foldlM_cons,layer]
    by_cases fits : base v = f ∧ (content v = content x ∨ free v = true)
    · rw [if_pos fits]
      change rest.foldlM _ (some (f,content v)) = some o ↔ _
      rw [ih fits.1,List.isChain_cons_cons]
      have last : (v :: rest).getLastD x = rest.getLastD v := by cases rest <;> rfl
      simp only [last,List.forall_mem_cons]
      constructor
      · rintro ⟨same,bases,chain⟩
        exact ⟨same,⟨fits.1,bases⟩,fits.2,chain⟩
      · rintro ⟨same,⟨-,bases⟩,-,chain⟩
        exact ⟨same,bases,chain⟩
    · rw [if_neg fits]
      constructor
      · intro impossible
        cases impossible
      · rintro ⟨-,bases,chain⟩
        exact absurd ⟨bases v List.mem_cons_self,(List.isChain_cons_cons.mp chain).1⟩ fits

end

structure Layered (vs : List V) (first last : V) : Prop where
  head : vs.head? = some first
  last : vs.getLast? = some last
  bases : ∀ v ∈ vs, base v = base first
  chain : vs.IsChain (Succeeds content free)

variable {base content free}

theorem layers {vs : List V} {o : Option (F × C)} (ok : vs.foldlM (layer base content free) none = some o) :
    vs = [] ∧ o = none ∨ ∃ first last, Layered base content free vs first last ∧ o = some (base first,content last) := by
  cases vs with
  | nil =>
    cases ok
    exact .inl ⟨rfl,rfl⟩
  | cons x rest =>
    rw [List.foldlM_cons] at ok
    obtain ⟨result,bases,chain⟩ := (layersFrom rfl).mp ok
    refine .inr ⟨x,rest.getLastD x,⟨rfl,?_,?_,chain⟩,result⟩
    · rw [List.getLast?_cons]
      cases rest <;> rfl
    · intro v inside
      rcases List.mem_cons.mp inside with rfl | later
      · rfl
      · exact bases v later

variable (base content free) in
def Clashes (vs : List V) : Prop :=
  (∃ first v, vs.head? = some first ∧ v ∈ vs ∧ base v ≠ base first) ∨
  ∃ earlier before after later, vs = earlier ++ before :: after :: later ∧ content after ≠ content before ∧
    free after = false

theorem clashes {vs : List V} (clash : Clashes base content free vs) : vs.foldlM (layer base content free) none = none := by
  cases result : vs.foldlM (layer base content free) none with
  | none => rfl
  | some o =>
    exfalso
    rcases layers result with ⟨rfl,-⟩ | ⟨first,last,layered,-⟩
    · rcases clash with ⟨first,v,-,inside,-⟩ | ⟨earlier,before,after,later,whole,-⟩
      · cases inside
      · simp at whole
    · rcases clash with ⟨first',v,head,inside,other⟩ | ⟨earlier,before,after,later,rfl,other,bound⟩
      · cases Option.some.inj (head.symm.trans layered.head)
        exact other (layered.bases v inside)
      · rcases (List.isChain_append_cons_cons.mp layered.chain).2.1 with same | free'
        · exact other same
        · rw [bound] at free'
          cases free'

end
end ReverseProxy.LayeredFold
