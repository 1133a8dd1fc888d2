/-! Texts as lists over any alphabet: trimming by a set of words, and when the
parts of a concatenation can be read back from it. -/
namespace ReverseProxy.ListText

section
variable {α : Type} [DecidableEq α]

def dropWord (words : List (List α)) (text : List α) : Option (List α) :=
  (words.find? (fun w => w.isPrefixOf text)).map (fun w => text.drop w.length)

def trimFrontFuel (words : List (List α)) : Nat → List α → List α
  | 0,text => text
  | fuel + 1,text =>
    match dropWord words text with
    | none => text
    | some rest => trimFrontFuel words fuel rest

/- Every word takes at least one letter, so the length is fuel enough. -/
def trimFront (words : List (List α)) (text : List α) : List α := trimFrontFuel words text.length text

def trimBack (words : List (List α)) (text : List α) : List α :=
  (trimFront (words.map List.reverse) text.reverse).reverse

def trim (words : List (List α)) (text : List α) : List α := trimBack words (trimFront words text)

theorem dropWordSuffix {words : List (List α)} {text rest : List α} (found : dropWord words text = some rest) :
    ∃ w ∈ words, text = w ++ rest := by
  simp only [dropWord, Option.map_eq_some_iff] at found
  obtain ⟨w,first,rfl⟩ := found
  have leads := List.find?_some (p := fun w : List α => w.isPrefixOf text) first
  obtain ⟨tail,rfl⟩ := List.isPrefixOf_iff_prefix.mp leads
  exact ⟨w,List.mem_of_find?_eq_some first,by simp⟩

theorem dropWordNone {words : List (List α)} {text : List α} :
    dropWord words text = none ↔ ∀ w ∈ words, ¬w <+: text := by
  simp [dropWord,List.isPrefixOf_iff_prefix]

theorem trimFrontStops {words : List (List α)} (nonempty : ∀ w ∈ words, w ≠ []) {fuel : Nat} {text : List α}
    (enough : text.length ≤ fuel) : dropWord words (trimFrontFuel words fuel text) = none := by
  induction fuel generalizing text with
  | zero =>
    have empty : text = [] := List.eq_nil_of_length_eq_zero (by omega)
    rw [trimFrontFuel, empty, dropWordNone]
    intro w member leads
    exact nonempty w member (List.prefix_nil.mp leads)
  | succ fuel ih =>
    rw [trimFrontFuel]
    cases found : dropWord words text with
    | none => exact found
    | some rest =>
      obtain ⟨w,member,whole⟩ := dropWordSuffix found
      have positive : 0 < w.length := List.length_pos_iff.mpr (nonempty w member)
      have shorter := congrArg List.length whole
      rw [List.length_append] at shorter
      exact ih (by omega)

theorem trimFrontFixed {words : List (List α)} {text : List α} (none : dropWord words text = none) :
    trimFront words text = text := by
  unfold trimFront
  cases text with
  | nil => rfl
  | cons a rest => rw [List.length_cons, trimFrontFuel, none]

theorem trimFrontFuelSuffix (words : List (List α)) (fuel : Nat) (text : List α) :
    trimFrontFuel words fuel text <:+ text := by
  induction fuel generalizing text with
  | zero => exact List.suffix_refl text
  | succ fuel ih =>
    rw [trimFrontFuel]
    cases found : dropWord words text with
    | none => exact List.suffix_refl text
    | some rest =>
      obtain ⟨w,-,whole⟩ := dropWordSuffix found
      exact (ih rest).trans ⟨w,whole.symm⟩

theorem trimTrim {words : List (List α)} (nonempty : ∀ w ∈ words, w ≠ []) (text : List α) :
    trim words (trim words text) = trim words text := by
  have reversed : ∀ w ∈ words.map List.reverse, w ≠ [] := by
    intro w member
    obtain ⟨v,inside,rfl⟩ := List.mem_map.mp member
    simpa using nonempty v inside
  have back := trimFrontStops reversed (Nat.le_refl (trimFront words text).reverse.length)
  have front : dropWord words (trim words text) = none := by
    rw [dropWordNone]
    intro w member leads
    have clear := trimFrontStops nonempty (Nat.le_refl text.length)
    rw [dropWordNone] at clear
    -- what starts the shortened text also starts the longer one
    have shorter : trim words text <+: trimFront words text := by
      have suffix := trimFrontFuelSuffix (words.map List.reverse) (trimFront words text).reverse.length
        (trimFront words text).reverse
      simpa [trim,trimBack,trimFront] using List.reverse_prefix.mpr suffix
    exact clear w member (leads.trans shorter)
  change trimBack words (trimFront words (trim words text)) = _
  rw [trimFrontFixed front]
  unfold trimBack
  have again : trimFront (words.map List.reverse) (trim words text).reverse = (trim words text).reverse := by
    apply trimFrontFixed
    simpa [trim,trimBack,trimFront] using back
  rw [again, List.reverse_reverse]

/- The parts of a text between listed words; `skip` letters of a word are still to be passed. -/
def fieldsFrom (words : List (List α)) : Nat → List α → List α → List (List α)
  | _,field,[] => if field = [] then [] else [field]
  | skip + 1,field,_ :: rest => fieldsFrom words skip field rest
  | 0,field,c :: rest =>
    match words.find? (fun w => w.isPrefixOf (c :: rest)) with
    | some w => (if field = [] then [] else [field]) ++ fieldsFrom words (w.length - 1) [] rest
    | none => fieldsFrom words 0 (field ++ [c]) rest

def fields (words : List (List α)) (text : List α) : List (List α) := fieldsFrom words 0 [] text

end

section
variable {α : Type}

theorem firstMark {a b x y : List α} {mark : α} (same : a ++ mark :: x = b ++ mark :: y)
    (left : mark ∉ a) (right : mark ∉ b) : a = b ∧ x = y := by
  induction a generalizing b with
  | nil =>
    cases b with
    | nil => exact ⟨rfl,(List.cons.inj same).2⟩
    | cons head tail =>
      have clash : mark = head := (List.cons.inj same).1
      exact absurd (clash ▸ List.mem_cons_self) right
  | cons head tail ih =>
    cases b with
    | nil =>
      have clash : head = mark := (List.cons.inj same).1
      exact absurd (clash ▸ List.mem_cons_self) left
    | cons other more =>
      obtain ⟨heads,tails⟩ := List.cons.inj same
      obtain ⟨rest,ends⟩ := ih tails (fun m => left (List.mem_cons_of_mem _ m))
        (fun m => right (List.mem_cons_of_mem _ m))
      exact ⟨by rw [heads, rest],ends⟩

theorem lastMark {a b x y : List α} {mark : α} (same : a ++ mark :: x = b ++ mark :: y)
    (left : mark ∉ x) (right : mark ∉ y) : a = b ∧ x = y := by
  have flipped := congrArg List.reverse same
  simp only [List.reverse_append, List.reverse_cons, List.append_assoc, List.singleton_append] at flipped
  obtain ⟨ends,starts⟩ := firstMark flipped (by simpa using left) (by simpa using right)
  exact ⟨List.reverse_inj.mp starts,List.reverse_inj.mp ends⟩

theorem doubleMark {c : α} {a p b q : List α} :
    a ++ c :: c :: p = b ++ c :: c :: q ↔
      (a = b ∧ p = q) ∨
      ((∃ v, b = a ++ c :: c :: v ∧ p = v ++ c :: c :: q) ∨ (b = a ++ [c] ∧ p = c :: q)) ∨
      ((∃ v, a = b ++ c :: c :: v ∧ q = v ++ c :: c :: p) ∨ (a = b ++ [c] ∧ q = c :: p)) := by
  -- the letters by which one first part is longer, read off the other text
  have longer {a p b q w : List α} (first : b = a ++ w) (second : c :: c :: p = w ++ c :: c :: q) :
      (a = b ∧ p = q) ∨ (∃ v, b = a ++ c :: c :: v ∧ p = v ++ c :: c :: q) ∨ (b = a ++ [c] ∧ p = c :: q) := by
    cases w with
    | nil => exact .inl ⟨by simpa using first.symm,by simpa using second⟩
    | cons x rest =>
      obtain ⟨rfl,tail⟩ := List.cons.inj second
      cases rest with
      | nil => exact .inr (.inr ⟨first,by simpa using tail⟩)
      | cons y more =>
        obtain ⟨rfl,rest⟩ := List.cons.inj tail
        exact .inr (.inl ⟨more,first,rest⟩)
  constructor
  · intro same
    rcases List.append_eq_append_iff.mp same with ⟨w,first,second⟩ | ⟨w,first,second⟩
    · exact (longer first second).elim .inl (fun more => .inr (.inl more))
    · rcases longer first second with ⟨starts,ends⟩ | more
      · exact .inl ⟨starts.symm,ends.symm⟩
      · exact .inr (.inr more)
  · rintro (⟨rfl,rfl⟩ | (⟨v,rfl,rfl⟩ | ⟨rfl,rfl⟩) | ⟨v,rfl,rfl⟩ | ⟨rfl,rfl⟩) <;> simp

/- A word whose first letter occurs nowhere else in it cannot start inside the part
before it and run over into itself. -/
theorem wordLeads {c : α} {word b x y : List α} (alone : c ∉ word) (same : word ++ x = b ++ c :: (word ++ y)) :
    word <+: b := by
  rcases List.append_eq_append_iff.mp same with ⟨rest,whole,_⟩ | ⟨rest,whole,later⟩
  · exact ⟨rest,whole.symm⟩
  · cases rest with
    | nil => exact ⟨[],by rw [whole]; simp⟩
    | cons d rest =>
      have letter : c = d := (List.cons.inj later).1
      exact absurd (by rw [whole,letter]; simp) alone

/- The word's first occurrence in `part ++ word` is the one at the end. -/
def EndsFirst (word part : List α) : Prop := ∀ a b, part ++ word = a ++ (word ++ b) → b = []

theorem endsFirstFree {c : α} {word part : List α} (alone : c ∉ word) (free : ¬c :: word <:+: part) :
    EndsFirst (c :: word) part := by
  intro a b same
  rcases List.append_eq_append_iff.mp same with ⟨t,rfl,rest⟩ | ⟨t,rfl,rest⟩
  · have lengths := congrArg List.length rest
    simp only [List.length_append] at lengths
    exact List.length_eq_zero_iff.mp (by omega)
  · cases t with
    | nil => simpa using rest
    | cons d t =>
      obtain ⟨letter,tails⟩ := List.cons.inj rest
      subst letter
      have leads : word <+: t := wordLeads alone (tails.trans (by simp) : word ++ b = t ++ c :: (word ++ []))
      have inside : c :: word <:+: c :: t := ((List.prefix_cons_inj c).mpr leads).isInfix
      exact absurd (inside.trans (List.suffix_append a (c :: t)).isInfix) free

theorem spareEmpty {word a t x y : List α} (ends : EndsFirst word (a ++ t)) (same : word ++ x = t ++ (word ++ y)) :
    t = [] := by
  rw [← List.append_assoc] at same
  rcases List.append_eq_append_iff.mp same with ⟨z,whole,-⟩ | ⟨z,whole,-⟩
  · have nothing : z = [] := ends a z (by rw [List.append_assoc,whole])
    rw [nothing,List.append_nil] at whole
    simpa using whole
  · have lengths := congrArg List.length whole
    simp only [List.length_append] at lengths
    exact List.length_eq_zero_iff.mp (by omega)

theorem firstWord {word a b x y : List α} (same : a ++ (word ++ x) = b ++ (word ++ y)) (left : EndsFirst word a)
    (right : EndsFirst word b) : a = b ∧ x = y := by
  have parts : a = b := by
    rcases List.append_eq_append_iff.mp same with ⟨t,rfl,rest⟩ | ⟨t,rfl,rest⟩
    · rw [spareEmpty right rest,List.append_nil]
    · rw [spareEmpty left rest,List.append_nil]
  subst parts
  exact ⟨rfl,List.append_cancel_left (List.append_cancel_left same)⟩

end
end ReverseProxy.ListText
