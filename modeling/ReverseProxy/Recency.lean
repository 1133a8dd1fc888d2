import Mathlib.Data.List.Basic
import Mathlib.Data.List.Nodup

/-! Keys by their last use. A history is a list of keys, the latest first; `recent` has
each of its keys once, and a cache of the least recently used kind with n places holds
the first n of them. -/
namespace ReverseProxy.Recency
variable {K : Type} [DecidableEq K]

def recent : List K → List K
  | [] => []
  | k :: older => k :: (recent older).filter (fun x => x ≠ k)

theorem memRecent {k : K} {history : List K} : k ∈ recent history ↔ k ∈ history := by
  induction history with
  | nil => simp [recent]
  | cons head older ih =>
    by_cases here : k = head
    · simp [recent,here]
    · simp [recent,here,ih]

theorem recentNodup (history : List K) : (recent history).Nodup := by
  induction history with
  | nil => exact List.nodup_nil
  | cons head older ih =>
    rw [recent, List.nodup_cons]
    exact ⟨by simp,ih.filter _⟩

theorem recentAppend (newer older : List K) :
    recent (newer ++ older) = recent newer ++ (recent older).filter (fun x => decide (x ∉ newer)) := by
  induction newer with
  | nil => simp [recent]
  | cons head rest ih =>
    rw [List.cons_append, recent, recent, ih, List.filter_append, List.cons_append, List.filter_filter]
    refine congrArg (fun tail => head :: ((recent rest).filter (fun x => x ≠ head) ++ tail)) (List.filter_congr (fun x _ => ?_))
    simp [not_or]

section
variable {k : K} {keys : List K}

theorem takeHit (unique : keys.Nodup) {n : Nat} (inside : k ∈ keys.take (n + 1)) :
    (keys.take (n + 1)).filter (fun x => x ≠ k) = (keys.filter (fun x => x ≠ k)).take n := by
  induction keys generalizing n with
  | nil => simp at inside
  | cons head rest ih =>
    obtain ⟨fresh,unique⟩ := List.nodup_cons.mp unique
    rw [List.take_succ_cons] at inside ⊢
    by_cases here : head = k
    · subst here
      have other : ∀ x ∈ rest, x ≠ head := fun x there same => fresh (same ▸ there)
      rw [List.filter_cons_of_neg (by simp), List.filter_cons_of_neg (by simp),
        List.filter_eq_self.mpr (fun x there => by simpa using other x (List.mem_of_mem_take there)),
        List.filter_eq_self.mpr (fun x there => by simpa using other x there)]
    · have later : k ∈ rest.take n := (List.mem_cons.mp inside).resolve_left (Ne.symm here)
      cases n with
      | zero => simp at later
      | succ n =>
        rw [List.filter_cons_of_pos (by simpa using here), List.filter_cons_of_pos (by simpa using here),
          List.take_succ_cons, ih unique later]

theorem takeMiss {n : Nat} (outside : k ∉ keys.take (n + 1)) : (keys.filter (fun x => x ≠ k)).take n = keys.take n := by
  induction keys generalizing n with
  | nil => simp
  | cons head rest ih =>
    rw [List.take_succ_cons] at outside
    have other : head ≠ k := fun same => outside (same ▸ List.mem_cons_self)
    rw [List.filter_cons_of_pos (by simpa using other)]
    cases n with
    | zero => simp
    | succ n => rw [List.take_succ_cons, List.take_succ_cons, ih (fun later => outside (List.mem_cons_of_mem _ later))]

end

section
variable {k : K} {history : List K} {n : Nat}

theorem recentHit (inside : k ∈ (recent history).take (n + 1)) :
    k :: ((recent history).take (n + 1)).filter (fun x => x ≠ k) = (recent (k :: history)).take (n + 1) := by
  rw [recent, List.take_succ_cons, takeHit (recentNodup history) inside]

theorem recentMiss (outside : k ∉ (recent history).take (n + 1)) :
    k :: (recent history).take n = (recent (k :: history)).take (n + 1) := by
  rw [recent, List.take_succ_cons, takeMiss outside]

theorem recentWithin {newer older : List K} (apart : k ∉ newer) :
    k ∈ (recent (newer ++ k :: older)).take n ↔ (recent newer).length < n := by
  have front : (recent (k :: older)).filter (fun x => decide (x ∉ newer)) =
      k :: ((recent older).filter (fun x => x ≠ k)).filter (fun x => decide (x ∉ newer)) := by
    rw [recent, List.filter_cons_of_pos (by simpa using apart)]
  rw [recentAppend, front, List.take_append]
  constructor
  · intro inside
    rcases List.mem_append.mp inside with early | late
    · exact absurd (memRecent.mp (List.mem_of_mem_take early)) apart
    · have some_ : n - (recent newer).length ≠ 0 := fun zero => by simp [zero] at late
      omega
  · intro few
    obtain ⟨rest,gap⟩ := Nat.exists_eq_add_of_lt few
    refine List.mem_append_right _ ?_
    rw [show n - (recent newer).length = rest + 1 by omega, List.take_succ_cons]
    exact List.mem_cons_self

end
end ReverseProxy.Recency
