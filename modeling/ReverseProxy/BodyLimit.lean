import ReverseProxy.ConfigValidation
import ReverseProxy.RequestIntake

/-! Request bodies of unknown length against max_body_bytes: what readBodyWithinLimit
returns of them, and what enforceRequestLimits lets through. -/
namespace ReverseProxy.BodyLimit
open GoValues ConfigData
open PolicyBuild (Limits limitsFromConfig)
open RequestIntake

structure Whole (limit : Int) (b : Body) : Prop where
  read : b.failsAt = none → b.content.length ≤ limit → readBodyWithinLimit (some b) limit = .ok b.content
  tooLarge : b.failsAt = none → limit < b.content.length → readBodyWithinLimit (some b) limit = .error .tooLarge
  forwarded : ∀ (l : Limits) (r r' : Inbound), l.maxBodyBytes = limit → r.contentLength < 0 → r.body = some b →
    enforceRequestLimits l r = .ok r' → r'.body = some { content := b.content } ∧ b.content.length ≤ limit

section
variable {limit : Int} {b : Body}

theorem enforceReads {l : Limits} {r r' : Inbound} (own : l.maxBodyBytes = limit) (positive : 1 ≤ limit)
    (unknown : r.contentLength < 0) (carried : r.body = some b) (passed : enforceRequestLimits l r = .ok r') :
    ∃ data, readBodyWithinLimit (some b) limit = .ok data ∧ r'.body = some { content := data } := by
  unfold enforceRequestLimits at passed
  rw [own, carried, if_neg (show ¬limit = 0 by omega), if_pos (show 0 < limit by omega),
    if_neg (show ¬limit < r.contentLength by omega), if_pos unknown] at passed
  split at passed
  · cases passed
  · split at passed
    · cases passed
    · cases read : readBodyWithinLimit (some b) limit with
      | error e => cases e <;> simp [read] at passed
      | ok data =>
        rw [read] at passed
        cases passed
        exact ⟨data,rfl,rfl⟩

theorem readBelow (positive : 1 ≤ limit) (below : limit < 2^63 - 1) : readBodyWithinLimit (some b) limit =
    if b.failsAt.any (fun k => decide ((k : Int) < limit + 1)) then .error .unreadable
    else if limit < b.content.length then .error .tooLarge else .ok b.content := by
  have fits : wrap64 (limit + 1) = limit + 1 := wrap64Same (by omega) (by omega)
  unfold readBodyWithinLimit readLimited
  dsimp only
  rw [if_neg (by omega), fits, if_neg (by omega)]
  cases b.failsAt.any (fun k => decide ((k : Int) < limit + 1)) with
  | true => rfl
  | false =>
    simp only [Bool.false_eq_true, if_false, List.length_take]
    by_cases longer : limit < b.content.length
    · rw [if_pos longer, if_pos (by omega)]
    · rw [if_neg longer, if_neg (by omega), List.take_of_length_le (by omega)]

theorem wholeBelow (positive : 1 ≤ limit) (below : limit < 2^63 - 1) (b : Body) : Whole limit b where
  read readable small := by
    rw [readBelow positive below, readable, if_neg (by simp), if_neg (by omega)]
  tooLarge readable large := by
    rw [readBelow positive below, readable, if_neg (by simp), if_pos large]
  forwarded l r r' own unknown carried passed := by
    obtain ⟨data,read,body⟩ := enforceReads own positive unknown carried passed
    rw [readBelow positive below] at read
    split at read
    · cases read
    · split at read
      · cases read
      · rename_i small
        cases read
        exact ⟨body,by omega⟩

theorem readLast (b : Body) : readBodyWithinLimit (some b) (2^63 - 1) = .ok [] := by
  have wraps : wrap64 (2^63 - 1 + 1) = -(2^63) := by decide
  unfold readBodyWithinLimit readLimited
  dsimp only
  rw [if_neg (by decide), wraps, if_pos (by decide)]
  rfl

end

def plainLimits (limit : Int) : Limits := { Limits.default with maxBodyBytes := limit }

def upload (b : Body) : Inbound where
  request := ⟨encodeText "POST",[],[],[],FiniteMap.Map.empty⟩
  requestURI := []
  headerCount := 0
  contentLength := -1
  body := some b

theorem uploadPasses (b : Body) : enforceRequestLimits (plainLimits (2^63 - 1)) (upload b) =
    .ok { upload b with body := some { content := [] }, contentLength := 0 } := by
  unfold enforceRequestLimits plainLimits upload
  dsimp only
  rw [if_neg (by decide), if_neg (by decide), if_neg (by decide), if_pos (by decide), if_neg (by decide), if_pos (by decide), readLast]
  rfl

theorem wholeLast (b : Body) : Whole (2^63 - 1) b ↔ b.content = [] := by
  constructor
  · intro whole
    have passed := (whole.forwarded (plainLimits (2^63 - 1)) (upload b) _ rfl (show (-1 : Int) < 0 by decide) rfl (uploadPasses b)).1
    cases b with
    | mk content failsAt => cases passed; rfl
  · intro empty
    refine ⟨fun _ _ => ?_,fun _ large => ?_,fun l r r' own unknown carried passed => ?_⟩
    · rw [readLast, empty]
    · rw [empty] at large
      exact absurd large (by decide)
    · obtain ⟨data,read,body⟩ := enforceReads own (by decide) unknown carried passed
      rw [readLast] at read
      cases read
      rw [empty]
      exact ⟨body,by decide⟩

theorem bodiesWhole {limit : Int} (positive : 1 ≤ limit) (range : limit < 2^63) (b : Body) :
    Whole limit b ↔ limit < 2^63 - 1 ∨ b.content = [] := by
  by_cases below : limit < 2^63 - 1
  · exact ⟨fun _ => .inl below,fun _ => wholeBelow positive below b⟩
  · have last : limit = 2^63 - 1 := by omega
    subst last
    rw [wholeLast]
    exact ⟨.inr,fun either => either.resolve_left below⟩

theorem fourWithinTen : Whole 10 ⟨[80,79,83,84],none⟩ := (bodiesWhole (by decide) (by decide) _).mpr (.inl (by decide))

def unlimited : LimitsConfig := { maxBodyBytes := some (2^63 - 1), readHeaderTimeoutMS := 2000 }

theorem lastLimitTruncates : ConfigValidation.validateLimits unlimited = .ok () ∧
    limitsFromConfig unlimited = .ok (plainLimits (2^63 - 1)) ∧
    readBodyWithinLimit (some ⟨[80,79,83,84],none⟩) (2^63 - 1) = .ok [] ∧
    enforceRequestLimits (plainLimits (2^63 - 1)) (upload ⟨[80,79,83,84],none⟩) =
      .ok { upload ⟨[80,79,83,84],none⟩ with body := some { content := [] }, contentLength := 0 } :=
  ⟨by decide,by decide,readLast _,uploadPasses _⟩

end ReverseProxy.BodyLimit
