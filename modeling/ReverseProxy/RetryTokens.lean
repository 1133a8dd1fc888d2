import ReverseProxy.Crew
import ReverseProxy.RetryOutcomes

/-! The tokens a call of retry.Execute takes from its two budgets, against the attempts
it makes beyond the first. Both budgets are paid before the wait and before the next
pass looks at the deadline, so a retry can be paid for and not made. -/
namespace ReverseProxy.RetryTokens
open RetryBudget RetryExecute RetryOutcomes
open RequestFlow (Response Failure RoundTrip classifyError)
open Crew (total totalAppend totalCons totalNil)

def cost (purse : Purse) : Event → Int
  | .consumed paid before after => if paid = purse then before.tokens - after.tokens else 0
  | _ => 0

def removed (purse : Purse) (log : List Event) : Int := total (cost purse) log

@[simp] theorem removedAppend (purse : Purse) (first second : List Event) :
    removed purse (first ++ second) = removed purse first + removed purse second := totalAppend ..

def spent (purse : Purse) : Option Refusal → Int
  | none => 1
  | some (.purse .client) => if purse = .route then 1 else 0
  | some _ => 0

theorem refusedRemoved (purse paid : Purse) {b : Budget} (refused : b.consume.1 = false) :
    removed purse [.consumed paid b b.consume.2] = 0 := by
  have same : b.consume.2 = b := by
    unfold Budget.consume at refused ⊢
    split
    · rfl
    · rename_i left
      rw [if_neg left] at refused
      cases refused
  unfold removed cost
  rw [totalCons, totalNil, same]
  dsimp only
  split <;> omega

theorem grantedRemoved (purse paid : Purse) {b : Budget} (granted : b.consume.1 = true) :
    removed purse [.consumed paid b b.consume.2] = if paid = purse then 1 else 0 := by
  have less : b.consume.2.tokens = b.tokens - 1 := by
    unfold Budget.consume at granted ⊢
    split
    · rename_i empty
      rw [if_pos empty] at granted
      cases granted
    · rfl
  unfold removed cost
  rw [totalCons, totalNil]
  dsimp only
  rw [less]
  split <;> omega

section
variable {cfg : Config} (budgeted : cfg.budgetEnabled = true) (route : cfg.hasRoute = true) (client : cfg.hasClient = true)

include budgeted route client

theorem consumedRemoved {t : Turn} {refusal : Option Refusal} {paid : List Event}
    (consumed : consumeBudgets cfg t = (refusal,paid)) (purse : Purse) : removed purse paid = spent purse refusal := by
  unfold consumeBudgets pay at consumed
  rw [budgeted, route, client] at consumed
  simp only [Bool.not_true, Bool.false_eq_true, if_false] at consumed
  split at consumed
  · cases consumed
    rfl
  · split at consumed
    · rename_i refused
      cases consumed
      exact refusedRemoved purse .route (by simpa using refused)
    · rename_i granted
      have routeTaken := grantedRemoved purse .route (b := t.route) (by simpa using granted)
      split at consumed
      · rename_i refused
        cases consumed
        rw [removedAppend, routeTaken, refusedRemoved purse .client (by simpa using refused)]
        cases purse <;> rfl
      · rename_i granted
        cases consumed
        rw [removedAppend, routeTaken, grantedRemoved purse .client (by simpa using granted)]
        cases purse <;> rfl

def waste (purse : Purse) : Exit → Int
  | .expired => 1
  | .interrupted => 1
  | .panicked => 1
  | .refused by_ => spent purse (some by_)
  | _ => 0

omit budgeted route client in
theorem openedRemoved (purse : Purse) (start : Int) (number : Nat) (t : Turn) :
    removed purse (opened cfg start number t) = 0 := by
  unfold removed opened
  cases t.answers <;> rfl

theorem retryLogRemoved {start : Int} {number : Nat} {t : Turn} {paid : List Event} {reason : String}
    (consumed : consumeBudgets cfg t = (none,paid)) (purse : Purse) :
    removed purse (retryLog cfg start number t paid reason) = 1 := by
  have quiet : removed purse (draining number t) = 0 := by
    unfold removed draining
    cases t.answers <;> rfl
  unfold retryLog
  rw [removedAppend, removedAppend, removedAppend, openedRemoved, consumedRemoved budgeted route client consumed, quiet]
  rfl

theorem endsRemoved {start : Int} {last : Bool} {number : Nat} {t : Turn} {result : Result} {exit : Exit}
    {result' : Option Result} {log : List Event} (passed : Passed cfg start last number t result (.ends exit result' log))
    (purse : Purse) : removed purse log = attempts log - 1 + waste purse exit := by
  cases passed with
  | expired late => rfl
  | answered timely outcome =>
    rw [openedRemoved, attemptsOpened]
    rfl
  | failed timely silent =>
    rw [openedRemoved, attemptsOpened]
    rfl
  | refused timely consumed ended =>
    rw [removedAppend, openedRemoved, consumedRemoved budgeted route client consumed, attemptsAppend, attemptsOpened,
      attemptsPaid consumed]
    change 0 + spent purse (some _) = ((1 : Nat) : Int) - 1 + spent purse (some _)
    omega
  | interrupted timely consumed =>
    rw [retryLogRemoved budgeted route client consumed, attemptsRetryLog consumed]
    rfl
  | panicked timely consumed =>
    rw [retryLogRemoved budgeted route client consumed, attemptsRetryLog consumed]
    rfl

theorem executedRemoved {start : Int} {turns : Nat → Turn} {left made : Nat} {result : Result} {o : Outcome}
    (executed : Executed cfg start turns left made result o) (some_ : left ≠ 0) (purse : Purse) :
    removed purse o.log = attempts o.log - 1 + waste purse o.exit := by
  induction executed with
  | exhausted => exact absurd rfl some_
  | ends passed => exact endsRemoved budgeted route client passed purse
  | again passed later ih =>
    cases passed with
    | again timely more consumed =>
      have rest := ih (by simpa using more)
      rw [removedAppend, attemptsAppend, retryLogRemoved budgeted route client consumed, attemptsRetryLog consumed, rest]
      push_cast
      omega

end

/- The attempt came to something the policy retries. -/
def wants (cfg : Config) (t : Turn) : Bool :=
  match t.outcome with
  | .response r => cfg.policy.retryOnStatus.contains r.status
  | .noUpstream => false
  | .failed e => t.outerErr.isNone && (classifyError e).any (cfg.policy.retryOnErrors.contains ·)

/- Pass `k` makes its attempt and asks for another. -/
structure Asks (cfg : Config) (start : Int) (turns : Nat → Turn) (k : Nat) : Prop where
  timely : 0 < perTry cfg start (turns k)
  wants : wants cfg (turns k) = true
  allowed : cfg.allowRetry = true
  more : (k + 1 : Int) < cfg.maxAttempts

/- The route budget gives a token for it. -/
structure Pays (cfg : Config) (start : Int) (turns : Nat → Turn) (k : Nat) : Prop extends Asks cfg start turns k where
  known : cfg.budgetError = false
  route : 0 < (turns k).route.tokens

structure Retries (cfg : Config) (start : Int) (turns : Nat → Turn) (k : Nat) : Prop extends Pays cfg start turns k where
  client : 0 < (turns k).client.tokens
  slept : sleepWithBackoff cfg.policy (turns k) = .through

inductive WastesAt (cfg : Config) (start : Int) (turns : Nat → Turn) (k : Nat) : Prop where
  | client (pays : Pays cfg start turns k) (empty : (turns k).client.tokens ≤ 0)
  | wait (pays : Pays cfg start turns k) (cut : sleepWithBackoff cfg.policy (turns k) ≠ .through)
  | late (retry : 0 < k) (more : (k : Int) < cfg.maxAttempts) (late : perTry cfg start (turns k) ≤ 0)

/- From pass `made` on, what is paid for at `k` is the first retry that is not made. -/
def Wastes (cfg : Config) (start : Int) (turns : Nat → Turn) (made : Nat) : Prop :=
  ∃ k, made ≤ k ∧ (∀ i, made ≤ i → i < k → Retries cfg start turns i) ∧ WastesAt cfg start turns k

section
variable {cfg : Config} {start : Int} {turns : Nat → Turn} {made : Nat}

theorem wastesHere (stops : ¬Retries cfg start turns made) : Wastes cfg start turns made ↔ WastesAt cfg start turns made := by
  constructor
  · rintro ⟨k,from_,retries,wastes⟩
    rcases Nat.eq_or_lt_of_le from_ with rfl | later
    · exact wastes
    · exact absurd (retries made (Nat.le_refl _) later) stops
  · intro wastes
    exact ⟨made,Nat.le_refl _,fun i lower upper => absurd lower (Nat.not_le.mpr upper),wastes⟩

theorem retriesKeeps (retries : Retries cfg start turns made) : ¬WastesAt cfg start turns made
  | .client _ empty => absurd retries.client (Int.not_lt.mpr empty)
  | .wait _ cut => cut retries.slept
  | .late _ _ late => absurd retries.timely (Int.not_lt.mpr late)

theorem wastesNext (retries : Retries cfg start turns made) :
    Wastes cfg start turns made ↔ Wastes cfg start turns (made + 1) := by
  constructor
  · rintro ⟨k,from_,before,wastes⟩
    rcases Nat.eq_or_lt_of_le from_ with rfl | later
    · exact absurd wastes (retriesKeeps retries)
    · exact ⟨k,later,fun i lower upper => before i (Nat.le_of_succ_le lower) upper,wastes⟩
  · rintro ⟨k,from_,before,wastes⟩
    refine ⟨k,Nat.le_of_succ_le from_,fun i lower upper => ?_,wastes⟩
    rcases Nat.eq_or_lt_of_le lower with rfl | later
    · exact retries
    · exact before i later upper

theorem consumeGrants (b : Budget) : b.consume.1 = decide (0 < b.tokens) := by
  unfold Budget.consume
  split
  · exact (decide_eq_false (by omega)).symm
  · exact (decide_eq_true (by omega)).symm

def Spoiled (exit : Exit) : Prop := exit = .refused (.purse .client) ∨ exit = .interrupted ∨ exit = .panicked

/- What one pass comes to, in terms of its turn. -/
inductive Ends (cfg : Config) (start : Int) (turns : Nat → Turn) (k : Nat) : Pass → Prop where
  | late {result} (late : perTry cfg start (turns k) ≤ 0) : Ends cfg start turns k (.ends .expired result [])
  | settled {exit result log} (timely : 0 < perTry cfg start (turns k)) (quiet : ¬Asks cfg start turns k)
      (is : exit = .answered ∨ exit = .failed) : Ends cfg start turns k (.ends exit result log)
  | unpaid {by_ result log} (asks : Asks cfg start turns k) (unpaid : ¬Pays cfg start turns k)
      (is : by_ ≠ .purse .client) : Ends cfg start turns k (.ends (.refused by_) result log)
  | wasted {exit result log} (pays : Pays cfg start turns k) (wastes : WastesAt cfg start turns k)
      (is : Spoiled exit) : Ends cfg start turns k (.ends exit result log)
  | retries {result log} (retries : Retries cfg start turns k) : Ends cfg start turns k (.again result log)

theorem endsWastes {exit : Exit} {result : Option Result} {log : List Event} (inside : (made : Int) < cfg.maxAttempts)
    (ends : Ends cfg start turns made (.ends exit result log)) :
    (Spoiled exit ∨ (exit = .expired ∧ 0 < made + attempts log)) ↔ Wastes cfg start turns made := by
  have fine {exit : Exit} (unspoiled : ¬Spoiled exit) (timely : exit ≠ .expired) (stops : ¬Retries cfg start turns made)
      (none_ : ¬WastesAt cfg start turns made) :
      (Spoiled exit ∨ (exit = .expired ∧ 0 < made + attempts log)) ↔ Wastes cfg start turns made := by
    rw [wastesHere stops]
    exact iff_of_false (fun either => either.elim unspoiled (fun late => timely late.1)) none_
  cases ends with
  | late late =>
    rw [wastesHere fun retries => absurd retries.timely (Int.not_lt.mpr late)]
    constructor
    · rintro (spoiled | ⟨-,paid⟩)
      · rcases spoiled with same | same | same <;> cases same
      · exact .late paid inside late
    · rintro (pays | pays | more)
      · exact absurd pays.timely (Int.not_lt.mpr late)
      · exact absurd pays.timely (Int.not_lt.mpr late)
      · exact .inr ⟨rfl,more⟩
  | settled timely quiet is =>
    refine fine ?_ ?_ (fun retries => quiet retries.toAsks) ?_
    · rcases is with rfl | rfl <;> rintro (same | same | same) <;> cases same
    · rcases is with rfl | rfl <;> exact Exit.noConfusion
    · rintro (pays | pays | late)
      · exact quiet pays.toAsks
      · exact quiet pays.toAsks
      · exact absurd timely (Int.not_lt.mpr (by assumption))
  | unpaid asks unpaid is =>
    refine fine ?_ Exit.noConfusion (fun retries => unpaid retries.toPays) ?_
    · rintro (same | same | same) <;> cases same
      exact is rfl
    · rintro (pays | pays | late)
      · exact unpaid pays
      · exact unpaid pays
      · exact absurd asks.timely (Int.not_lt.mpr (by assumption))
  | wasted pays wastes is =>
    rw [wastesHere fun retries => retriesKeeps retries wastes]
    exact iff_of_true (.inl is) wastes

variable (budgeted : cfg.budgetEnabled = true) (route : cfg.hasRoute = true) (client : cfg.hasClient = true)

include budgeted route client

theorem tryAgainEnds {k : Nat} {reason : String} {result : Result} {refused : Result → Result} {drain log : List Event}
    (asks : Asks cfg start turns k) :
    Ends cfg start turns k (tryAgain cfg (turns k) reason result refused drain log) := by
  unfold tryAgain consumeBudgets pay
  rw [budgeted, route, client]
  simp only [Bool.not_true, Bool.false_eq_true, if_false, consumeGrants]
  cases known : cfg.budgetError with
  | true =>
    rw [if_pos rfl]
    exact .unpaid asks (fun pays => nomatch known.symm.trans pays.known) Refusal.noConfusion
  | false =>
    rw [if_neg Bool.false_ne_true]
    by_cases first : 0 < (turns k).route.tokens
    · have pays : Pays cfg start turns k := ⟨asks,known,first⟩
      by_cases second : 0 < (turns k).client.tokens
      · simp only [first, second, decide_true, Bool.not_true, Bool.false_eq_true, if_false]
        cases slept : sleepWithBackoff cfg.policy (turns k) with
        | through => exact .retries ⟨pays,second,slept⟩
        | interrupted e => exact .wasted pays (.wait pays (by rw [slept]; exact Wait.noConfusion)) (.inr (.inl rfl))
        | panicked => exact .wasted pays (.wait pays (by rw [slept]; exact Wait.noConfusion)) (.inr (.inr rfl))
      · simp only [first, second, decide_true, decide_false, Bool.not_true, Bool.not_false, Bool.false_eq_true, if_false, if_true]
        exact .wasted pays (.client pays (Int.not_lt.mp second)) (.inl rfl)
    · simp only [first, decide_false, Bool.not_false, if_true]
      exact .unpaid asks (fun pays => first pays.route) (fun same => nomatch same)

omit budgeted route client in
theorem unasked {k : Nat} (unwanted : wants cfg (turns k) = false) : ¬Asks cfg start turns k :=
  fun asks => nomatch unwanted.symm.trans asks.wants

section
variable {k : Nat} {last : Bool} {result : Result} {log : List Event}
  (which : last = false ↔ (k + 1 : Int) < cfg.maxAttempts) (timely : 0 < perTry cfg start (turns k))

omit budgeted route client in
include which in
theorem unallowed (mayNot : (!last && cfg.allowRetry) = false) : ¬Asks cfg start turns k := by
  intro asks
  rw [which.mpr asks.more, asks.allowed] at mayNot
  cases mayNot

include which timely

theorem afterResponseEnds {r : Response} (outcome : (turns k).outcome = .response r) :
    Ends cfg start turns k (afterResponse cfg last k (turns k) result r log) := by
  have wanted : wants cfg (turns k) = cfg.policy.retryOnStatus.contains r.status := by
    unfold wants
    rw [outcome]
  unfold afterResponse classifyStatus
  cases listed : cfg.policy.retryOnStatus.contains r.status with
  | false => exact .settled timely (unasked (wanted.trans listed)) (.inl rfl)
  | true =>
    rw [if_pos rfl]
    dsimp only
    cases may : !last && cfg.allowRetry with
    | false => exact .settled timely (unallowed which may) (.inl rfl)
    | true =>
      obtain ⟨more,allowed⟩ := Bool.and_eq_true_iff.mp may
      rw [if_pos rfl]
      exact tryAgainEnds budgeted route client ⟨timely,wanted.trans listed,allowed,which.mp (by simpa using more)⟩

theorem afterErrorEnds {err : Failure} {reason : Option String}
    (wanted : wants cfg (turns k) = ((turns k).outerErr.isNone && reason.any (cfg.policy.retryOnErrors.contains ·))) :
    Ends cfg start turns k (afterError cfg last (turns k) result err reason log) := by
  unfold afterError
  cases outer : (turns k).outerErr with
  | some cause =>
    rw [outer] at wanted
    exact .settled timely (unasked wanted) (.inr rfl)
  | none =>
    rw [outer] at wanted
    cases reason with
    | none => exact .settled timely (unasked wanted) (.inr rfl)
    | some reason =>
      have wanted : wants cfg (turns k) = cfg.policy.retryOnErrors.contains reason := wanted
      dsimp only
      cases may : !last && cfg.allowRetry with
      | false =>
        rw [if_pos (by cases last <;> cases allowed : cfg.allowRetry <;> simp_all)]
        exact .settled timely (unallowed which may) (.inr rfl)
      | true =>
        obtain ⟨more,allowed⟩ := Bool.and_eq_true_iff.mp may
        rw [if_neg (by simp_all)]
        cases listed : cfg.policy.retryOnErrors.contains reason with
        | false => exact .settled timely (unasked (wanted.trans listed)) (.inr rfl)
        | true =>
          rw [if_neg (by decide)]
          exact tryAgainEnds budgeted route client ⟨timely,wanted.trans listed,allowed,which.mp (by simpa using more)⟩

end

theorem turnEnds {k : Nat} {last : Bool} {result : Result} (which : last = false ↔ (k + 1 : Int) < cfg.maxAttempts) :
    Ends cfg start turns k (turn cfg start last k (turns k) result) := by
  unfold turn
  split
  · exact .late (by assumption)
  · rename_i early
    have timely : 0 < perTry cfg start (turns k) := Int.not_le.mp early
    cases outcome : (turns k).outcome with
    | response r => exact afterResponseEnds budgeted route client which timely outcome
    | noUpstream =>
      refine afterErrorEnds budgeted route client which timely ?_
      simp [wants,outcome]
    | failed e =>
      refine afterErrorEnds budgeted route client which timely ?_
      simp only [wants, outcome]

/- By induction on the passes left; a late pass beyond the first was paid for. -/
theorem loopWastes {left : Nat} (some_ : left ≠ 0) {made : Nat} {result : Result} (all : (left + made : Int) = cfg.maxAttempts) :
    (Spoiled (loop cfg start turns left made result).exit ∨ ((loop cfg start turns left made result).exit = .expired ∧
      0 < made + attempts (loop cfg start turns left made result).log)) ↔ Wastes cfg start turns made := by
  induction left generalizing made result with
  | zero => exact absurd rfl some_
  | succ left ih =>
    have which : (left == 0) = false ↔ (made + 1 : Int) < cfg.maxAttempts := by
      rw [beq_eq_false_iff_ne]
      push_cast at all
      omega
    have ends : Ends cfg start turns made (turn cfg start (left == 0) made (turns made) result) :=
      turnEnds budgeted route client which
    have passed : Passed cfg start (left == 0) made (turns made) result _ := turnPassed (left == 0)
    have inside : (made : Int) < cfg.maxAttempts := by
      push_cast at all
      omega
    unfold loop
    generalize turn cfg start (left == 0) made (turns made) result = pass at ends passed
    cases pass with
    | «ends» exit result' log => exact endsWastes inside ends
    | again result' log =>
      cases ends with
      | retries retries =>
        have more := retries.more
        push_cast at all
        have later := @ih (by omega) (made + 1) result' (by push_cast; omega)
        rw [wastesNext retries, ← later]
        cases passed with
        | again timely last consumed =>
          dsimp only
          rw [attemptsAppend, attemptsRetryLog consumed, ← Nat.add_assoc]

end

theorem maxAttemptsPositive (cfg : Config) : cfg.maxAttempts.toNat ≠ 0 := by
  unfold Config.maxAttempts
  split
  · decide
  · split <;> omega

theorem executedTries {cfg : Config} {start : Int} {turns : Nat → Turn} {left made : Nat} {result : Result} {o : Outcome}
    (executed : Executed cfg start turns left made result o) (some_ : left ≠ 0) (ended : o.exit ≠ .expired) :
    0 < attempts o.log := by
  induction executed with
  | exhausted => exact absurd rfl some_
  | ends passed =>
    cases passed with
    | expired late => exact absurd rfl ended
    | answered timely outcome => exact attemptsOpened ▸ Nat.one_pos
    | failed timely silent => exact attemptsOpened ▸ Nat.one_pos
    | refused timely consumed ended =>
      rw [attemptsAppend, attemptsOpened]
      omega
    | interrupted timely consumed => exact attemptsRetryLog consumed ▸ Nat.one_pos
    | panicked timely consumed => exact attemptsRetryLog consumed ▸ Nat.one_pos
  | again passed later ih =>
    cases passed with
    | again timely more consumed =>
      rw [attemptsAppend, attemptsRetryLog consumed]
      omega

def Wasted (o : Outcome) : Prop := Spoiled o.exit ∨ (o.exit = .expired ∧ 0 < attempts o.log)

theorem wastedTokens {o : Outcome} (counted : ∀ purse, removed purse o.log = attempts o.log - 1 + waste purse o.exit)
    (tries : o.exit ≠ .expired → 0 < attempts o.log) (wasted : Wasted o) :
    removed .route o.log = attempts o.log ∧ 0 < attempts o.log := by
  have here {exit : Exit} (ended : o.exit = exit) (one : waste .route exit = 1) : removed .route o.log = attempts o.log := by
    rw [counted .route, ended, one]
    exact Int.sub_add_cancel ..
  have tried {exit : Exit} (ended : o.exit = exit) (timely : exit ≠ .expired) : 0 < attempts o.log :=
    tries (ended ▸ timely)
  rcases wasted with (ended | ended | ended) | ⟨ended,made⟩
  · exact ⟨here ended rfl,tried ended Exit.noConfusion⟩
  · exact ⟨here ended rfl,tried ended Exit.noConfusion⟩
  · exact ⟨here ended rfl,tried ended Exit.noConfusion⟩
  · exact ⟨here ended rfl,made⟩

theorem unwasted {o : Outcome} (fine : ¬Wasted o) (purse : Purse) :
    waste purse o.exit = 0 ∨ (o.exit = .expired ∧ attempts o.log = 0) := by
  unfold Wasted Spoiled at fine
  cases exit : o.exit with
  | expired =>
    refine .inr ⟨rfl,Nat.eq_zero_of_not_pos (fun tried => ?_)⟩
    exact fine (.inr ⟨exit,tried⟩)
  | interrupted => exact absurd (.inl (.inr (.inl exit))) fine
  | panicked => exact absurd (.inl (.inr (.inr exit))) fine
  | refused by_ =>
    rcases by_ with _ | _ | _
    · exact .inl rfl
    · exact .inl rfl
    · exact absurd (.inl (.inl exit)) fine
  | unstarted => exact .inl rfl
  | answered => exact .inl rfl
  | failed => exact .inl rfl
  | exhausted => exact .inl rfl

theorem tokensMatchRetries {cfg : Config} (budgeted : cfg.budgetEnabled = true) (route : cfg.hasRoute = true)
    (client : cfg.hasClient = true) (start : Int) (turns : Nat → Turn) :
    (∀ purse, removed purse (execute cfg start turns).log = ((attempts (execute cfg start turns).log - 1 : Nat) : Int)) ↔
    ¬Wastes cfg start turns 0 := by
  have executed := executeExecuted cfg start turns
  have some_ := maxAttemptsPositive cfg
  have counted := executedRemoved budgeted route client executed some_
  have tries := executedTries executed some_
  have wastes : Wasted (execute cfg start turns) ↔ Wastes cfg start turns 0 := by
    have passes := @loopWastes cfg start turns budgeted route client _ some_ 0 {} (by omega)
    rw [Nat.zero_add] at passes
    exact passes
  rw [← wastes]
  generalize execute cfg start turns = o at counted tries
  constructor
  · intro matched wasted
    obtain ⟨whole,tried⟩ := wastedTokens counted tries wasted
    have short := matched .route
    omega
  · intro fine purse
    have count := counted purse
    rcases unwasted fine purse with none_ | ⟨exit,untried⟩
    · have tried : 0 < attempts o.log := by
        refine tries (fun exit => ?_)
        rw [exit] at none_
        cases none_
      omega
    · rw [exit] at count
      change removed purse o.log = attempts o.log - 1 + 1 at count
      omega

def twoAttempts : Config :=
  { policy := ⟨true,2,0,0,[503],[],10,0⟩, allowRetry := true, budgetEnabled := true, hasRoute := true, hasClient := true }

def unavailable : Turn :=
  { now := 0, later := 0, outcome := .response ⟨503,.empty,[]⟩, route := ⟨10,5,1,0⟩, client := ⟨10,5,1,0⟩ }

theorem unavailableRetries : ¬Wastes twoAttempts 0 (fun _ => unavailable) 0 := by
  rintro ⟨k,-,-,wastes⟩
  cases wastes with
  | client pays empty => exact absurd empty (by decide)
  | wait pays cut => exact cut rfl
  | late retry more late => exact absurd late (by decide)

theorem secondAttemptPaid : attempts (execute twoAttempts 0 (fun _ => unavailable)).log = 2 ∧
    ∀ purse, removed purse (execute twoAttempts 0 (fun _ => unavailable)).log =
      ((attempts (execute twoAttempts 0 (fun _ => unavailable)).log - 1 : Nat) : Int) :=
  ⟨by decide,(tokensMatchRetries rfl rfl rfl 0 _).mpr unavailableRetries⟩

def clientEmpty (_ : Nat) : Turn := { unavailable with client := ⟨10,5,0,0⟩ }

theorem routePaysAlone : attempts (execute twoAttempts 0 clientEmpty).log = 1 ∧
    removed .route (execute twoAttempts 0 clientEmpty).log = 1 ∧
    removed .client (execute twoAttempts 0 clientEmpty).log = 0 :=
  ⟨by decide,by decide,by decide⟩

end ReverseProxy.RetryTokens
