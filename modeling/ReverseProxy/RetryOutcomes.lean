import ReverseProxy.RetryExecute

/-! What a call of roundTripWithRetry leaves, wherever it ends: how many attempts it made
and with what timeouts, what it returns, and what became of the responses it got. -/
namespace ReverseProxy.RetryOutcomes
open GoValues RetryBudget RetryExecute
open RequestFlow (Response Failure RoundTrip computePerTryTimeout)
open RequestIntake (isIdempotentMethod isReplayableBody)

@[simp] theorem attemptsAppend (first second : List Event) : attempts (first ++ second) = attempts first + attempts second :=
  List.countP_append

theorem paidEvents {cfg : Config} {t : Turn} {refusal : Option Refusal} {paid : List Event}
    (consumed : consumeBudgets cfg t = (refusal,paid)) :
    ∀ e ∈ paid, ∃ purse before after, e = .consumed purse before after := by
  have each (purse : Purse) (present : Bool) (b : Budget) :
      ∀ e ∈ (pay purse present b).2, ∃ purse before after, e = .consumed purse before after := by
    intro e inside
    unfold pay at inside
    split at inside
    · cases inside
    · exact ⟨_,_,_,List.mem_singleton.mp inside⟩
  have both : ∀ e ∈ (pay .route cfg.hasRoute t.route).2 ++ (pay .client cfg.hasClient t.client).2,
      ∃ purse before after, e = .consumed purse before after := by
    intro e inside
    rcases List.mem_append.mp inside with route | client
    · exact each _ _ _ e route
    · exact each _ _ _ e client
  unfold consumeBudgets at consumed
  dsimp only at consumed
  split at consumed
  · cases consumed
    exact fun e inside => absurd inside List.not_mem_nil
  · split at consumed
    · cases consumed
      exact fun e inside => absurd inside List.not_mem_nil
    · split at consumed
      · cases consumed
        exact each _ _ _
      · split at consumed
        · cases consumed
          exact both
        · cases consumed
          exact both

section
variable {cfg : Config} {start : Int} {last : Bool} {number : Nat} {t : Turn} {result : Result}

theorem attemptsOpened : attempts (opened cfg start number t) = 1 := by
  unfold opened
  cases t.answers <;> rfl

theorem attemptsPaid {refusal : Option Refusal} {paid : List Event} (consumed : consumeBudgets cfg t = (refusal,paid)) :
    attempts paid = 0 := by
  refine List.countP_eq_zero.mpr (fun e inside => ?_)
  obtain ⟨_,_,_,same⟩ := paidEvents consumed e inside
  rw [same]
  exact Bool.false_ne_true

theorem attemptsRetryLog {refusal : Option Refusal} {paid : List Event} {reason : String}
    (consumed : consumeBudgets cfg t = (refusal,paid)) : attempts (retryLog cfg start number t paid reason) = 1 := by
  have quiet : attempts (draining number t) = 0 := by
    unfold draining
    cases t.answers <;> rfl
  unfold retryLog
  rw [attemptsAppend, attemptsAppend, attemptsAppend, attemptsOpened, attemptsPaid consumed, quiet]
  rfl

theorem openedMember {e : Event} : e ∈ opened cfg start number t ↔
    e = .attempted number (perTry cfg start t) t.now t.later ∨ (t.answers = true ∧ e = .answered number) ∨
    e = .cancelled number := by
  unfold opened
  cases t.answers <;> simp

theorem retryLogOpens {refusal : Option Refusal} {paid : List Event} {reason : String} {e : Event}
    (consumed : consumeBudgets cfg t = (refusal,paid)) (inside : e ∈ retryLog cfg start number t paid reason)
    (of : e.ofAttempt = true) : e ∈ opened cfg start number t := by
  rcases List.mem_append.mp inside with before | drained
  · rcases List.mem_append.mp before with before | retried
    · rcases List.mem_append.mp before with opens | paid
      · exact opens
      · obtain ⟨_,_,_,rfl⟩ := paidEvents consumed e paid
        cases of
    · cases List.mem_singleton.mp retried
      cases of
  · unfold draining drainResponse at drained
    split at drained
    · rcases List.mem_cons.mp drained with rfl | closed
      · cases of
      · cases List.mem_singleton.mp closed
        cases of
    · cases drained

theorem passOpens {pass : Pass} {e : Event} (passed : Passed cfg start last number t result pass) (inside : e ∈ pass.log)
    (of : e.ofAttempt = true) : 0 < perTry cfg start t ∧ e ∈ opened cfg start number t := by
  cases passed with
  | expired late => cases inside
  | answered timely outcome => exact ⟨timely,inside⟩
  | failed timely silent => exact ⟨timely,inside⟩
  | refused timely consumed ended =>
    refine ⟨timely,?_⟩
    rcases List.mem_append.mp inside with opens | paid
    · exact opens
    · obtain ⟨_,_,_,rfl⟩ := paidEvents consumed e paid
      cases of
  | again timely more consumed => exact ⟨timely,retryLogOpens consumed inside of⟩
  | interrupted timely consumed => exact ⟨timely,retryLogOpens consumed inside of⟩
  | panicked timely consumed => exact ⟨timely,retryLogOpens consumed inside of⟩

def Tallied (before after made : Nat) : Prop := made + before = after ∨ made + before = after + 1

theorem endsTallied {exit : Exit} {result' : Result} {log : List Event}
    (passed : Passed cfg start last number t result (.ends exit (some result') log)) :
    Tallied result.retryCount result'.retryCount (attempts log) := by
  unfold Tallied
  cases passed with
  | expired late => exact .inl (Nat.zero_add _)
  | answered timely outcome =>
    rw [attemptsOpened]
    exact .inr (Nat.add_comm 1 _)
  | failed timely silent =>
    rw [attemptsOpened]
    exact .inr (Nat.add_comm 1 _)
  | refused timely consumed ended =>
    rw [attemptsAppend, attemptsOpened, attemptsPaid consumed]
    cases ended <;> exact .inr (Nat.add_comm 1 _)
  | interrupted timely consumed =>
    rw [attemptsRetryLog consumed]
    exact .inl (Nat.add_comm 1 _)

theorem endsAttempts {exit : Exit} {result' : Option Result} {log : List Event}
    (passed : Passed cfg start last number t result (.ends exit result' log)) : attempts log ≤ 1 := by
  cases passed with
  | expired late => exact Nat.zero_le 1
  | answered timely outcome => exact Nat.le_of_eq attemptsOpened
  | failed timely silent => exact Nat.le_of_eq attemptsOpened
  | refused timely consumed ended =>
    rw [attemptsAppend, attemptsOpened, attemptsPaid consumed]
  | interrupted timely consumed => exact Nat.le_of_eq (attemptsRetryLog consumed)
  | panicked timely consumed => exact Nat.le_of_eq (attemptsRetryLog consumed)

end

section
variable {cfg : Config} {start : Int} {turns : Nat → Turn} {left made : Nat} {result : Result} {o : Outcome}

theorem executedAttempts (executed : Executed cfg start turns left made result o) : attempts o.log ≤ left := by
  induction executed with
  | exhausted => exact Nat.le_refl 0
  | ends passed => exact Nat.le_trans (endsAttempts passed) (Nat.le_add_left ..)
  | again passed later ih =>
    cases passed with
    | again timely more consumed =>
      rw [attemptsAppend, attemptsRetryLog consumed]
      omega

theorem executedTallied (executed : Executed cfg start turns left made result o) {result' : Result}
    (returned : o.result = some result') : Tallied result.retryCount result'.retryCount (attempts o.log) := by
  induction executed with
  | exhausted =>
    unfold loop at returned
    dsimp only at returned
    split at returned <;> cases returned <;> exact .inl (Nat.zero_add _)
  | ends passed =>
    cases returned
    exact endsTallied passed
  | again passed later ih =>
    cases passed with
    | again timely more consumed =>
      have tallied := ih returned
      unfold Tallied at tallied ⊢
      rw [attemptsAppend, attemptsRetryLog consumed]
      unfold Result.retry at tallied
      dsimp only at tallied
      omega

theorem executedSettled (executed : Executed cfg start turns left made result o) (noResponse : result.response = none)
    (noErr : result.err = none) {result' : Result} (returned : o.result = some result') :
    result'.response.isSome = !result'.err.isSome := by
  induction executed with
  | @exhausted made result =>
    unfold loop at returned
    dsimp only at returned
    rw [noResponse, noErr] at returned
    cases returned
    rfl
  | ends passed =>
    cases returned
    cases passed with
    | expired late => simp [noResponse]
    | answered timely outcome => simp [noErr]
    | failed timely silent => simp [noResponse]
    | refused timely consumed ended =>
      cases ended with
      | response outcome => simp [noErr]
      | error silent => simp [noResponse]
    | interrupted timely consumed => simp [Result.retry, noResponse]
  | again passed later ih =>
    cases passed with
    | again timely more consumed => exact ih noResponse noErr returned

structure Bounded (cfg : Config) (start : Int) (timeout : Duration) (now later : Int) : Prop where
  positive : 0 < timeout
  outer : ∀ deadline, cfg.deadline = some deadline → timeout ≤ timeSub deadline now
  total : 0 < cfg.policy.totalRetryBudget → timeout ≤ cfg.policy.totalRetryBudget - timeSub later start
  perTry : 0 < cfg.policy.perTryTimeout → timeout ≤ cfg.policy.perTryTimeout

theorem computedBounded {perTry outer budget : Int} (positive : 0 < computePerTryTimeout perTry outer budget) :
    computePerTryTimeout perTry outer budget ≤ outer ∧ computePerTryTimeout perTry outer budget ≤ budget ∧
    (0 < perTry → computePerTryTimeout perTry outer budget ≤ perTry) := by
  unfold computePerTryTimeout at positive ⊢
  split at positive
  · cases positive
  · rename_i running
    rw [if_neg running]
    split
    · rename_i unset
      exact ⟨Int.min_le_left ..,Int.min_le_right ..,fun set => absurd set (Int.not_lt.mpr unset)⟩
    · have first : min (min perTry outer) budget ≤ min perTry outer := Int.min_le_left ..
      exact ⟨Int.le_trans first (Int.min_le_right ..),Int.min_le_right ..,fun _ => Int.le_trans first (Int.min_le_left ..)⟩

theorem timelyBounded {t : Turn} (timely : 0 < perTry cfg start t) : Bounded cfg start (perTry cfg start t) t.now t.later := by
  obtain ⟨outer,budget,each⟩ := computedBounded timely
  refine ⟨timely,fun deadline has => ?_,fun total => ?_,each⟩
  · have left : remainingOuter cfg t = timeSub deadline t.now := by
      unfold remainingOuter
      rw [has]
    exact left ▸ outer
  · have left : remainingBudget cfg start t = wrap64 (cfg.policy.totalRetryBudget - timeSub t.later start) := if_pos total
    have elapsed : timeSub t.later start ≤ 2^63 - 1 := by
      unfold timeSub maxDuration
      omega
    have whole : (0 : Int) < cfg.policy.totalRetryBudget := total
    exact Int.le_trans (left ▸ budget) (wrap64Le (by omega))

theorem executedOpens (executed : Executed cfg start turns left made result o) {e : Event} (inside : e ∈ o.log)
    (of : e.ofAttempt = true) : ∃ number t, 0 < perTry cfg start t ∧ e ∈ opened cfg start number t := by
  induction executed with
  | exhausted => cases inside
  | ends passed => exact ⟨_,_,passOpens passed inside of⟩
  | again passed later ih =>
    rcases List.mem_append.mp inside with first | rest
    · exact ⟨_,_,passOpens passed first of⟩
    · exact ih rest

theorem executedBounded (executed : Executed cfg start turns left made result o) {number : Nat} {timeout : Duration}
    {now later : Int} (inside : .attempted number timeout now later ∈ o.log) : Bounded cfg start timeout now later := by
  obtain ⟨_,t,timely,opens⟩ := executedOpens executed inside rfl
  rcases openedMember.mp opens with same | ⟨_,other⟩ | other
  · cases same
    exact timelyBounded timely
  · cases other
  · cases other

def Disposed (result : Option Result) (log : List Event) (number : Nat) : Prop :=
  (∃ result' r, result = some result' ∧ result'.response = some (number,r)) ∨
  (.drained number ∈ log ∧ .closed number ∈ log)

theorem drainingMembers {number : Nat} {t : Turn} (answers : t.answers = true) :
    .drained number ∈ draining number t ∧ .closed number ∈ draining number t := by
  unfold draining
  rw [answers]
  exact ⟨List.mem_cons_self,List.mem_cons_of_mem _ List.mem_cons_self⟩

theorem retryLogDrains {number : Nat} {t : Turn} {paid : List Event} {reason : String} (answers : t.answers = true) :
    .drained number ∈ retryLog cfg start number t paid reason ∧ .closed number ∈ retryLog cfg start number t paid reason :=
  ⟨List.mem_append_right _ (drainingMembers answers).1,List.mem_append_right _ (drainingMembers answers).2⟩

theorem endsDisposed {last : Bool} {number : Nat} {t : Turn} {exit : Exit} {result' : Option Result} {log : List Event}
    (passed : Passed cfg start last number t result (.ends exit result' log)) (answers : t.answers = true) (tried : log ≠ []) :
    Disposed result' log number := by
  cases passed with
  | expired late => exact absurd rfl tried
  | answered timely outcome => exact .inl ⟨_,_,rfl,rfl⟩
  | failed timely silent =>
    rw [silent] at answers
    cases answers
  | refused timely consumed ended =>
    cases ended with
    | response outcome => exact .inl ⟨_,_,rfl,rfl⟩
    | error silent =>
      rw [silent] at answers
      cases answers
  | interrupted timely consumed => exact .inr (retryLogDrains answers)
  | panicked timely consumed => exact .inr (retryLogDrains answers)

theorem executedDisposed (executed : Executed cfg start turns left made result o) {number : Nat}
    (inside : .answered number ∈ o.log) : Disposed o.result o.log number := by
  have here {last : Bool} {number' : Nat} {t : Turn} {result : Result} {pass : Pass} (passed : Passed cfg start last number' t result pass)
      (inside : .answered number ∈ pass.log) : number = number' ∧ t.answers = true := by
    obtain ⟨_,opens⟩ := passOpens passed inside rfl
    rcases openedMember.mp opens with other | ⟨answers,same⟩ | other
    · cases other
    · cases same
      exact ⟨rfl,answers⟩
    · cases other
  induction executed with
  | exhausted => cases inside
  | ends passed =>
    obtain ⟨rfl,answers⟩ := here passed inside
    exact endsDisposed passed answers (List.ne_nil_of_mem inside)
  | again passed later ih =>
    rcases List.mem_append.mp inside with first | rest
    · obtain ⟨rfl,answers⟩ := here passed first
      cases passed with
      | again timely more consumed =>
        exact .inr ⟨List.mem_append_left _ (retryLogDrains answers).1,List.mem_append_left _ (retryLogDrains answers).2⟩
    · rcases ih rest with returned | ⟨drained,closed⟩
      · exact .inl returned
      · exact .inr ⟨List.mem_append_right _ drained,List.mem_append_right _ closed⟩

structure Given (log : List Event) (number : Nat) : Prop where
  answered : .answered number ∈ log
  cancelled : .cancelled number ∈ log

theorem Given.append {log : List Event} {number : Nat} (given : Given log number) (more : List Event) :
    Given (log ++ more) number := ⟨List.mem_append_left _ given.answered,List.mem_append_left _ given.cancelled⟩

theorem openedGiven {number : Nat} {t : Turn} {r : Response} (outcome : t.outcome = .response r) :
    Given (opened cfg start number t) number := by
  have answers : t.answers = true := by
    unfold Turn.answers
    rw [outcome]
  exact ⟨openedMember.mpr (.inr (.inl ⟨answers,rfl⟩)),openedMember.mpr (.inr (.inr rfl))⟩

theorem executedGiven (executed : Executed cfg start turns left made result o) (noResponse : result.response = none)
    {result' : Result} (returned : o.result = some result') {number : Nat} {r : Response}
    (given : result'.response = some (number,r)) : Given o.log number := by
  induction executed with
  | exhausted =>
    unfold loop at returned
    dsimp only at returned
    split at returned <;> cases returned <;> cases noResponse.symm.trans given
  | @ends left made result result' exit log passed =>
    cases returned
    cases passed with
    | expired late => cases noResponse.symm.trans given
    | answered timely outcome =>
      cases given
      exact openedGiven outcome
    | failed timely silent => cases noResponse.symm.trans given
    | refused timely consumed ended =>
      cases ended with
      | response outcome =>
        cases given
        exact (openedGiven outcome).append _
      | error silent => cases noResponse.symm.trans given
    | interrupted timely consumed => cases noResponse.symm.trans given
  | again passed later ih =>
    cases passed with
    | again timely more consumed =>
      have rest := ih noResponse returned
      exact ⟨List.mem_append_right _ rest.answered,List.mem_append_right _ rest.cancelled⟩

end

theorem responseContextCancelled (cfg : Config) (start : Int) (turns : Nat → Turn) {result : Result} {number : Nat} {r : Response}
    (returned : (execute cfg start turns).result = some result) (given : result.response = some (number,r)) :
    .answered number ∈ (execute cfg start turns).log ∧ .cancelled number ∈ (execute cfg start turns).log := by
  have behind := executedGiven (executeExecuted cfg start turns) rfl returned given
  exact ⟨behind.answered,behind.cancelled⟩

def replying (status : Int) : RoundTrip := .response ⟨status,.empty,[]⟩

def met (outcome : Nat → RoundTrip) (number : Nat) : Turn := { now := 0, later := 0, outcome := outcome number }

def retrying : Config := { policy := ⟨true,2,0,0,[503],[],0,0⟩, allowRetry := true }

def secondOk (number : Nat) : RoundTrip := replying (if number = 0 then 503 else 200)

theorem secondResponseCancelled : ∃ result r, (execute retrying 0 (met secondOk)).result = some result ∧
    result.response = some (1,r) ∧ r.status = 200 ∧ .answered 1 ∈ (execute retrying 0 (met secondOk)).log ∧
    .cancelled 1 ∈ (execute retrying 0 (met secondOk)).log :=
  ⟨_,_,rfl,rfl,rfl,responseContextCancelled retrying 0 (met secondOk) rfl rfl⟩

def oneAttempt : Config := { policy := ⟨false,1,0,0,[],[],0,0⟩, allowRetry := false }

theorem answeredCallCancelled : ∃ result r, (execute oneAttempt 0 (met fun _ => replying 200)).result = some result ∧
    result.response = some (0,r) ∧ .cancelled 0 ∈ (execute oneAttempt 0 (met fun _ => replying 200)).log :=
  ⟨_,_,rfl,rfl,by decide⟩

theorem maxAttemptsBound (cfg : Config) : cfg.maxAttempts ≤ max 1 cfg.policy.maxAttempts := by
  unfold Config.maxAttempts
  split
  · omega
  · split <;> omega

theorem maxAttemptsOne {cfg : Config} (single : cfg.policy.enabled = false ∨ cfg.allowRetry = false) :
    cfg.maxAttempts = 1 := by
  unfold Config.maxAttempts
  rcases single with disabled | forbidden
  · rw [disabled]
    rfl
  · rw [forbidden, Bool.not_false, Bool.or_true]
    rfl

theorem callSingle {c : Call} (single : c.policy.retry.enabled = false ∨ isIdempotentMethod c.request.request.method = false ∨
      (c.request.body.isSome = true ∧ c.request.contentLength ≠ 0)) : c.config.maxAttempts = 1 := by
  refine maxAttemptsOne (.inr ?_)
  unfold Call.config
  dsimp only
  rcases single with disabled | unsafe_ | ⟨body,length⟩
  · rw [disabled]
    rfl
  · rw [unsafe_, Bool.and_false]
    rfl
  · have unreplayable : isReplayableBody c.request = false := by
      unfold isReplayableBody
      simp [Option.isNone_eq_false_iff.mpr body, length]
    rw [unreplayable, Bool.and_false]

structure Sound (c : Call) (o : Outcome) : Prop where
  attempts : (attempts o.log : Int) ≤ max 1 c.policy.retry.maxAttempts
  single : (c.policy.retry.enabled = false ∨ isIdempotentMethod c.request.request.method = false ∨
    (c.request.body.isSome = true ∧ c.request.contentLength ≠ 0)) → RetryExecute.attempts o.log ≤ 1
  bounded : ∀ number timeout now later, .attempted number timeout now later ∈ o.log →
    Bounded c.config c.start timeout now later
  settled : ∀ result, o.result = some result → result.response.isSome = !result.err.isSome
  disposed : ∀ number, .answered number ∈ o.log → Disposed o.result o.log number
  counted : ∀ result, o.result = some result →
    RetryExecute.attempts o.log = result.retryCount ∨ RetryExecute.attempts o.log = result.retryCount + 1

theorem unstartedSound (c : Call) (err : Failure) : Sound c ⟨.unstarted,some { err := some err },[]⟩ where
  attempts := by
    change (0 : Int) ≤ max 1 c.policy.retry.maxAttempts
    omega
  single _ := Nat.zero_le 1
  bounded number timeout now later inside := absurd inside List.not_mem_nil
  settled result returned := by
    cases returned
    rfl
  disposed number inside := absurd inside List.not_mem_nil
  counted result returned := by
    cases returned
    exact .inl rfl

theorem retriesSound (c : Call) (turns : Nat → Turn) : Sound c (roundTripWithRetry c turns) := by
  unfold roundTripWithRetry
  split
  · exact unstartedSound c _
  · split
    · exact unstartedSound c _
    · have executed := executeExecuted c.config c.start turns
      have made := executedAttempts executed
      refine {
        attempts := ?_
        single := fun single => ?_
        bounded := fun number timeout now later inside => executedBounded executed inside
        settled := fun result returned => executedSettled executed rfl rfl returned
        disposed := fun number inside => executedDisposed executed inside
        counted := fun result returned => executedTallied executed returned }
      · have bound := maxAttemptsBound c.config
        change c.config.maxAttempts ≤ max 1 c.policy.retry.maxAttempts at bound
        omega
      · rw [callSingle single] at made
        exact made

end ReverseProxy.RetryOutcomes
