import ReverseProxy.RequestIntake
import ReverseProxy.RetryBudget

/-! Package retry, Execute, and the engine's roundTripWithRetry around it. A pass of the
loop is told by its turn what the code cannot know: clock readings, what the attempt came
to, the budgets as they are found, the jitter drawn and whether the wait was cut short.
The log keeps what the call did to contexts, responses and budgets, in order. -/
namespace ReverseProxy.RetryExecute
open GoValues RequestFlow RetryBudget
open PolicyBuild (Policy RetryPolicy)
open RequestIntake (Inbound isIdempotentMethod isReplayableBody)

structure Config where
  policy : RetryPolicy
  deadline : Option Int := none
  allowRetry : Bool
  budgetEnabled : Bool := false
  budgetError : Bool := false
  hasRoute : Bool := false
  hasClient : Bool := false

/- `now` is the reading of time.Until, `later` the one of time.Since. -/
structure Turn where
  now : Int
  later : Int
  outcome : RoundTrip
  addr : String := ""
  outerErr : Option ContextError := none
  route : Budget := .new 0 0
  client : Budget := .new 0 0
  jitter : Duration := 0
  interrupted : Option ContextError := none

inductive Purse where
  | route
  | client
  deriving DecidableEq, Repr

/- Attempts are numbered from 0. `attempted` is the call with its context's timeout and
the two clock readings behind it; `answered` says that it gave a response. -/
inductive Event where
  | attempted (number : Nat) (timeout : Duration) (now later : Int)
  | answered (number : Nat)
  | cancelled (number : Nat)
  | consumed (purse : Purse) (before after : Budget)
  | retried (reason : String)
  | drained (number : Nat)
  | closed (number : Nat)
  deriving DecidableEq, Repr

structure Result where
  response : Option (Nat × Response) := none
  err : Option Failure := none
  retryCount : Nat := 0
  retryReason : String := ""
  retryBudgetExhausted : Bool := false
  upstreamAddr : String := ""

inductive Refusal where
  | error
  | purse (p : Purse)
  deriving DecidableEq, Repr

/- Where the call ends. `unstarted` is the engine without a picker or a transport. -/
inductive Exit where
  | unstarted
  | expired
  | answered
  | failed
  | refused (by_ : Refusal)
  | interrupted
  | panicked
  | exhausted
  deriving DecidableEq, Repr

structure Outcome where
  exit : Exit
  result : Option Result
  log : List Event := []

def maxDuration : Int := 2^63 - 1

/- Time.Sub saturates. -/
def timeSub (t u : Int) : Int := max (-(2^63)) (min maxDuration (t - u))

theorem elapsed {start now : Int} (later : start ≤ now) : 0 ≤ timeSub now start ∧ timeSub now start ≤ now - start ∧
    (now - start < 2^63 → timeSub now start = now - start) ∧ (2^63 ≤ now - start → timeSub now start = 2^63 - 1) := by
  unfold timeSub maxDuration
  omega

def Config.maxAttempts (cfg : Config) : Int :=
  if !cfg.policy.enabled || !cfg.allowRetry then 1
  else if cfg.policy.maxAttempts ≤ 0 then 1 else cfg.policy.maxAttempts

def remainingOuter (cfg : Config) (t : Turn) : Duration :=
  match cfg.deadline with
  | none => maxDuration
  | some deadline => timeSub deadline t.now

def remainingBudget (cfg : Config) (start : Int) (t : Turn) : Duration :=
  if 0 < cfg.policy.totalRetryBudget then wrap64 (cfg.policy.totalRetryBudget - timeSub t.later start)
  else remainingOuter cfg t

def perTry (cfg : Config) (start : Int) (t : Turn) : Duration :=
  computePerTryTimeout cfg.policy.perTryTimeout (remainingOuter cfg t) (remainingBudget cfg start t)

def classifyStatus (policy : RetryPolicy) (status : Int) : Option String :=
  if policy.retryOnStatus.contains status then some ("status_" ++ toString status) else none

def pay (purse : Purse) (present : Bool) (b : Budget) : Bool × List Event :=
  if !present then (true,[]) else (b.consume.1,[.consumed purse b b.consume.2])

def consumeBudgets (cfg : Config) (t : Turn) : Option Refusal × List Event :=
  if !cfg.budgetEnabled then (none,[])
  else if cfg.budgetError then (some .error,[])
  else
    let route := pay .route cfg.hasRoute t.route
    if !route.1 then (some (.purse .route),route.2)
    else
      let client := pay .client cfg.hasClient t.client
      if !client.1 then (some (.purse .client),route.2 ++ client.2) else (none,route.2 ++ client.2)

inductive Wait where
  | through
  | interrupted (e : ContextError)
  | panicked

/- rand.Int63n panics on an argument that is not positive. -/
def sleepWithBackoff (policy : RetryPolicy) (t : Turn) : Wait :=
  if 0 < policy.backoffJitter ∧ wrap64 (policy.backoffJitter + 1) ≤ 0 then .panicked
  else
    let delay := if 0 < policy.backoffJitter then wrap64 (policy.backoff + t.jitter) else policy.backoff
    if delay ≤ 0 then .through
    else match t.interrupted with
      | none => .through
      | some e => .interrupted e

inductive Pass where
  | again (result : Result) (log : List Event)
  | ends (exit : Exit) (result : Option Result) (log : List Event)

def tryAgain (cfg : Config) (t : Turn) (reason : String) (result : Result) (refused : Result → Result)
    (drain log : List Event) : Pass :=
  let result := { result with retryReason := reason }
  match consumeBudgets cfg t with
  | (some by_,paid) => .ends (.refused by_) (some (refused { result with retryBudgetExhausted := true })) (log ++ paid)
  | (none,paid) =>
    let result := { result with retryCount := result.retryCount + 1 }
    let log := log ++ paid ++ [.retried reason] ++ drain
    match sleepWithBackoff cfg.policy t with
    | .through => .again result log
    | .interrupted e => .ends .interrupted (some { result with err := some (.context e) }) log
    | .panicked => .ends .panicked none log

def drainResponse (number : Nat) : List Event := [.drained number,.closed number]

def afterResponse (cfg : Config) (last : Bool) (number : Nat) (t : Turn) (result : Result) (r : Response)
    (log : List Event) : Pass :=
  match classifyStatus cfg.policy r.status with
  | none => .ends .answered (some { result with response := some (number,r) }) log
  | some reason =>
    if !last && cfg.allowRetry then
      tryAgain cfg t reason result (fun result => { result with response := some (number,r) }) (drainResponse number) log
    else .ends .answered (some { result with response := some (number,r) }) log

def afterError (cfg : Config) (last : Bool) (t : Turn) (result : Result) (err : Failure) (reason : Option String)
    (log : List Event) : Pass :=
  match t.outerErr with
  | some e => .ends .failed (some { result with err := some (.context e) }) log
  | none =>
    match reason with
    | none => .ends .failed (some { result with err := some err }) log
    | some reason =>
      if last || !cfg.allowRetry then .ends .failed (some { result with err := some err }) log
      else if !cfg.policy.retryOnErrors.contains reason then .ends .failed (some { result with err := some err }) log
      else tryAgain cfg t reason result (fun result => { result with err := some err }) [] log

def Turn.answers (t : Turn) : Bool :=
  match t.outcome with
  | .response _ => true
  | _ => false

/- An attempt: its context is cancelled as soon as it is back. -/
def opened (cfg : Config) (start : Int) (number : Nat) (t : Turn) : List Event :=
  .attempted number (perTry cfg start t) t.now t.later ::
    ((if t.answers then [.answered number] else []) ++ [.cancelled number])

def turn (cfg : Config) (start : Int) (last : Bool) (number : Nat) (t : Turn) (result : Result) : Pass :=
  if perTry cfg start t ≤ 0 then .ends .expired (some { result with err := some (.context .deadlineExceeded) }) []
  else
    let log := opened cfg start number t
    let result := { result with upstreamAddr := t.addr }
    match t.outcome with
    | .response r => afterResponse cfg last number t result r log
    | .noUpstream => afterError cfg last t result .noUpstream none log
    | .failed e => afterError cfg last t result (.upstream e) (classifyError e) log

def loop (cfg : Config) (start : Int) (turns : Nat → Turn) : Nat → Nat → Result → Outcome
  | 0, _, result =>
    { exit := .exhausted
      result := if result.err.isNone ∧ result.response.isNone then some { result with err := some (.context .deadlineExceeded) }
        else some result }
  | left + 1, made, result =>
    match turn cfg start (left == 0) made (turns made) result with
    | .ends exit result log => ⟨exit,result,log⟩
    | .again result log =>
      let o := loop cfg start turns left (made + 1) result
      { o with log := log ++ o.log }

def execute (cfg : Config) (start : Int) (turns : Nat → Turn) : Outcome :=
  loop cfg start turns cfg.maxAttempts.toNat 0 {}

/- What roundTripWithRetry is called with; `budgets` says which budgets the registry gave,
none where it failed or there is no registry. -/
structure Call where
  request : Inbound
  policy : Policy
  hasPicker : Bool := true
  hasTransport : Bool := true
  deadline : Option Int := none
  budgets : Option (Bool × Bool) := none
  start : Int

def Call.config (c : Call) : Config :=
  let enabled := c.policy.retryBudget.enabled || c.policy.clientRetryCap.enabled
  { policy := c.policy.retry
    deadline := c.deadline
    allowRetry := c.policy.retry.enabled && decide (1 < c.policy.retry.maxAttempts) &&
      isIdempotentMethod c.request.request.method && isReplayableBody c.request
    budgetEnabled := enabled
    budgetError := enabled && c.budgets.isNone
    hasRoute := enabled && c.budgets.any (·.1)
    hasClient := enabled && c.budgets.any (·.2) }

def roundTripWithRetry (c : Call) (turns : Nat → Turn) : Outcome :=
  if !c.hasPicker then ⟨.unstarted,some { err := some .noUpstream },[]⟩
  else if !c.hasTransport then ⟨.unstarted,some { err := some .noTransport },[]⟩
  else execute c.config c.start turns

def Event.isAttempt : Event → Bool
  | .attempted .. => true
  | _ => false

def attempts (log : List Event) : Nat := log.countP Event.isAttempt

def Pass.log : Pass → List Event
  | .again _ log => log
  | .ends _ _ log => log

def Event.ofAttempt : Event → Bool
  | .attempted .. => true
  | .answered _ => true
  | .cancelled _ => true
  | _ => false

def draining (number : Nat) (t : Turn) : List Event := if t.answers then drainResponse number else []

inductive Ended (number : Nat) (t : Turn) (result : Result) : Result → Prop where
  | response {reason r} (outcome : t.outcome = .response r) : Ended number t result { result with
      upstreamAddr := t.addr, retryReason := reason, retryBudgetExhausted := true, response := some (number,r) }
  | error {reason err} (silent : t.answers = false) : Ended number t result { result with
      upstreamAddr := t.addr, retryReason := reason, retryBudgetExhausted := true, err := some err }

section
variable (cfg : Config) (start : Int)

def Result.retry (result : Result) (t : Turn) (reason : String) : Result :=
  { result with upstreamAddr := t.addr, retryReason := reason, retryCount := result.retryCount + 1 }

def retryLog (number : Nat) (t : Turn) (paid : List Event) (reason : String) : List Event :=
  opened cfg start number t ++ paid ++ [.retried reason] ++ draining number t

inductive Passed (last : Bool) (number : Nat) (t : Turn) (result : Result) : Pass → Prop where
  | expired (late : perTry cfg start t ≤ 0) :
      Passed last number t result (.ends .expired (some { result with err := some (.context .deadlineExceeded) }) [])
  | answered {r} (timely : 0 < perTry cfg start t) (outcome : t.outcome = .response r) : Passed last number t result
      (.ends .answered (some { result with upstreamAddr := t.addr, response := some (number,r) }) (opened cfg start number t))
  | failed {err} (timely : 0 < perTry cfg start t) (silent : t.answers = false) : Passed last number t result
      (.ends .failed (some { result with upstreamAddr := t.addr, err := some err }) (opened cfg start number t))
  | refused {by_ paid result'} (timely : 0 < perTry cfg start t) (consumed : consumeBudgets cfg t = (some by_,paid))
      (ended : Ended number t result result') :
      Passed last number t result (.ends (.refused by_) (some result') (opened cfg start number t ++ paid))
  | again {reason paid} (timely : 0 < perTry cfg start t) (more : last = false) (consumed : consumeBudgets cfg t = (none,paid)) :
      Passed last number t result (.again (result.retry t reason) (retryLog cfg start number t paid reason))
  | interrupted {reason paid e} (timely : 0 < perTry cfg start t) (consumed : consumeBudgets cfg t = (none,paid)) :
      Passed last number t result (.ends .interrupted (some { result.retry t reason with err := some (.context e) })
        (retryLog cfg start number t paid reason))
  | panicked {reason paid} (timely : 0 < perTry cfg start t) (consumed : consumeBudgets cfg t = (none,paid)) :
      Passed last number t result (.ends .panicked none (retryLog cfg start number t paid reason))

variable {cfg start} {number : Nat} {t : Turn} {result : Result}

theorem tryAgainPassed {reason : String} {refused : Result → Result} {drain : List Event}
    (timely : 0 < perTry cfg start t) (drains : drain = draining number t) (ended : Ended number t result
      (refused { result with upstreamAddr := t.addr, retryReason := reason, retryBudgetExhausted := true })) :
    Passed cfg start false number t result
      (tryAgain cfg t reason { result with upstreamAddr := t.addr } refused drain (opened cfg start number t)) := by
  subst drains
  unfold tryAgain
  dsimp only
  split
  · rename_i consumed
    exact .refused timely consumed ended
  · rename_i consumed
    split
    · exact .again timely rfl consumed
    · exact .interrupted timely consumed
    · exact .panicked timely consumed

theorem afterResponsePassed {last : Bool} {r : Response} (timely : 0 < perTry cfg start t)
    (outcome : t.outcome = .response r) : Passed cfg start last number t result
      (afterResponse cfg last number t { result with upstreamAddr := t.addr } r (opened cfg start number t)) := by
  have drains : drainResponse number = draining number t := by
    unfold draining Turn.answers
    rw [outcome]
    rfl
  unfold afterResponse
  split
  · exact .answered timely outcome
  · split
    · rename_i may
      have more : last = false := by
        cases last with
        | false => rfl
        | true => cases may
      subst more
      exact tryAgainPassed timely drains (.response outcome)
    · exact .answered timely outcome

theorem afterErrorPassed {last : Bool} (timely : 0 < perTry cfg start t) (silent : t.answers = false) (err : Failure)
    (reason : Option String) : Passed cfg start last number t result
      (afterError cfg last t { result with upstreamAddr := t.addr } err reason (opened cfg start number t)) := by
  have drains : [] = draining number t := by
    unfold draining
    rw [silent]
    rfl
  unfold afterError
  split
  · exact .failed timely silent
  · split
    · exact .failed timely silent
    · split
      · exact .failed timely silent
      · rename_i may
        have more : last = false := by
          cases last with
          | false => rfl
          | true => exact absurd rfl may
        subst more
        split
        · exact .failed timely silent
        · exact tryAgainPassed timely drains (.error silent)

theorem turnPassed (last : Bool) : Passed cfg start last number t result (turn cfg start last number t result) := by
  unfold turn
  split
  · rename_i late
    exact .expired late
  · rename_i timely
    have timely : 0 < perTry cfg start t := Int.not_le.mp timely
    cases outcome : t.outcome with
    | response r => exact afterResponsePassed timely outcome
    | noUpstream => exact afterErrorPassed timely (by unfold Turn.answers; rw [outcome]) .noUpstream none
    | failed e => exact afterErrorPassed timely (by unfold Turn.answers; rw [outcome]) (.upstream e) (classifyError e)

inductive Executed (cfg : Config) (start : Int) (turns : Nat → Turn) : Nat → Nat → Result → Outcome → Prop where
  | exhausted {made result} : Executed cfg start turns 0 made result (loop cfg start turns 0 made result)
  | ends {left made result result' exit log}
      (passed : Passed cfg start (left == 0) made (turns made) result (.ends exit result' log)) :
      Executed cfg start turns (left + 1) made result ⟨exit,result',log⟩
  | again {left made result result' log o}
      (passed : Passed cfg start (left == 0) made (turns made) result (.again result' log))
      (later : Executed cfg start turns left (made + 1) result' o) :
      Executed cfg start turns (left + 1) made result { o with log := log ++ o.log }

theorem loopExecuted (cfg : Config) (start : Int) (turns : Nat → Turn) (left made : Nat) (result : Result) :
    Executed cfg start turns left made result (loop cfg start turns left made result) := by
  induction left generalizing made result with
  | zero => exact .exhausted
  | succ left ih =>
    have passed : Passed cfg start (left == 0) made (turns made) result _ := turnPassed (left == 0)
    unfold loop
    split
    · rename_i taken
      rw [taken] at passed
      exact .ends passed
    · rename_i taken
      rw [taken] at passed
      exact .again passed (ih (made + 1) _)

theorem executeExecuted (cfg : Config) (start : Int) (turns : Nat → Turn) :
    Executed cfg start turns cfg.maxAttempts.toNat 0 {} (execute cfg start turns) := loopExecuted ..

end

/- A pass against the verdict of the request machine on the same attempt. That machine
does not say with which context error a wait is cut short. -/
inductive Agrees : Pass → Verdict → Prop where
  | again {result log} : Agrees (.again result log) .again
  | response {exit result log number r} (given : result.response = some (number,r)) :
      Agrees (.ends exit (some result) log) (.response r)
  | failed {exit result log err} (given : result.err = some err) : Agrees (.ends exit (some result) log) (.failed err)
  | interrupted {result log e e'} (given : result.err = some (.context e)) :
      Agrees (.ends .interrupted (some result) log) (.failed (.context e'))

def Turn.attempt (cfg : Config) (start : Int) (t : Turn) : Attempt where
  remainingOuter := remainingOuter cfg t
  remainingBudget := remainingBudget cfg start t
  outcome := t.outcome
  outerErr := t.outerErr
  budgetLeft := (consumeBudgets cfg t).1.isNone
  sleptThrough := match sleepWithBackoff cfg.policy t with
    | .through => true
    | _ => false
  now := t.now

structure Serves (cfg : Config) (x : Exchange) : Prop where
  policy : cfg.policy = x.retry
  allowRetry : cfg.allowRetry = x.allowRetry
  budgetEnabled : cfg.budgetEnabled = x.budgetEnabled
  budgetError : cfg.budgetError = x.budgetError

section
variable {cfg : Config} {x : Exchange} {start : Int} {t : Turn}

theorem Serves.maxAttempts (serves : Serves cfg x) : cfg.maxAttempts = RequestFlow.maxAttempts x := by
  unfold Config.maxAttempts RequestFlow.maxAttempts
  rw [serves.policy, serves.allowRetry]

theorem Serves.consumeBudgets (serves : Serves cfg x) :
    RequestFlow.consumeBudgets x (t.attempt cfg start) = (consumeBudgets cfg t).1.isNone := by
  unfold RequestFlow.consumeBudgets Turn.attempt
  dsimp only
  rw [← serves.budgetEnabled, ← serves.budgetError]
  cases enabled : cfg.budgetEnabled with
  | false =>
    unfold RetryExecute.consumeBudgets
    rw [enabled]
    rfl
  | true =>
    cases failed : cfg.budgetError with
    | false => rfl
    | true =>
      unfold RetryExecute.consumeBudgets
      rw [enabled, failed]
      rfl

theorem tryAgainAgrees (serves : Serves cfg x) (calm : sleepWithBackoff cfg.policy t ≠ .panicked) {reason : String}
    {result : Result} {refused : Result → Result} {drain log : List Event} {verdict : Verdict}
    (ends : ∀ result exit log, Agrees (.ends exit (some (refused result)) log) verdict) :
    Agrees (tryAgain cfg t reason result refused drain log)
      (if RequestFlow.consumeBudgets x (t.attempt cfg start) then backoff (t.attempt cfg start) else verdict) := by
  rw [serves.consumeBudgets]
  unfold tryAgain backoff Turn.attempt
  dsimp only
  split
  · rename_i consumed
    rw [consumed]
    exact ends ..
  · rename_i consumed
    rw [consumed]
    cases waited : sleepWithBackoff cfg.policy t with
    | through => exact .again
    | interrupted e => exact .interrupted rfl
    | panicked => exact absurd waited calm

variable (serves : Serves cfg x) (calm : sleepWithBackoff cfg.policy t ≠ .panicked) (attempts : Int)

include serves calm

theorem afterResponseAgrees (number : Nat) (result : Result) (r : Response) (log : List Event) :
    Agrees (afterResponse cfg (decide (RequestFlow.maxAttempts x ≤ attempts)) number t result r log)
      (RequestFlow.afterResponse x attempts (t.attempt cfg start) r) := by
  unfold afterResponse RequestFlow.afterResponse classifyStatus
  rw [serves.policy, serves.allowRetry]
  cases listed : x.retry.retryOnStatus.contains r.status with
  | false =>
    rw [if_neg Bool.false_ne_true, if_neg (fun both => Bool.false_ne_true both.1)]
    exact .response rfl
  | true =>
    rw [if_pos rfl]
    by_cases more : attempts < RequestFlow.maxAttempts x
    · have open_ : decide (RequestFlow.maxAttempts x ≤ attempts) = false := decide_eq_false (Int.not_le.mpr more)
      rw [open_]
      cases allowed : x.allowRetry with
      | false =>
        rw [if_neg (fun both => Bool.false_ne_true both.2.2)]
        exact .response rfl
      | true =>
        rw [if_pos ⟨rfl,more,rfl⟩]
        change Agrees (tryAgain cfg t _ result (fun result => { result with response := some (number,r) }) _ log) _
        exact tryAgainAgrees serves calm (fun result exit log => .response rfl)
    · have shut : decide (RequestFlow.maxAttempts x ≤ attempts) = true := decide_eq_true (Int.not_lt.mp more)
      rw [shut, if_neg (fun both => more both.2.1)]
      exact .response rfl

theorem afterErrorAgrees (result : Result) (err : Failure) (reason : Option String) (log : List Event) :
    Agrees (afterError cfg (decide (RequestFlow.maxAttempts x ≤ attempts)) t result err reason log)
      (RequestFlow.afterError x attempts (t.attempt cfg start) err reason) := by
  have same : (t.attempt cfg start).outerErr = t.outerErr := rfl
  unfold afterError RequestFlow.afterError
  rw [same, serves.policy, serves.allowRetry]
  cases t.outerErr with
  | some e => exact .failed rfl
  | none =>
    cases reason with
    | none => exact .failed rfl
    | some reason =>
      dsimp only
      by_cases stop : RequestFlow.maxAttempts x ≤ attempts ∨ (!x.allowRetry) = true
      · rw [if_pos stop, if_pos (by simpa using stop)]
        exact .failed rfl
      · rw [if_neg stop, if_neg (by simpa using stop)]
        split
        · exact .failed rfl
        · exact tryAgainAgrees serves calm (fun result exit log => .failed rfl)

theorem turnAgrees (timely : 0 < perTry cfg start t) (number : Nat) (result : Result) :
    Agrees (turn cfg start (decide (RequestFlow.maxAttempts x ≤ attempts)) number t result)
      (verdict x attempts (t.attempt cfg start)) := by
  have same : (t.attempt cfg start).outcome = t.outcome := rfl
  unfold turn verdict
  rw [if_neg (Int.not_le.mpr timely), same]
  cases t.outcome with
  | response r => exact afterResponseAgrees serves calm ..
  | noUpstream => exact afterErrorAgrees serves calm ..
  | failed e => exact afterErrorAgrees serves calm ..

end

end ReverseProxy.RetryExecute
