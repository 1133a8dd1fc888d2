import ReverseProxy.RequestFlow
import ReverseProxy.RetryBudget
import ReverseProxy.SnapshotBuild

/-! Engine.roundTripWithRetry over the shared retry budgets: any number of calls look
their budgets up, run the loop of retry.Execute, take a token from the route's and
from the client's budget before each retry, and record a successful response in both.
The loop's decisions are those of RequestFlow; what it is told there about the budgets
is settled here. -/
namespace ReverseProxy.BudgetedRetries
open GoValues FiniteMap RetryBudget
open ConfigData (RoutePolicy)
open PolicyBuild (Policy)
open RequestFlow (Exchange Attempt Response Verdict verdict computePerTryTimeout)

inductive Phase where
  | entering
  | bucketing (cap : Nat)
  | trying (attempts : Int)
  | paying (attempts : Int) (a : Attempt)
  | payingClient (attempts : Int) (a : Attempt)
  | recording (response : Response)
  | recordingClient
  | returned

/- `recorded`: RecordSuccess was called on the route's budget. -/
structure Call where
  routeID : String
  policy : Policy
  exchange : Exchange
  route : Option Nat := none
  client : Option Nat := none
  phase : Phase := .entering
  retryCount : Nat := 0
  recorded : Bool := false

structure State where
  registry : RetryRegistry := {}
  calls : List Call := []

inductive Event where
  | noTransport
  | budgets (now : Int)
  | bucket (key : String)
  | attempt (a : Attempt)
  | next

inductive Action where
  | arrive (routeID : String) (cfg : RoutePolicy) (x : Exchange)
  | act (i : Nat) (e : Event)
  | reap (now : Int)

/- The route's policy as BuildSnapshot makes it. -/
def compiled (cfg : RoutePolicy) (x : Exchange) : Policy :=
  SnapshotBuild.policyFromConfig cfg x.cache ⟨!x.filters.isEmpty,x.filters⟩

/- `allowRetry` of an arriving exchange: its method is idempotent and its body can be
sent again. -/
def newCall (routeID : String) (cfg : RoutePolicy) (x : Exchange) : Call where
  routeID := routeID
  policy := compiled cfg x
  exchange := { x with
    retry := (compiled cfg x).retry
    allowRetry := (compiled cfg x).retry.enabled && decide (1 < (compiled cfg x).retry.maxAttempts) && x.allowRetry
    budgetEnabled := (compiled cfg x).retryBudget.enabled || (compiled cfg x).clientRetryCap.enabled
    budgetError := false }

/- The loop reaches consumeBudgets: it would go on, given a token and its sleep. -/
def asks (x : Exchange) (attempts : Int) (a : Attempt) : Bool :=
  match verdict x attempts { a with budgetLeft := true, sleptThrough := true } with
  | .again => true
  | _ => false

def phaseAfter (attempts : Int) : Verdict → Phase
  | .again => .trying attempts
  | .response r => .recording r
  | .failed _ => .returned

def conclude (c : Call) (attempts : Int) (a : Attempt) : Call :=
  { c with phase := phaseAfter attempts (verdict c.exchange attempts a) }

def retry (c : Call) (attempts : Int) (a : Attempt) : Call :=
  conclude { c with retryCount := c.retryCount + 1 } attempts { a with budgetLeft := true }

def refuse (c : Call) (attempts : Int) (a : Attempt) : Call := conclude c attempts { a with budgetLeft := false }

def enter (r : RetryRegistry) (c : Call) (now : Int) : Call × RetryRegistry :=
  if !c.exchange.budgetEnabled then ({ c with phase := .trying 0 },r)
  else match r.budgets c.routeID c.policy.retryBudget c.policy.clientRetryCap now with
    | (none,r) => ({ c with exchange := { c.exchange with budgetError := true }, phase := .trying 0 },r)
    | (some entry,r) =>
      ({ c with
          route := entry.budget
          phase := match entry.clientCap with
            | some cap => .bucketing cap
            | none => .trying 0 },r)

def attempt (c : Call) (attempts : Int) (a : Attempt) : Call :=
  if computePerTryTimeout c.exchange.retry.perTryTimeout a.remainingOuter a.remainingBudget ≤ 0 then
    { c with phase := .returned }
  else if asks c.exchange (attempts + 1) a then { c with phase := .paying (attempts + 1) a }
  else conclude c (attempts + 1) a

def pay (r : RetryRegistry) (c : Call) (attempts : Int) (a : Attempt) : Call × RetryRegistry :=
  if !c.exchange.budgetEnabled then (retry c attempts a,r)
  else match c.route with
    | none => ({ c with phase := .payingClient attempts a },r)
    | some n =>
      if (r.consume n).1 then ({ c with phase := .payingClient attempts a },(r.consume n).2)
      else (refuse c attempts a,(r.consume n).2)

def payClient (r : RetryRegistry) (c : Call) (attempts : Int) (a : Attempt) : Call × RetryRegistry :=
  match c.client with
  | none => (retry c attempts a,r)
  | some n =>
    if (r.consume n).1 then (retry c attempts a,(r.consume n).2) else (refuse c attempts a,(r.consume n).2)

def record (r : RetryRegistry) (c : Call) (response : Response) : Call × RetryRegistry :=
  if 200 ≤ response.status ∧ response.status < 400 then
    match c.route with
    | none => ({ c with phase := .recordingClient },r)
    | some n => ({ c with recorded := true, phase := .recordingClient },r.update n Budget.recordSuccess)
  else ({ c with phase := .returned },r)

def recordClient (r : RetryRegistry) (c : Call) : Call × RetryRegistry :=
  ({ c with phase := .returned },
    match c.client with
    | none => r
    | some n => r.update n Budget.recordSuccess)

def move (r : RetryRegistry) (c : Call) (e : Event) : Option (Call × RetryRegistry) :=
  match c.phase,e with
  | .entering,.noTransport => some ({ c with phase := .returned },r)
  | .entering,.budgets now => some (enter r c now)
  | .bucketing cap,.bucket key =>
    match r.caps[cap]? with
    | none => none
    | some clientCap =>
      let found := clientCap.bucket r.accounts.length key
      some ({ c with client := some found.1, phase := .trying 0 },
        { r with caps := r.caps.set cap found.2.1, accounts := r.accounts ++ found.2.2 })
  | .trying attempts,.attempt a => some (attempt c attempts a,r)
  | .paying attempts a,.next => some (pay r c attempts a)
  | .payingClient attempts a,.next => some (payClient r c attempts a)
  | .recording response,.next => some (record r c response)
  | .recordingClient,.next => some (recordClient r c)
  | _,_ => none

def step (s : State) : Action → Option State
  | .arrive routeID cfg x => some { s with calls := s.calls ++ [newCall routeID cfg x] }
  | .act i e =>
    s.calls[i]?.bind (fun c => (move s.registry c e).map (fun m => { registry := m.2, calls := s.calls.set i m.1 }))
  | .reap now => some { s with registry := s.registry.reapOnce now }

theorem againConsumed {x : Exchange} {attempts : Int} {a : Attempt} (again : verdict x attempts a = .again) :
    RequestFlow.consumeBudgets x a = true := by
  have afterResponse (r : Response) (again : RequestFlow.afterResponse x attempts a r = .again) :
      RequestFlow.consumeBudgets x a = true := by
    unfold RequestFlow.afterResponse at again
    split at again
    · split at again
      · assumption
      · cases again
    · cases again
  have afterError (e : RequestFlow.Failure) (reason : Option String)
      (again : RequestFlow.afterError x attempts a e reason = .again) : RequestFlow.consumeBudgets x a = true := by
    unfold RequestFlow.afterError at again
    split at again
    · cases again
    · split at again
      · cases again
      · split at again
        · cases again
        · split at again
          · cases again
          · split at again
            · assumption
            · cases again
  unfold verdict at again
  split at again
  · exact afterResponse _ again
  · exact afterError _ _ again
  · exact afterError _ _ again

theorem asksNoError {x : Exchange} {attempts : Int} {a : Attempt} (asked : asks x attempts a = true)
    (on : x.budgetEnabled = true) : x.budgetError = false := by
  unfold asks at asked
  split at asked
  · rename_i again
    have consumed := againConsumed again
    cases error : x.budgetError with
    | false => rfl
    | true => simp [RequestFlow.consumeBudgets,on,error] at consumed
  · cases asked

end ReverseProxy.BudgetedRetries
