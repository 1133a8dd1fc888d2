import ReverseProxy.CacheKey
import ReverseProxy.CircuitBreaker

/-! Handler.ServeHTTP from its filter loop on, as a machine in which any number of
requests take turns. The breakers, the cache and the flights are shared; whatever
a request is told from outside (filter replies, clocks, upstream results, expired
contexts) is part of the event that moves it. What comes before the filters only
writes an error or picks the route, and is the `arrive` action. -/
namespace ReverseProxy.RequestFlow
open GoValues FiniteMap CacheKey
open PolicyBuild (Breaker CachePolicy FailureMode Filter RetryPolicy)

/- A matched request with what its route and pool say about it; `filters` is empty
where the route's plugins are not enabled. -/
structure Exchange where
  filters : List Filter := []
  breakerKey : String
  breaker : Breaker
  cache : CachePolicy
  retry : RetryPolicy
  allowRetry : Bool := false
  budgetEnabled : Bool := false
  budgetError : Bool := false
  request : Request

structure Response where
  status : Int
  header : Header
  body : Bytes

/- cache.Entry; `origin` is the number of the request that filled it, which the
code does not keep. -/
structure Entry where
  response : Response
  expiresAt : Int
  origin : Nat

/- What the handler ends with: a filter's own response, an error of the proxy,
nothing (the client is gone), or a response from one of the four sources. -/
inductive Served where
  | filterResponse (status : Int)
  | proxyError (status : Nat) (category message : String)
  | nothing
  | hit (entry : Entry)
  | follower (entry : Entry)
  | filled (entry : Entry)
  | upstream (response : Response)

namespace Served

def forwarded : Served → Bool
  | .hit _ | .follower _ | .filled _ | .upstream _ => true
  | _ => false

end Served

inductive FilterReply where
  | expired
  | breakerOpen
  | clientError
  | callError (timeout : Bool)
  | nilReply
  | proceed (mutations : List (Bytes × Bytes))
  | respond (status : Int)
  | unknownAction

inductive FilterTurn where
  | leave
  | next (header : Header)
  | stop (served : Served)

def unavailable (category : String) : Served := .proxyError 503 category "plugin unavailable"

def pluginFailure (f : Filter) (timeout : Bool) (h : Header) : FilterTurn :=
  match f.failureMode with
  | .failClosed => .stop (unavailable (if timeout then "plugin_timeout" else "plugin_unavailable"))
  | .failOpen => .next h

def isHopByHopHeader (name : Bytes) : Bool :=
  name ∈ [encodeText "Connection",encodeText "Keep-Alive",encodeText "Transfer-Encoding",encodeText "Upgrade"]

def applyHeaderMutations (h : Header) (mutations : List (Bytes × Bytes)) : Header :=
  mutations.foldl (fun h m =>
    let canon := canonicalKey (trimBytes m.1)
    if canon = [] then h
    else if isHopByHopHeader canon then h
    else h.insert (canonicalKey canon) [m.2]) h

/- An expired context ends the loop without an error, whatever filters are left. -/
def filterTurn (f : Filter) (h : Header) : FilterReply → FilterTurn
  | .expired => .leave
  | .breakerOpen =>
    match f.failureMode with
    | .failClosed => .stop (unavailable "plugin_unavailable")
    | .failOpen => .next h
  | .clientError => pluginFailure f false h
  | .callError timeout => pluginFailure f timeout h
  | .nilReply => pluginFailure f false h
  | .proceed mutations => .next (applyHeaderMutations h mutations)
  | .respond status => if status ≤ 0 then pluginFailure f false h else .stop (.filterResponse status)
  | .unknownAction => pluginFailure f false h

def splitComma : Bytes → List Bytes
  | [] => [[]]
  | c :: rest =>
    if c = 0x2C then [] :: splitComma rest
    else match splitComma rest with
      | [] => [[c]]
      | part :: parts => (c :: part) :: parts

def hasNoStoreHeader (text : TextTables) (h : Header) : Bool :=
  (h.values (encodeText "Cache-Control")).any (fun value =>
    (splitComma value).any (fun part => text.equalFold (trimBytes part) (encodeText "no-store")))

def isCacheEligible (text : TextTables) (policy : CachePolicy) (r : Request) : Bool :=
  policy.enabled && decide (0 < policy.ttl) &&
  (r.method == encodeText "GET" || r.method == encodeText "HEAD") && !hasNoStoreHeader text r.header

structure UpstreamError where
  canceled : Bool := false
  deadlineExceeded : Bool := false
  netTimeout : Bool := false
  dial : Bool := false
  reset : Bool := false
  eof : Bool := false
  deriving DecidableEq, Repr

inductive RoundTrip where
  | noUpstream
  | response (r : Response)
  | failed (e : UpstreamError)

inductive ContextError where
  | canceled
  | deadlineExceeded
  deriving DecidableEq, Repr

structure Attempt where
  remainingOuter : Duration
  remainingBudget : Duration
  outcome : RoundTrip
  outerErr : Option ContextError := none
  budgetLeft : Bool := true
  sleptThrough : Bool := true
  now : Int

def computePerTryTimeout (perTry remainingOuter remainingBudget : Duration) : Duration :=
  if remainingOuter ≤ 0 ∨ remainingBudget ≤ 0 then 0
  else if perTry ≤ 0 then min remainingOuter remainingBudget
  else min (min perTry remainingOuter) remainingBudget

def maxAttempts (x : Exchange) : Int :=
  if !x.retry.enabled || !x.allowRetry then 1 else if x.retry.maxAttempts ≤ 0 then 1 else x.retry.maxAttempts

def classifyError (e : UpstreamError) : Option String :=
  if e.dial then some "dial"
  else if e.netTimeout then some "timeout"
  else if e.deadlineExceeded then some "timeout"
  else if e.reset then some "reset"
  else if e.eof then some "eof"
  else none

def consumeBudgets (x : Exchange) (a : Attempt) : Bool :=
  if !x.budgetEnabled then true else if x.budgetError then false else a.budgetLeft

inductive Failure where
  | noTransport
  | noUpstream
  | context (e : ContextError)
  | upstream (e : UpstreamError)

inductive Verdict where
  | again
  | response (r : Response)
  | failed (e : Failure)

def backoff (a : Attempt) : Verdict :=
  if a.sleptThrough then .again else .failed (.context (a.outerErr.getD .canceled))

def afterResponse (x : Exchange) (attempts : Int) (a : Attempt) (r : Response) : Verdict :=
  if x.retry.retryOnStatus.contains r.status ∧ attempts < maxAttempts x ∧ x.allowRetry then
    if consumeBudgets x a then backoff a else .response r
  else .response r

def afterError (x : Exchange) (attempts : Int) (a : Attempt) (err : Failure) (reason : Option String) : Verdict :=
  match a.outerErr with
  | some e => .failed (.context e)
  | none =>
    match reason with
    | none => .failed err
    | some reason =>
      if maxAttempts x ≤ attempts ∨ !x.allowRetry then .failed err
      else if !x.retry.retryOnErrors.contains reason then .failed err
      else if consumeBudgets x a then backoff a
      else .failed err

def verdict (x : Exchange) (attempts : Int) (a : Attempt) : Verdict :=
  match a.outcome with
  | .response r => afterResponse x attempts a r
  | .noUpstream => afterError x attempts a .noUpstream none
  | .failed e => afterError x attempts a (.upstream e) (classifyError e)

/- The engine reports an attempt to the breaker unless its context ended it or
there was nothing to try. -/
def reported : RoundTrip → Option Bool
  | .noUpstream => none
  | .response r => some (decide (r.status < 500))
  | .failed e => if e.canceled || e.deadlineExceeded then none else some false

def badGateway (message : String) : Served := .proxyError 502 "bad_gateway" message

/- writeProxyErrorForResult and the line after it. -/
def proxyErrorFor (contextErr : Option ContextError) : Failure → Served
  | .noTransport => badGateway "upstream transport unavailable"
  | .noUpstream => badGateway "no upstream available"
  | err =>
    match contextErr with
    | some .deadlineExceeded => .proxyError 504 "request_timeout" "request timed out"
    | some .canceled => .nothing
    | none =>
      match err with
      | .context .deadlineExceeded => .proxyError 504 "upstream_timeout" "upstream timeout"
      | .upstream e =>
        if e.netTimeout || e.deadlineExceeded then .proxyError 504 "upstream_timeout" "upstream timeout"
        else if e.dial then .proxyError 502 "upstream_connect_failed" "upstream connect failed"
        else badGateway "upstream request failed"
      | _ => badGateway "upstream request failed"

inductive ResponseReply where
  | expired
  | breakerOpen
  | clientError
  | callError (timeout : Bool)
  | nilReply
  | done (mutations : List (Bytes × Bytes))

def responseTurn (f : Filter) (h : Header) : ResponseReply → FilterTurn
  | .expired => .leave
  | .breakerOpen =>
    match f.failureMode with
    | .failClosed => .stop (unavailable "plugin_unavailable")
    | .failOpen => .next h
  | .clientError => pluginFailure f false h
  | .callError timeout => pluginFailure f timeout h
  | .nilReply => pluginFailure f false h
  | .done mutations => .next (applyHeaderMutations h mutations)

def applyResponsePlugins (replies : Nat → ResponseReply) : Nat → List Filter → Header → Except Served Header
  | _,[],h => .ok h
  | i,f :: rest,h =>
    match responseTurn f h (replies i) with
    | .leave => .ok h
    | .stop served => .error served
    | .next h => applyResponsePlugins replies (i + 1) rest h

inductive BodyAnswer where
  | notCacheable
  | unreadable
  | body (bytes : Bytes)

inductive Role where
  | solo
  | leader (flight : Nat)
  deriving DecidableEq, Repr

structure CacheTurn where
  key : Bytes
  role : Role
  deriving DecidableEq, Repr

structure FlightResult where
  entry : Option Entry
  failed : Bool

inductive Stage where
  | filtering (left : List Filter)
  | admitting
  | looking
  | coalescing (key : Bytes)
  | waiting (key : Bytes) (flight : Nat)
  | trying (turn : Option CacheTurn) (attempts : Int)
  | responding (turn : Option CacheTurn) (response : Response)
  | closing (key : Bytes) (flight : Nat) (result : FlightResult) (served : Served)
  | finished (served : Served)

def Stage.done : Stage → Bool
  | .finished _ => true
  | _ => false

/- What has been written to the client: a leader answers before it closes its flight. -/
def Stage.wrote : Stage → Option Served
  | .closing _ _ _ served | .finished served => some served
  | _ => none

/- `probe` and `agreed` are not kept by the code: whether the request was let in
as a half-open probe that has not been reported, and the filters whose call was
made and answered CONTINUE. -/
structure Process where
  exchange : Exchange
  request : Request
  stage : Stage
  probe : Bool := false
  agreed : List Filter := []

structure Serving where
  breakers : Map String CircuitBreaker.Runtime := Map.empty
  entries : Map Bytes Entry := Map.empty
  flights : Map Bytes Nat := Map.empty
  results : Map Nat FlightResult := Map.empty
  nextFlight : Nat := 0
  activeFlights : Nat := 0
  maxFlights : Nat := 10000
  maxObjectBytes : Int := 50 * 1024 * 1024
  processes : List Process := []

structure World where
  runes : RuneTables
  text : TextTables
  sha256 : Bytes → Bytes

inductive Event where
  | filter (reply : FilterReply)
  | enter (now : Int)
  | look (now : Int)
  | coalesce
  | wait (timedOut : Bool)
  | noTransport (contextErr : Option ContextError)
  | attempt (a : Attempt) (contextErr : Option ContextError)
  | respond (replies : Nat → ResponseReply) (answer : BodyAnswer) (now : Int)
  | close

/- Every exit of a leader runs Finish; everybody else is done. -/
def leaveWith (turn : Option CacheTurn) (result : FlightResult) (served : Served) : Stage :=
  match turn with
  | some ⟨key,.leader flight⟩ => .closing key flight result served
  | _ => .finished served

def noEntry (failed : Bool) : FlightResult := ⟨none,failed⟩

/- MemoryStore.Get deletes an entry it finds expired. -/
def getEntry (s : Serving) (key : Bytes) (now : Int) : Option Entry × Serving :=
  match s.entries.get key with
  | none => (none,s)
  | some e => if e.expiresAt < now then (none,{ s with entries := s.entries.erase key }) else (some e,s)

def setEntry (s : Serving) (key : Bytes) (e : Entry) : Serving :=
  if 0 < s.maxObjectBytes ∧ s.maxObjectBytes < e.response.body.length then s
  else { s with entries := s.entries.insert key e }

def breakerOf (s : Serving) (key : String) (now : Int) : CircuitBreaker.Runtime :=
  (s.breakers.get key).getD (CircuitBreaker.Runtime.new now)

def filterStep (p : Process) (f : Filter) (left : List Filter) (reply : FilterReply) : Process :=
  match filterTurn f p.request.header reply with
  | .leave => { p with stage := .admitting }
  | .stop served => { p with stage := .finished served }
  | .next h => { p with
      request := { p.request with header := h }
      stage := .filtering left
      agreed := match reply with
        | .proceed _ => f :: p.agreed
        | _ => p.agreed }

def answer (s : Serving) (p : Process) (now : Int) : (CircuitBreaker.State × Bool) × CircuitBreaker.Runtime :=
  (breakerOf s p.exchange.breakerKey now).allow p.exchange.breaker now

def admitStep (s : Serving) (p : Process) (now : Int) : Process × Serving :=
  if p.exchange.breakerKey = "" then ({ p with stage := .looking },s)
  else
    let answer := answer s p now
    let s := { s with breakers := s.breakers.insert p.exchange.breakerKey answer.2 }
    if answer.1.2 then
      ({ p with stage := .looking, probe := decide (answer.1.1 = .halfOpen) },s)
    else ({ p with stage := .finished (.proxyError 503 "circuit_open" "circuit open") },s)

def built (w : World) (p : Process) : Bytes × Request :=
  buildKey w.runes w.text w.sha256 p.exchange.cache p.request

def lookStep (w : World) (s : Serving) (p : Process) (now : Int) : Process × Serving :=
  if isCacheEligible w.text p.exchange.cache p.request then
    match getEntry s (built w p).1 now with
    | (some e,s) => ({ p with request := (built w p).2, stage := .finished (.hit e) },s)
    | (none,s) => ({ p with request := (built w p).2, stage := .coalescing (built w p).1 },s)
  else ({ p with stage := .trying none 0 },s)

def coalesceStep (s : Serving) (p : Process) (key : Bytes) : Process × Serving :=
  let alone : Process × Serving := ({ p with stage := .trying (some ⟨key,.solo⟩) 0 },s)
  if !p.exchange.cache.coalesceEnabled ∨ key = [] then alone
  else match s.flights.get key with
    | some flight => ({ p with stage := .waiting key flight },s)
    | none =>
      if 0 < s.maxFlights ∧ s.maxFlights ≤ s.activeFlights then alone
      else ({ p with stage := .trying (some ⟨key,.leader s.nextFlight⟩) 0 },
        { s with
          flights := s.flights.insert key s.nextFlight
          nextFlight := s.nextFlight + 1
          activeFlights := s.activeFlights + 1 })

/- A follower waits for the flight to be finished or for its own timeout. -/
def waitStep (s : Serving) (p : Process) (key : Bytes) (flight : Nat) (timedOut : Bool) : Option Process :=
  let onward := { p with stage := .trying (some ⟨key,.solo⟩) 0 }
  if timedOut ∨ p.exchange.cache.coalesceTimeout ≤ 0 then some onward
  else match s.results.get flight with
    | none => none
    | some ⟨some e,false⟩ => some { p with stage := .finished (.follower e) }
    | some _ => some onward

def reportAttempt (s : Serving) (x : Exchange) (a : Attempt) : Serving :=
  match reported a.outcome with
  | none => s
  | some success =>
    if x.breakerKey = "" then s
    else
      let b := (breakerOf s x.breakerKey a.now).report x.breaker a.now success
      { s with breakers := s.breakers.insert x.breakerKey b }

def failedStage (turn : Option CacheTurn) (contextErr : Option ContextError) (err : Failure) : Stage :=
  leaveWith turn (noEntry true) (proxyErrorFor contextErr err)

def stageAfter (turn : Option CacheTurn) (attempts : Int) (contextErr : Option ContextError) : Verdict → Stage
  | .again => .trying turn attempts
  | .response r => .responding turn r
  | .failed err => failedStage turn contextErr err

def attemptStep (s : Serving) (p : Process) (turn : Option CacheTurn) (attempts : Int) (a : Attempt)
    (contextErr : Option ContextError) : Process × Serving :=
  let x := p.exchange
  if computePerTryTimeout x.retry.perTryTimeout a.remainingOuter a.remainingBudget ≤ 0 then
    ({ p with stage := failedStage turn contextErr (.context .deadlineExceeded) },s)
  else
    ({ p with
        stage := stageAfter turn (attempts + 1) contextErr (verdict x (attempts + 1) a)
        probe := p.probe && (reported a.outcome).isNone },
      reportAttempt s x a)

def respondStep (s : Serving) (i : Nat) (p : Process) (turn : Option CacheTurn) (r : Response)
    (replies : Nat → ResponseReply) (answer : BodyAnswer) (now : Int) : Process × Serving :=
  match applyResponsePlugins replies 0 p.exchange.filters r.header with
  | .error served => ({ p with stage := leaveWith turn (noEntry false) served },s)
  | .ok header =>
    let r := { r with header := header }
    match turn with
    | none => ({ p with stage := .finished (.upstream r) },s)
    | some t =>
      match answer with
      | .notCacheable => ({ p with stage := leaveWith turn (noEntry false) (.upstream r) },s)
      | .unreadable =>
        ({ p with stage := leaveWith turn (noEntry true) (badGateway "upstream request failed") },s)
      | .body bytes =>
        let entry : Entry := ⟨{ r with body := bytes },wrap64 (now + p.exchange.cache.ttl),i⟩
        ({ p with stage := leaveWith turn ⟨some entry,false⟩ (.filled entry) },setEntry s t.key entry)

/- Coalescer.Finish removes the flight from the map only if it is still its own. -/
def closeStep (s : Serving) (p : Process) (key : Bytes) (flight : Nat) (result : FlightResult) (served : Served) :
    Process × Serving :=
  ({ p with stage := .finished served },
    { s with
      flights := if s.flights.get key = some flight then s.flights.erase key else s.flights
      activeFlights := if s.flights.get key = some flight then s.activeFlights - 1 else s.activeFlights
      results := s.results.insert flight result })

def move (w : World) (s : Serving) (i : Nat) (p : Process) (e : Event) : Option (Process × Serving) :=
  match p.stage,e with
  | .filtering (f :: left),.filter reply => some (filterStep p f left reply,s)
  | .filtering [],.enter now => some (admitStep s p now)
  | .admitting,.enter now => some (admitStep s p now)
  | .looking,.look now => some (lookStep w s p now)
  | .coalescing key,.coalesce => some (coalesceStep s p key)
  | .waiting key flight,.wait timedOut => (waitStep s p key flight timedOut).map (·,s)
  | .trying turn attempts,.noTransport contextErr =>
    if attempts = 0 then
      some ({ p with stage := failedStage turn contextErr .noTransport },s)
    else none
  | .trying turn attempts,.attempt a contextErr => some (attemptStep s p turn attempts a contextErr)
  | .responding turn r,.respond replies answer now => some (respondStep s i p turn r replies answer now)
  | .closing key flight result served,.close => some (closeStep s p key flight result served)
  | _,_ => none

/- `expire` is the breaker registry's reaper, free to take any breaker. -/
inductive Action where
  | arrive (x : Exchange)
  | act (i : Nat) (e : Event)
  | expire (key : String)

def step (w : World) (s : Serving) : Action → Option Serving
  | .arrive x => some { s with processes := s.processes ++ [{ exchange := x, request := x.request, stage := .filtering x.filters }] }
  | .act i e =>
    match s.processes[i]? with
    | none => none
    | some p => (move w s i p e).map (fun r => { r.2 with processes := s.processes.set i r.1 })
  | .expire key => some { s with breakers := s.breakers.erase key }

def filledEntry (i : Nat) (p : Process) (r : Response) (header : Header) (bytes : Bytes) (now : Int) : Entry :=
  ⟨⟨r.status,header,bytes⟩,wrap64 (now + p.exchange.cache.ttl),i⟩

def filledStage (t : CacheTurn) (e : Entry) : Stage := leaveWith (some t) ⟨some e,false⟩ (.filled e)

def plainWorld : World := ⟨RuneTables.ascii,TextTables.ascii,id⟩

def plainExchange : Exchange where
  breakerKey := "r::p"
  breaker := ⟨false,50,20,10 * second,2 * second,1⟩
  cache := ⟨true,true,minute,0,[],false,0,false⟩
  retry := ⟨false,1,0,0,[],[],0,0⟩
  request := ⟨encodeText "GET",encodeText "h",encodeText "/",[],Map.empty⟩

def attemptAt (now : Int) (outcome : RoundTrip) : Event :=
  .attempt ⟨second,second,outcome,none,true,true,now⟩ none

def okResponse : Response := ⟨200,Map.empty,[]⟩

inductive Moved (w : World) (s : Serving) (i : Nat) (p : Process) : Event → Process → Serving → Prop where
  | left {f left reply} (stage : p.stage = .filtering (f :: left))
      (turn : filterTurn f p.request.header reply = .leave) :
      Moved w s i p (.filter reply) { p with stage := .admitting } s
  | stopped {f left reply served} (stage : p.stage = .filtering (f :: left))
      (turn : filterTurn f p.request.header reply = .stop served) :
      Moved w s i p (.filter reply) { p with stage := .finished served } s
  | passed {f left reply h} (stage : p.stage = .filtering (f :: left))
      (turn : filterTurn f p.request.header reply = .next h) :
      Moved w s i p (.filter reply) (filterStep p f left reply) s
  | unnamed {now} (stage : p.stage = .admitting ∨ p.stage = .filtering []) (key : p.exchange.breakerKey = "") :
      Moved w s i p (.enter now) { p with stage := .looking } s
  | admitted {now} (stage : p.stage = .admitting ∨ p.stage = .filtering []) (allowed : (answer s p now).1.2 = true) :
      Moved w s i p (.enter now) { p with stage := .looking, probe := decide ((answer s p now).1.1 = .halfOpen) }
        { s with breakers := s.breakers.insert p.exchange.breakerKey (answer s p now).2 }
  | denied {now} (stage : p.stage = .admitting ∨ p.stage = .filtering []) (refused : (answer s p now).1.2 = false) :
      Moved w s i p (.enter now) { p with stage := .finished (.proxyError 503 "circuit_open" "circuit open") }
        { s with breakers := s.breakers.insert p.exchange.breakerKey (answer s p now).2 }
  | hit {now e} (stage : p.stage = .looking) (eligible : isCacheEligible w.text p.exchange.cache p.request = true)
      (found : getEntry s (built w p).1 now = (some e,s)) :
      Moved w s i p (.look now) { p with request := (built w p).2, stage := .finished (.hit e) } s
  | missed {now s'} (stage : p.stage = .looking) (found : getEntry s (built w p).1 now = (none,s')) :
      Moved w s i p (.look now) { p with request := (built w p).2, stage := .coalescing (built w p).1 } s'
  | bypassed {now} (stage : p.stage = .looking) : Moved w s i p (.look now) { p with stage := .trying none 0 } s
  | alone {key} (stage : p.stage = .coalescing key) :
      Moved w s i p .coalesce { p with stage := .trying (some ⟨key,.solo⟩) 0 } s
  | joined {key flight} (stage : p.stage = .coalescing key) (flying : s.flights.get key = some flight) :
      Moved w s i p .coalesce { p with stage := .waiting key flight } s
  | led {key} (stage : p.stage = .coalescing key) (free : s.flights.get key = none) :
      Moved w s i p .coalesce { p with stage := .trying (some ⟨key,.leader s.nextFlight⟩) 0 }
        { s with
          flights := s.flights.insert key s.nextFlight
          nextFlight := s.nextFlight + 1
          activeFlights := s.activeFlights + 1 }
  | followed {key flight e} (stage : p.stage = .waiting key flight) (timely : 0 < p.exchange.cache.coalesceTimeout)
      (shared : s.results.get flight = some ⟨some e,false⟩) :
      Moved w s i p (.wait false) { p with stage := .finished (.follower e) } s
  | brokeAway {key flight timedOut} (stage : p.stage = .waiting key flight) :
      Moved w s i p (.wait timedOut) { p with stage := .trying (some ⟨key,.solo⟩) 0 } s
  | untransported {turn contextErr} (stage : p.stage = .trying turn 0) :
      Moved w s i p (.noTransport contextErr) { p with stage := failedStage turn contextErr .noTransport } s
  | outOfTime {turn attempts a contextErr} (stage : p.stage = .trying turn attempts)
      (late : computePerTryTimeout p.exchange.retry.perTryTimeout a.remainingOuter a.remainingBudget ≤ 0) :
      Moved w s i p (.attempt a contextErr)
        { p with stage := failedStage turn contextErr (.context .deadlineExceeded) } s
  | tried {turn attempts a contextErr} (stage : p.stage = .trying turn attempts) :
      Moved w s i p (.attempt a contextErr)
        { p with
          stage := stageAfter turn (attempts + 1) contextErr (verdict p.exchange (attempts + 1) a)
          probe := p.probe && (reported a.outcome).isNone }
        (reportAttempt s p.exchange a)
  | refused {turn r replies answer now served} (stage : p.stage = .responding turn r)
      (stopped : applyResponsePlugins replies 0 p.exchange.filters r.header = .error served) :
      Moved w s i p (.respond replies answer now) { p with stage := leaveWith turn (noEntry false) served } s
  | relayed {turn r replies answer now header} (stage : p.stage = .responding turn r) :
      Moved w s i p (.respond replies answer now)
        { p with stage := leaveWith turn (noEntry false) (.upstream { r with header := header }) } s
  | unreadable {turn r replies now} (stage : p.stage = .responding turn r) :
      Moved w s i p (.respond replies .unreadable now)
        { p with stage := leaveWith turn (noEntry true) (badGateway "upstream request failed") } s
  | filled {t r replies bytes now header} (stage : p.stage = .responding (some t) r) :
      Moved w s i p (.respond replies (.body bytes) now)
        { p with stage := filledStage t (filledEntry i p r header bytes now) }
        (setEntry s t.key (filledEntry i p r header bytes now))
  | closed {key flight result served} (stage : p.stage = .closing key flight result served) :
      Moved w s i p .close { p with stage := .finished served } (closeStep s p key flight result served).2

theorem filterMoved {w : World} {s : Serving} {i : Nat} {p : Process} {f : Filter} {left : List Filter}
    (stage : p.stage = .filtering (f :: left)) (reply : FilterReply) :
    Moved w s i p (.filter reply) (filterStep p f left reply) s := by
  cases turn : filterTurn f p.request.header reply with
  | leave =>
    have same : filterStep p f left reply = { p with stage := .admitting } := by simp only [filterStep,turn]
    exact same ▸ .left stage turn
  | stop served =>
    have same : filterStep p f left reply = { p with stage := .finished served } := by simp only [filterStep,turn]
    exact same ▸ .stopped stage turn
  | next h => exact .passed stage turn

theorem admitMoved {w : World} {s : Serving} {i : Nat} {p : Process}
    (stage : p.stage = .admitting ∨ p.stage = .filtering []) (now : Int) :
    Moved w s i p (.enter now) (admitStep s p now).1 (admitStep s p now).2 := by
  simp only [admitStep]
  split
  · exact .unnamed stage (by assumption)
  · split
    · exact .admitted stage (by assumption)
    · exact .denied stage (eq_false_of_ne_true (by assumption))

theorem lookMoved {w : World} {s : Serving} {i : Nat} {p : Process} (stage : p.stage = .looking) (now : Int) :
    Moved w s i p (.look now) (lookStep w s p now).1 (lookStep w s p now).2 := by
  by_cases eligible : isCacheEligible w.text p.exchange.cache p.request = true
  · simp only [lookStep,if_pos eligible]
    cases found : getEntry s (built w p).1 now with
    | mk result after =>
      cases result with
      | none =>
        exact .missed stage found
      | some e =>
        have same : after = s := by
          unfold getEntry at found
          split at found
          · cases found
          · split at found <;> cases found
            rfl
        subst same
        exact .hit stage eligible found
  · simp only [lookStep,if_neg eligible]
    exact .bypassed stage

theorem coalesceMoved {w : World} {s : Serving} {i : Nat} {p : Process} {key : Bytes}
    (stage : p.stage = .coalescing key) :
    Moved w s i p .coalesce (coalesceStep s p key).1 (coalesceStep s p key).2 := by
  simp only [coalesceStep]
  split
  · exact .alone stage
  · split
    · exact .joined stage (by assumption)
    · split
      · exact .alone stage
      · exact .led stage (by assumption)

theorem waitMoved {w : World} {s : Serving} {i : Nat} {p q : Process} {key : Bytes} {flight : Nat} {timedOut : Bool}
    (stage : p.stage = .waiting key flight) (moved : waitStep s p key flight timedOut = some q) :
    Moved w s i p (.wait timedOut) q s := by
  simp only [waitStep] at moved
  split at moved
  · cases moved
    exact .brokeAway stage
  · rename_i timely
    obtain ⟨same,positive⟩ := not_or.mp timely
    split at moved
    · cases moved
    · cases moved
      cases eq_false_of_ne_true same
      exact .followed stage (Int.not_le.mp positive) (by assumption)
    · cases moved
      exact .brokeAway stage

theorem attemptMoved {w : World} {s : Serving} {i : Nat} {p : Process} {turn : Option CacheTurn} {attempts : Int}
    (stage : p.stage = .trying turn attempts) (a : Attempt) (contextErr : Option ContextError) :
    Moved w s i p (.attempt a contextErr) (attemptStep s p turn attempts a contextErr).1
      (attemptStep s p turn attempts a contextErr).2 := by
  simp only [attemptStep]
  split
  · exact .outOfTime stage (by assumption)
  · exact .tried stage

theorem respondMoved {w : World} {s : Serving} {i : Nat} {p : Process} {turn : Option CacheTurn} {r : Response}
    (stage : p.stage = .responding turn r) (replies : Nat → ResponseReply) (answer : BodyAnswer) (now : Int) :
    Moved w s i p (.respond replies answer now) (respondStep s i p turn r replies answer now).1
      (respondStep s i p turn r replies answer now).2 := by
  cases stopped : applyResponsePlugins replies 0 p.exchange.filters r.header with
  | error served =>
    simp only [respondStep,stopped]
    exact .refused stage stopped
  | ok header =>
    simp only [respondStep,stopped]
    cases turn with
    | none => exact .relayed stage
    | some t =>
      cases answer with
      | notCacheable => exact .relayed stage
      | unreadable => exact .unreadable stage
      | body bytes => exact .filled stage

theorem moved {w : World} {s : Serving} {i : Nat} {p : Process} {e : Event} {r : Process × Serving}
    (ok : move w s i p e = some r) : Moved w s i p e r.1 r.2 := by
  unfold move at ok
  split at ok <;> rename_i stage
  · cases ok
    exact filterMoved stage _
  · cases ok
    exact admitMoved (.inr stage) _
  · cases ok
    exact admitMoved (.inl stage) _
  · cases ok
    exact lookMoved stage _
  · cases ok
    exact coalesceMoved stage
  · obtain ⟨q,waited,same⟩ := Option.map_eq_some_iff.mp ok
    cases same
    exact waitMoved stage waited
  · split at ok
    · rename_i first
      cases ok
      exact .untransported (first ▸ stage)
    · cases ok
  · cases ok
    exact attemptMoved stage _ _
  · cases ok
    exact respondMoved stage _ _ _
  · cases ok
    exact .closed stage
  · cases ok

theorem stopNotForwarded {f : Filter} {h : Header} {reply : FilterReply} {served : Served}
    (turn : filterTurn f h reply = .stop served) : served.forwarded = false := by
  unfold filterTurn pluginFailure at turn
  repeat' split at turn
  all_goals first | cases turn; rfl | cases turn

theorem responseStopNotForwarded {replies : Nat → ResponseReply} {n : Nat} {filters : List Filter} {h : Header}
    {served : Served} (stopped : applyResponsePlugins replies n filters h = .error served) :
    served.forwarded = false := by
  induction filters generalizing n h with
  | nil => cases stopped
  | cons f rest ih =>
    unfold applyResponsePlugins at stopped
    split at stopped
    · cases stopped
    · rename_i turn
      cases stopped
      unfold responseTurn pluginFailure at turn
      repeat' split at turn
      all_goals first | cases turn; rfl | cases turn
    · exact ih stopped

theorem proxyErrorNotForwarded (contextErr : Option ContextError) (err : Failure) :
    (proxyErrorFor contextErr err).forwarded = false := by
  unfold proxyErrorFor badGateway
  repeat' split
  all_goals rfl

theorem reportAttemptKeeps (s : Serving) (x : Exchange) (a : Attempt) :
    ∃ breakers, reportAttempt s x a = { s with breakers := breakers } := by
  unfold reportAttempt
  split
  · exact ⟨_,rfl⟩
  · split <;> exact ⟨_,rfl⟩

theorem filterStepKeeps (p : Process) (f : Filter) (left : List Filter) (reply : FilterReply) :
    (filterStep p f left reply).exchange = p.exchange ∧ (filterStep p f left reply).probe = p.probe := by
  unfold filterStep
  split <;> exact ⟨rfl,rfl⟩

theorem exchangeKept {w : World} {s s' : Serving} {i : Nat} {p p' : Process} {e : Event}
    (made : Moved w s i p e p' s') : p'.exchange = p.exchange := by
  cases made with
  | passed _ _ => exact (filterStepKeeps _ _ _ _).1
  | _ => rfl

inductive Stepped (w : World) (s : Serving) : Action → Serving → Prop where
  | arrived (x : Exchange) :
      Stepped w s (.arrive x)
        { s with processes := s.processes ++ [{ exchange := x, request := x.request, stage := .filtering x.filters }] }
  | acted {i e p p' s'} (present : s.processes[i]? = some p) (made : Moved w s i p e p' s') :
      Stepped w s (.act i e) { s' with processes := s.processes.set i p' }
  | expired (key : String) : Stepped w s (.expire key) { s with breakers := s.breakers.erase key }

theorem stepped {w : World} {s t : Serving} {a : Action} (taken : step w s a = some t) : Stepped w s a t := by
  cases a with
  | arrive x =>
    cases taken
    exact .arrived x
  | act i e =>
    simp only [step] at taken
    split at taken
    · cases taken
    · rename_i p present
      obtain ⟨r,ok,same⟩ := Option.map_eq_some_iff.mp taken
      cases same
      exact .acted present (moved ok)
  | expire key =>
    cases taken
    exact .expired key

end ReverseProxy.RequestFlow
