import ReverseProxy.RequestFlow
import ReverseProxy.SnapshotStore

/-! Handler.ServeHTTP from its first line to its filter loop: the admin prefix, the
snapshot, the request limits, the router, client certificates, the traffic variant and
the overload limiter. Whoever is turned away here has been written an error and
nothing else has happened. -/
namespace ReverseProxy.RequestIntake
open GoValues FiniteMap CacheKey
open PolicyBuild (Limits PoolConfig TLSStore)
open RequestFlow (Exchange Served badGateway)
open SnapshotBuild (CompiledRoute)
open SnapshotStore (Snapshot)
open TrafficRegistry (CohortExtractor Plan Split)

/- A request body: its bytes, and how many of them arrive before reading fails. -/
structure Body where
  content : Bytes
  failsAt : Option Nat := none
  deriving DecidableEq, Repr

/- `requestURI` is URL.RequestURI() and `headerCount` the number of header names;
the certificates are those of r.TLS, none without TLS. -/
structure Inbound where
  request : Request
  requestURI : Bytes
  headerCount : Nat
  contentLength : Int
  body : Option Body
  peerCertificates : List Bytes := []
  remoteAddr : Bytes := []

inductive BodyError where
  | tooLarge
  | unreadable
  deriving DecidableEq, Repr

/- io.ReadAll on an io.LimitReader, which reads nothing once its limit is used up. -/
def readLimited (b : Body) (limit : Int) : Except BodyError Bytes :=
  if limit ≤ 0 then .ok []
  else if b.failsAt.any (fun k => decide ((k : Int) < limit)) then .error .unreadable
  else .ok (b.content.take limit.toNat)

def readBodyWithinLimit (body : Option Body) (limit : Int) : Except BodyError Bytes :=
  match body with
  | none => .ok []
  | some b =>
    if limit ≤ 0 then .error .tooLarge
    else match readLimited b (wrap64 (limit + 1)) with
      | .error e => .error e
      | .ok data => if limit < data.length then .error .tooLarge else .ok data

def bodyTooLarge : Served := .proxyError 413 "request_too_large" "request body too large"

/- The request that goes on has its body of unknown length read into memory. -/
def enforceRequestLimits (l : Limits) (r : Inbound) : Except Served Inbound :=
  if 0 < l.maxURLBytes ∧ l.maxURLBytes < r.requestURI.length then
    .error (.proxyError 414 "uri_too_long" "uri too long")
  else if 0 < l.maxHeaderCount ∧ l.maxHeaderCount < r.headerCount then
    .error (.proxyError 431 "headers_too_large" "too many headers")
  else if l.maxBodyBytes = 0 then
    if r.contentLength ≠ 0 then .error bodyTooLarge else .ok r
  else if 0 < l.maxBodyBytes then
    if l.maxBodyBytes < r.contentLength then .error bodyTooLarge
    else if r.contentLength < 0 then
      match readBodyWithinLimit r.body l.maxBodyBytes with
      | .error .tooLarge => .error bodyTooLarge
      | .error .unreadable => .error (.proxyError 400 "request_too_large" "request body unreadable")
      | .ok data => .ok { r with body := some { content := data }, contentLength := data.length }
    else .ok r
  else .ok r

def hostOf (addr : Bytes) : Bytes :=
  match splitHostPort 0x3A 0x5B 0x5D addr with
  | .ok (host,_) => host
  | .error _ => addr

/- Router.Match: the first route of the host and prefix decides, also by its methods. -/
def matchRoute (routes : List CompiledRoute) (r : Request) : Option CompiledRoute :=
  match routes.find? (fun route =>
      encodeText route.host = hostOf r.host ∧ (encodeText route.pathPrefix).isPrefixOf r.path) with
  | none => none
  | some route =>
    match route.methods with
    | none => some route
    | some methods => if methods.any (fun m => encodeText m = r.method) then some route else none

/- Store.VerifyClientCert; `verify` is package x509 on a CA pool and a chain. -/
def verifyClientCert (verify : Bytes → List Bytes → Bool) (store : TLSStore) (chain : List Bytes) : Bool :=
  match store.clientCA with
  | none => false
  | some ca => chain ≠ [] && verify ca chain

inductive Variant where
  | stable
  | canary
  deriving DecidableEq, Repr

def choose (s : Split) (value : Nat) : Variant :=
  let total := wrap64 (s.stableWeight + s.canaryWeight)
  if total ≤ 0 ∨ s.canaryWeight ≤ 0 then .stable
  else if s.stableWeight ≤ 0 then .canary
  else if ((value % total.toNat : Nat) : Int) < s.canaryWeight then .canary
  else .stable

def fnv1a (key : Bytes) : Nat :=
  key.foldl (fun h b => (h ^^^ b.toNat) * 1099511628211 % 2^64) 14695981039346656037

def chooseDeterministic (s : Split) (key : Bytes) : Variant := choose s (fnv1a key)

def extract (r : Inbound) : CohortExtractor → Option Bytes
  | .ip =>
    let value := trimBytes r.remoteAddr
    if value = [] then none
    else
      let value := trimBytes (hostOf value)
      if value = [] then none else some value
  | .header name =>
    let value := trimBytes (r.request.header.first (encodeText name))
    if value = [] then none else some value

def drained (p : Plan) (now : Int) : Bool :=
  p.autoDrain.any (fun a => decide (0 < a.drainedUntil) && decide (now < a.drainedUntil))

def pickVariant (p : Plan) (r : Inbound) (now : Int) (random : Nat) : Variant :=
  let split := if drained p now then { p.split with canaryWeight := 0 } else p.split
  match p.cohort.bind (extract r) with
  | some key => choose split (fnv1a key)
  | none => choose split random

def selectPool (route : CompiledRoute) (variant : Option Variant) : String × String :=
  if variant = some .canary ∧ route.canaryPoolName ≠ "" then
    (route.canaryPoolName,
      if route.canaryPoolKey = "" then route.id ++ "::" ++ route.canaryPoolName else route.canaryPoolKey)
  else
    (route.poolName,if route.stablePoolKey = "" then route.id ++ "::" ++ route.poolName else route.stablePoolKey)

/- What a request finds: whether the handler has its parts, the snapshot it acquires,
the plans behind the pointers, the clock, the random value, the answers of the
overload limiter and of the retry registry. -/
structure Around where
  ready : Bool := true
  snapshot : Option Snapshot
  plans : Map Nat Plan := Map.empty
  verify : Bytes → List Bytes → Bool := fun _ _ => false
  now : Int := 0
  random : Nat := 0
  acquired : Bool := true
  budgetError : Bool := false

def routeFor (snapshot : Snapshot) (r : Inbound) : Except Served CompiledRoute :=
  match matchRoute snapshot.compiled.routes r.request with
  | none => .error (.proxyError 404 "no_route" "no route matched")
  | some route => .ok route

def checkClientCert (a : Around) (snapshot : Snapshot) (route : CompiledRoute) (r : Inbound) : Except Served Unit :=
  if !route.policy.requireMTLS then .ok ()
  else if snapshot.compiled.tls.store.any (fun store => verifyClientCert a.verify store r.peerCertificates) then .ok ()
  else .error (.proxyError 403 "mtls_required" "client certificate required")

def checkOverload (a : Around) (plan : Option Plan) : Except Served Unit :=
  if (plan.bind Plan.overload).isSome ∧ !a.acquired then .error (.proxyError 503 "overloaded" "overloaded") else .ok ()

def poolFor (snapshot : Snapshot) (name : String) : Except Served PoolConfig :=
  match snapshot.compiled.pools.get name with
  | none => .error (badGateway "pool not found")
  | some key =>
    if key = "" then .error (badGateway "pool not found")
    else match snapshot.compiled.poolConfigs.get name with
      | none => .error (badGateway "pool config missing")
      | some config => .ok config

def isIdempotentMethod (method : Bytes) : Bool :=
  ["GET","HEAD","PUT","DELETE","OPTIONS","TRACE"].any (fun m => decide (encodeText m = method))

def isReplayableBody (r : Inbound) : Bool := r.body.isNone || r.contentLength == 0

def exchangeFor (a : Around) (route : CompiledRoute) (key : String) (pool : PoolConfig) (r : Inbound) : Exchange where
  filters := if route.policy.plugins.enabled then route.policy.plugins.filters else []
  breakerKey := key
  breaker := pool.breaker
  cache := route.policy.cache
  retry := route.policy.retry
  allowRetry := route.policy.retry.enabled && decide (1 < route.policy.retry.maxAttempts) &&
    isIdempotentMethod r.request.method && isReplayableBody r
  budgetEnabled := route.policy.retryBudget.enabled || route.policy.clientRetryCap.enabled
  budgetError := a.budgetError
  request := r.request

def takeIn (a : Around) (snapshot : Snapshot) (r : Inbound) : Except Served Exchange := do
  let r ← enforceRequestLimits snapshot.compiled.limits r
  let route ← routeFor snapshot r
  checkClientCert a snapshot route r
  let plan := route.trafficPlan.bind a.plans.get
  let selected := selectPool route (plan.map (fun p => pickVariant p r a.now a.random))
  checkOverload a plan
  let pool ← poolFor snapshot selected.1
  .ok (exchangeFor a route selected.2 pool r)

def intake (a : Around) (r : Inbound) : Except Served Exchange :=
  if (encodeText "/admin").isPrefixOf r.request.path then .error (.proxyError 404 "not_found" "not found")
  else if !a.ready then .error (.proxyError 503 "bad_gateway" "proxy not ready")
  else match a.snapshot with
    | none => .error (.proxyError 503 "bad_gateway" "snapshot missing")
    | some snapshot => takeIn a snapshot r

end ReverseProxy.RequestIntake
