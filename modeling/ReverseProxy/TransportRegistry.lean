import ReverseProxy.Custody
import ReverseProxy.FiniteMap
import ReverseProxy.GoValues
import ReverseProxy.Transition

/-! Package transport: a transport for each pool key, with an entry that a removal leaves
draining until it is reaped. Transports are numbered in the order they are made. What a call
does under the lock is one step; the transports it takes out of the map are closed by its
caller afterwards, which the ledger keeps account of. Idle connections of transports that
stay are closed without a trace here. -/
namespace ReverseProxy.TransportRegistry
open GoValues FiniteMap Custody

@[ext]
structure Options where
  dialTimeout : Duration := 0
  tlsHandshakeTimeout : Duration := 0
  responseHeaderTimeout : Duration := 0
  expectContinueTimeout : Duration := 0
  idleConnTimeout : Duration := 0
  maxIdleConns : Int := 0
  maxIdleConnsPerHost : Int := 0
  maxConnsPerHost : Int := 0
  deriving DecidableEq, Repr

def defaultOptions : Options where
  dialTimeout := second
  tlsHandshakeTimeout := 5 * second
  responseHeaderTimeout := 5 * second
  expectContinueTimeout := second
  idleConnTimeout := 90 * second
  maxIdleConns := 10000
  maxIdleConnsPerHost := 256

def positiveOr (default value : Int) : Int := if 0 < value then value else default

def mergeOptions (defaults override : Options) : Options where
  dialTimeout := positiveOr defaults.dialTimeout override.dialTimeout
  tlsHandshakeTimeout := positiveOr defaults.tlsHandshakeTimeout override.tlsHandshakeTimeout
  responseHeaderTimeout := positiveOr defaults.responseHeaderTimeout override.responseHeaderTimeout
  expectContinueTimeout := positiveOr defaults.expectContinueTimeout override.expectContinueTimeout
  idleConnTimeout := positiveOr defaults.idleConnTimeout override.idleConnTimeout
  maxIdleConns := positiveOr defaults.maxIdleConns override.maxIdleConns
  maxIdleConnsPerHost := positiveOr defaults.maxIdleConnsPerHost override.maxIdleConnsPerHost
  maxConnsPerHost := if 0 ≤ override.maxConnsPerHost then override.maxConnsPerHost else defaults.maxConnsPerHost

def normalizeOptions (opts : Options) : Options where
  dialTimeout := positiveOr defaultOptions.dialTimeout opts.dialTimeout
  tlsHandshakeTimeout := positiveOr defaultOptions.tlsHandshakeTimeout opts.tlsHandshakeTimeout
  responseHeaderTimeout := positiveOr defaultOptions.responseHeaderTimeout opts.responseHeaderTimeout
  expectContinueTimeout := positiveOr defaultOptions.expectContinueTimeout opts.expectContinueTimeout
  idleConnTimeout := positiveOr defaultOptions.idleConnTimeout opts.idleConnTimeout
  maxIdleConns := positiveOr defaultOptions.maxIdleConns opts.maxIdleConns
  maxIdleConnsPerHost := positiveOr defaultOptions.maxIdleConnsPerHost opts.maxIdleConnsPerHost
  maxConnsPerHost := if opts.maxConnsPerHost < 0 then 0 else opts.maxConnsPerHost

def optionsEqual (a b : Options) : Bool :=
  a.dialTimeout == b.dialTimeout &&
    a.tlsHandshakeTimeout == b.tlsHandshakeTimeout &&
    a.responseHeaderTimeout == b.responseHeaderTimeout &&
    a.expectContinueTimeout == b.expectContinueTimeout &&
    a.idleConnTimeout == b.idleConnTimeout &&
    a.maxIdleConns == b.maxIdleConns &&
    a.maxIdleConnsPerHost == b.maxIdleConnsPerHost &&
    a.maxConnsPerHost == b.maxConnsPerHost

/- http.Transport: which one it is, and what it was made with. -/
structure Transport where
  number : Nat
  options : Options
  deriving DecidableEq, Repr

def newTransport (number : Nat) (opts : Options) : Transport := ⟨number,normalizeOptions opts⟩

structure Entry where
  transport : Transport
  opts : Options
  lastUsed : Int
  lastReconciled : Int
  draining : Bool := false
  removedAt : Int := 0
  deriving DecidableEq, Repr

structure Registry where
  transports : Table String Entry := .empty
  ttl : Duration
  ledger : Ledger := {}

def defaultTransportTTL : Duration := 10 * minute

def newRegistry (ttl : Duration) : Registry := { ttl := if ttl ≤ 0 then defaultTransportTTL else ttl }

def Entry.renewed (current : Entry) (now : Int) : Entry :=
  { current with lastReconciled := now, draining := false, removedAt := 0 }

def Entry.replaced (current : Entry) (transport : Transport) (opts : Options) (now : Int) : Entry :=
  { current with transport, opts, lastReconciled := now, draining := false, removedAt := 0 }

namespace Registry

def create (r : Registry) (key : String) (opts : Options) (now : Int) : Transport × Registry :=
  let transport := newTransport r.ledger.made opts
  (transport,{ r with
    transports := r.transports.insert key { transport, opts, lastUsed := now, lastReconciled := now }
    ledger := r.ledger.make })

def get (r : Registry) (key : String) (now : Int) : Option Transport × Registry :=
  if key = "" then (none,r)
  else match r.transports.get key with
    | none =>
      let (transport,r) := r.create key defaultOptions now
      (some transport,r)
    | some current => (some current.transport,{ r with transports := r.transports.insert key { current with lastUsed := now } })

def reconcile (r : Registry) (key : String) (opts : Options) (now : Int) : Option Transport × Registry :=
  if key = "" then (none,r)
  else
    let opts := mergeOptions defaultOptions opts
    match r.transports.get key with
    | none =>
      let (transport,r) := r.create key opts now
      (some transport,r)
    | some current =>
      if optionsEqual current.opts opts then
        (some current.transport,{ r with transports := r.transports.insert key (current.renewed now) })
      else
        let transport := newTransport r.ledger.made opts
        (some transport,{ r with
          transports := r.transports.insert key (current.replaced transport opts now)
          ledger := r.ledger.make.drop [current.transport.number] })

def remove (r : Registry) (key : String) (now : Int) : Registry :=
  if key = "" then r
  else match r.transports.get key with
    | none => r
    | some current => { r with transports := r.transports.insert key { current with draining := true, removedAt := now } }

def closeAll (r : Registry) : Registry :=
  { r with
    transports := .empty
    ledger := r.ledger.drop (r.transports.entries.map (·.2.transport.number)) }

def setTTL (r : Registry) (ttl : Duration) : Registry := { r with ttl := if ttl ≤ 0 then defaultTransportTTL else ttl }

def expired (r : Registry) (now : Int) (current : Entry) : Bool :=
  current.draining && !(decide (0 < r.ttl) && decide (now - current.removedAt < r.ttl))

def reapOnce (r : Registry) (now : Int) : Registry :=
  { r with
    transports := r.transports.keep (fun e => !r.expired now e.2)
    ledger := r.ledger.drop ((r.transports.entries.filter (fun e => r.expired now e.2)).map (·.2.transport.number)) }

end Registry

/- `close` is the end of a call that took a transport out of the map. -/
inductive Action where
  | get (key : String) (now : Int)
  | reconcile (key : String) (opts : Options) (now : Int)
  | remove (key : String) (now : Int)
  | reap (now : Int)
  | setTTL (ttl : Duration)
  | closeAll
  | close (number : Nat)

def step (r : Registry) : Action → Option Registry
  | .get key now => some (r.get key now).2
  | .reconcile key opts now => some (r.reconcile key opts now).2
  | .remove key now => some (r.remove key now)
  | .reap now => some (r.reapOnce now)
  | .setTTL ttl => some (r.setTTL ttl)
  | .closeAll => some r.closeAll
  | .close number => (r.ledger.close number).map fun ledger => { r with ledger }

inductive Taken (r : Registry) : Action → Registry → Prop where
  | nothing {a} : Taken r a r
  | made {a key opts now} (by_ : a = .get key now ∧ opts = defaultOptions ∨
        ∃ o, a = .reconcile key o now ∧ opts = mergeOptions defaultOptions o)
      (named : key ≠ "") (absent : r.transports.get key = none) : Taken r a (r.create key opts now).2
  | used {key now current} (found : r.transports.get key = some current) :
      Taken r (.get key now) { r with transports := r.transports.insert key { current with lastUsed := now } }
  | kept {key opts now current} (found : r.transports.get key = some current) (same : current.opts = mergeOptions defaultOptions opts) :
      Taken r (.reconcile key opts now) { r with transports := r.transports.insert key (current.renewed now) }
  | replaced {key opts now current} (found : r.transports.get key = some current)
      (differs : current.opts ≠ mergeOptions defaultOptions opts) :
      Taken r (.reconcile key opts now) { r with
        transports := r.transports.insert key
          (current.replaced (newTransport r.ledger.made (mergeOptions defaultOptions opts)) (mergeOptions defaultOptions opts) now)
        ledger := r.ledger.make.drop [current.transport.number] }
  | removed {key now current} (found : r.transports.get key = some current) :
      Taken r (.remove key now) { r with transports := r.transports.insert key { current with draining := true, removedAt := now } }
  | reaped {now} : Taken r (.reap now) (r.reapOnce now)
  | timed {ttl} : Taken r (.setTTL ttl) (r.setTTL ttl)
  | emptied : Taken r .closeAll r.closeAll
  | closed {number ledger} (went : r.ledger.close number = some ledger) : Taken r (.close number) { r with ledger }

theorem optionsEqualIff {a b : Options} : optionsEqual a b = true ↔ a = b := by
  simp only [optionsEqual, Bool.and_eq_true, beq_iff_eq, and_assoc, Options.ext_iff]

theorem stepTaken {r t : Registry} {a : Action} (taken : step r a = some t) : Taken r a t := by
  cases a with
  | get key now =>
    simp only [step, Registry.get] at taken
    split at taken
    · cases taken
      exact .nothing
    · rename_i named
      split at taken
      · rename_i absent
        cases taken
        exact .made (.inl ⟨rfl,rfl⟩) named absent
      · rename_i found
        cases taken
        exact .used found
  | reconcile key opts now =>
    simp only [step, Registry.reconcile] at taken
    split at taken
    · cases taken
      exact .nothing
    · rename_i named
      split at taken
      · rename_i absent
        cases taken
        exact .made (.inr ⟨opts,rfl,rfl⟩) named absent
      · rename_i found
        split at taken
        · rename_i same
          cases taken
          exact .kept found (optionsEqualIff.mp same)
        · rename_i differs
          cases taken
          exact .replaced found (fun same => differs (optionsEqualIff.mpr same))
  | remove key now =>
    simp only [step, Registry.remove] at taken
    split at taken
    · cases taken
      exact .nothing
    · split at taken
      · cases taken
        exact .nothing
      · rename_i found
        cases taken
        exact .removed found
  | reap now =>
    cases taken
    exact .reaped
  | setTTL ttl =>
    cases taken
    exact .timed
  | closeAll =>
    cases taken
    exact .emptied
  | close number =>
    obtain ⟨ledger,went,rfl⟩ := Option.map_eq_some_iff.mp taken
    exact .closed went

end ReverseProxy.TransportRegistry
