import ReverseProxy.Doubling
import ReverseProxy.FiniteMap
import ReverseProxy.PolicyBuild

/-! Packages pool and registry: endpoints with their health, drain and inflight
state, the pools of a registry, and the operations config builds and requests
perform on them, each with nobody in between. Connection pools (package
transport) take no part in any decision here and are left out. -/
namespace ReverseProxy.PoolRegistry
open GoValues FiniteMap
open PolicyBuild (Health)

abbrev PoolKey := String

inductive EndpointState where
  | healthy
  | unhealthy
  | draining
  deriving DecidableEq, Repr

/- `active` is the configuration of the running probe loop; none once stopCh is nil. -/
structure EndpointRuntime where
  state : EndpointState := .healthy
  ejectUntil : Int := 0
  consecutiveActiveFails : Int := 0
  consecutiveActiveSuccess : Int := 0
  consecutivePassiveFails : Int := 0
  inflight : Int := 0
  ejectCount : Int := 0
  lastHealthyAt : Int := 0
  lastSeen : Int := 0
  drainUntil : Int := 0
  config : Health
  active : Option Health
  deriving DecidableEq, Repr

namespace EndpointRuntime

def startActive (cfg : Health) : Option Health := if cfg.interval ≤ 0 then none else some cfg

def new (cfg : Health) : EndpointRuntime := { config := cfg, active := startActive cfg }

def updateConfig (e : EndpointRuntime) (cfg : Health) : EndpointRuntime :=
  { e with config := cfg, active := startActive cfg }

def isDraining (e : EndpointRuntime) : Bool := e.state = .draining

def isHealthy (e : EndpointRuntime) : Bool := e.state = .healthy

def restore (e : EndpointRuntime) : EndpointRuntime :=
  if e.isDraining then
    { e with state := .healthy, drainUntil := 0, active := startActive e.config }
  else e

def markDraining (e : EndpointRuntime) (timeout : Duration) (now : Int) : EndpointRuntime :=
  if e.isDraining then e
  else { e with state := .draining, drainUntil := wrap64 (now + timeout), active := none }

def drainDeadlineReached (e : EndpointRuntime) (now : Int) : Bool :=
  decide (0 < e.drainUntil) && decide (e.drainUntil ≤ now)

def isEjected (e : EndpointRuntime) (now : Int) : Bool :=
  decide (0 < e.ejectUntil) && decide (now < e.ejectUntil)

def inflightInc (e : EndpointRuntime) : EndpointRuntime := { e with inflight := wrap64 (e.inflight + 1) }

def inflightDec (e : EndpointRuntime) : EndpointRuntime := { e with inflight := wrap64 (e.inflight - 1) }

def stop (e : EndpointRuntime) : EndpointRuntime := { e with active := none }

def markHealthy (e : EndpointRuntime) (now : Int) : EndpointRuntime :=
  { e with
    state := .healthy
    ejectUntil := 0
    consecutivePassiveFails := 0
    consecutiveActiveFails := 0
    lastHealthyAt := now }

def eject (e : EndpointRuntime) (cfg : Health) (now : Int) : EndpointRuntime :=
  let base := if cfg.baseEjectDuration ≤ 0 then second else cfg.baseEjectDuration
  let max := if cfg.maxEjectDuration ≤ 0 then base else cfg.maxEjectDuration
  let earlier := if 0 < e.lastHealthyAt ∧ 5 * minute < now - e.lastHealthyAt then 0 else e.ejectCount
  let count := wrap32 (earlier + 1)
  let duration := Doubling.climb max (count - 1).toNat base
  { e with
    state := .unhealthy
    ejectCount := count
    ejectUntil := wrap64 (now + (if max < duration then max else duration)) }

def recordActiveSuccess (e : EndpointRuntime) (now : Int) : EndpointRuntime :=
  if e.isDraining then e
  else
    let e := { e with
      consecutiveActiveSuccess := wrap32 (e.consecutiveActiveSuccess + 1), consecutiveActiveFails := 0 }
    if 0 < e.config.healthyAfterSuccesses ∧ e.config.healthyAfterSuccesses ≤ e.consecutiveActiveSuccess then
      e.markHealthy now
    else e

def recordActiveFailure (e : EndpointRuntime) (now : Int) : EndpointRuntime :=
  if e.isDraining then e
  else
    let e := { e with
      consecutiveActiveFails := wrap32 (e.consecutiveActiveFails + 1), consecutiveActiveSuccess := 0 }
    if 0 < e.config.unhealthyAfterFailures ∧ e.config.unhealthyAfterFailures ≤ e.consecutiveActiveFails then
      e.eject e.config now
    else e

def recordPassiveSuccess (e : EndpointRuntime) : EndpointRuntime := { e with consecutivePassiveFails := 0 }

def recordPassiveFailure (e : EndpointRuntime) (now : Int) : EndpointRuntime :=
  if e.isDraining then e
  else
    let e := { e with consecutivePassiveFails := wrap32 (e.consecutivePassiveFails + 1) }
    if 0 < e.config.unhealthyAfterFailures ∧ e.config.unhealthyAfterFailures ≤ e.consecutivePassiveFails then
      e.eject e.config now
    else e

@[simp] theorem newDraining (cfg) : (new cfg).isDraining = false := rfl

@[simp] theorem restoreDraining (e : EndpointRuntime) : e.restore.isDraining = false := by
  unfold restore
  split
  · rfl
  · rename_i active
    simpa using active

@[simp] theorem markDrainingDraining (e : EndpointRuntime) (timeout now) :
    (e.markDraining timeout now).isDraining = true := by
  unfold markDraining
  split
  · assumption
  · rfl

end EndpointRuntime

structure PoolRuntime where
  healthConfig : Health
  endpoints : Map String EndpointRuntime := Map.empty
  order : List String := []
  rr : Nat := 0
  drainTimeout : Duration

structure PickResult where
  addr : String := ""
  selectedHealthy : Bool := false
  selectedFailOpen : Bool := false
  outlierIgnored : Bool := false
  endpointEjected : Bool := false
  deriving DecidableEq, Repr

namespace PoolRuntime

def new (cfg : Health) (drainTimeout : Duration) : PoolRuntime :=
  { healthConfig := cfg, drainTimeout := drainTimeout }

def admitEndpoint (cfg : Health) (m : Map String EndpointRuntime) (addr : String) :
    Map String EndpointRuntime :=
  match m.get addr with
  | some e => m.insert addr (e.updateConfig cfg).restore
  | none => m.insert addr (EndpointRuntime.new cfg)

def drainOthers (endpoints : List String) (timeout : Duration) (now : Int)
    (m : Map String EndpointRuntime) : Map String EndpointRuntime :=
  fun addr => (m.get addr).map (fun e => if addr ∈ endpoints then e else e.markDraining timeout now)

def reconcile (p : PoolRuntime) (endpoints : List String) (cfg : Health) (drainTimeout : Duration)
    (now : Int) : PoolRuntime :=
  { p with
    healthConfig := cfg
    drainTimeout := drainTimeout
    order := endpoints
    endpoints := drainOthers endpoints drainTimeout now (endpoints.foldl (admitEndpoint cfg) p.endpoints) }

/- Deleting while ranging over the map: each endpoint is judged on its own. -/
def reap (p : PoolRuntime) (now : Int) : PoolRuntime :=
  { p with endpoints := fun addr => match p.endpoints.get addr with
    | none => none
    | some e =>
      if e.isDraining && e.drainDeadlineReached now && e.inflight == 0 then none else some e }

def stop (p : PoolRuntime) : PoolRuntime := { p with endpoints := Map.empty, order := [] }

/- `scan` is the enumeration a range over p.endpoints would produce; it is read
when no ordered endpoint is left. -/
def candidates (p : PoolRuntime) (scan : List String) : List (String × EndpointRuntime) :=
  let ordered := p.order.filterMap (fun addr => (p.endpoints.get addr).map (addr,·))
  if ordered = [] then scan.filterMap (fun addr => (p.endpoints.get addr).map (addr,·)) else ordered

def pickFrom (p : PoolRuntime) (from_ : List (String × EndpointRuntime)) : Option (String × EndpointRuntime) :=
  from_[p.rr % 2^64 % from_.length]?

def eligible (outlierEjected : String → Bool) (now : Int) (e : String × EndpointRuntime) : Bool :=
  e.2.isHealthy && !e.2.isDraining && !e.2.isEjected now && !outlierEjected e.1

def suppressed (outlierEjected : String → Bool) (now : Int) (e : String × EndpointRuntime) : Bool :=
  e.2.isHealthy && !e.2.isEjected now && !e.2.isDraining && outlierEjected e.1

def failOpen (outlierEjected : String → Bool) (now : Int) (all : List (String × EndpointRuntime))
    (picked : String × EndpointRuntime) : PickResult :=
  { addr := picked.1
    selectedFailOpen := true
    outlierIgnored := all.any (suppressed outlierEjected now)
    endpointEjected := !picked.2.isHealthy || picked.2.isEjected now || outlierEjected picked.1 }

def markSeen (p : PoolRuntime) (addr : String) (now : Int) : PoolRuntime :=
  { p with
    rr := p.rr + 1
    endpoints := match p.endpoints.get addr with
      | some e => p.endpoints.insert addr { e with lastSeen := now }
      | none => p.endpoints }

def pick (p : PoolRuntime) (scan : List String) (outlierEjected : String → Bool) (now : Int) :
    PickResult × PoolRuntime :=
  let all := p.candidates scan
  let healthy := all.filter (eligible outlierEjected now)
  let nonDraining := all.filter (fun e => !e.2.isDraining)
  if healthy ≠ [] then
    match p.pickFrom healthy with
    | none => ({},p)
    | some picked => ({ addr := picked.1, selectedHealthy := true },p.markSeen picked.1 now)
  else
    match p.pickFrom (if nonDraining ≠ [] then nonDraining else all) with
    | none => ({},p)
    | some picked => (failOpen outlierEjected now all picked,p.markSeen picked.1 now)

def shape (p : PoolRuntime) : Map String Bool := p.endpoints.mapValues EndpointRuntime.isDraining

end PoolRuntime

def reconcileShape (s : Map String Bool) (endpoints : List String) : Map String Bool :=
  fun addr => if addr ∈ endpoints then some false else (s.get addr).map (fun _ => true)

theorem admittedSeen {α : Type} (see : EndpointRuntime → α) {v : α} {cfg : Health} (fresh : see (.new cfg) = v)
    (updated : ∀ e : EndpointRuntime, see (e.updateConfig cfg).restore = v) (endpoints : List String)
    (m : Map String EndpointRuntime) (addr : String) :
    ((endpoints.foldl (PoolRuntime.admitEndpoint cfg) m).get addr).map see =
      if addr ∈ endpoints then some v else (m.get addr).map see := by
  induction endpoints generalizing m with
  | nil => simp
  | cons head rest ih =>
    have first : ((PoolRuntime.admitEndpoint cfg m head).get addr).map see =
        if addr = head then some v else (m.get addr).map see := by
      unfold PoolRuntime.admitEndpoint
      cases m.get head <;> rw [Map.getInsert] <;> split <;> simp [fresh,updated]
    rw [List.foldl_cons, ih, first]
    by_cases later : addr ∈ rest <;> by_cases now : addr = head <;> simp [later,now]

theorem admitted (cfg : Health) (endpoints : List String) (m : Map String EndpointRuntime) (addr : String) :
    ((endpoints.foldl (PoolRuntime.admitEndpoint cfg) m).get addr).map EndpointRuntime.isDraining =
      if addr ∈ endpoints then some false else (m.get addr).map EndpointRuntime.isDraining :=
  admittedSeen _ rfl (fun e => (e.updateConfig cfg).restoreDraining) endpoints m addr

theorem admittedActive (cfg : Health) (endpoints : List String) (m : Map String EndpointRuntime) (addr : String) :
    ((endpoints.foldl (PoolRuntime.admitEndpoint cfg) m).get addr).map EndpointRuntime.active =
      if addr ∈ endpoints then some (EndpointRuntime.startActive cfg) else (m.get addr).map EndpointRuntime.active := by
  refine admittedSeen _ rfl (fun e => ?_) endpoints m addr
  unfold EndpointRuntime.restore
  split <;> rfl

theorem reconciledShape (p : PoolRuntime) (endpoints cfg drainTimeout now) :
    (p.reconcile endpoints cfg drainTimeout now).shape = reconcileShape p.shape endpoints := by
  apply Map.ext
  intro addr
  have seen := admitted cfg endpoints p.endpoints addr
  change ((endpoints.foldl (PoolRuntime.admitEndpoint cfg) p.endpoints).get addr |>.map _ |>.map _) = _
  change _ = if addr ∈ endpoints then some false else ((p.endpoints.get addr).map _).map _
  by_cases inside : addr ∈ endpoints
  · simpa [inside] using seen
  · simp only [inside, if_false] at seen ⊢
    cases before : (endpoints.foldl (PoolRuntime.admitEndpoint cfg) p.endpoints).get addr <;>
      cases old : p.endpoints.get addr <;> simp_all

def Settled (s : Map String Bool) (endpoints : List String) : Prop :=
  (∀ addr ∈ endpoints, s.get addr = some false) ∧ ∀ addr, addr ∉ endpoints → s.get addr ≠ some false

theorem reconcileShapeSame {s : Map String Bool} {endpoints : List String} :
    reconcileShape s endpoints = s ↔ Settled s endpoints := by
  constructor
  · intro same
    refine ⟨?_,?_⟩
    · intro addr inside
      rw [← same]
      exact if_pos inside
    · intro addr outside active
      have h : (reconcileShape s endpoints).get addr = some false := by rw [same]; exact active
      simp [reconcileShape,Map.get,outside] at h
  · rintro ⟨active,rest⟩
    apply Map.ext
    intro addr
    by_cases inside : addr ∈ endpoints
    · rw [active addr inside]
      exact if_pos inside
    · have h := rest addr inside
      change (if addr ∈ endpoints then _ else _) = _
      rw [if_neg inside]
      cases found : s.get addr with
      | none => rfl
      | some draining => cases draining <;> simp_all

theorem reconcileSettles (s : Map String Bool) (endpoints : List String) :
    Settled (reconcileShape s endpoints) endpoints := by
  refine ⟨fun addr inside => if_pos inside,?_⟩
  intro addr outside active
  change (if addr ∈ endpoints then _ else _) = _ at active
  rw [if_neg outside] at active
  cases found : s.get addr <;> simp [found] at active

structure Registry where
  pools : Map PoolKey PoolRuntime := Map.empty
  drainTimeout : Duration := 200 * millisecond

namespace Registry

/- The part of Reconcile under the registry's lock. -/
def enter (r : Registry) (key : PoolKey) (cfg : Health) : Registry :=
  match r.pools.get key with
  | some _ => r
  | none => { r with pools := r.pools.insert key (PoolRuntime.new cfg r.drainTimeout) }

/- The part under the pool's lock, for a pool that is still registered. -/
def settle (r : Registry) (key : PoolKey) (endpoints : List String) (cfg : Health) (now : Int) : Registry :=
  { r with pools := r.pools.adjust key (fun p => p.reconcile endpoints cfg r.drainTimeout now) }

/- Reconcile with nobody in between. -/
def reconcile (r : Registry) (key : PoolKey) (endpoints : List String) (cfg : Health) (now : Int) : Registry :=
  let pool := (r.pools.get key).getD (PoolRuntime.new cfg r.drainTimeout)
  { r with pools := r.pools.insert key (pool.reconcile endpoints cfg r.drainTimeout now) }

def prunePools (r : Registry) (desired : List PoolKey) : Registry :=
  { r with pools := r.pools.keep (fun key => decide (key ∈ desired)) }

def reapPool (r : Registry) (key : PoolKey) (now : Int) : Registry :=
  { r with pools := r.pools.adjust key (fun p => p.reap now) }

def reapOnce (r : Registry) (now : Int) : Registry :=
  { r with pools := r.pools.mapValues (fun p => p.reap now) }

/- Registry.endpoint finds the runtime a per-endpoint report is about; a report
about an address that is gone is dropped. -/
def onEndpoint (r : Registry) (key : PoolKey) (addr : String) (f : EndpointRuntime → EndpointRuntime) :
    Registry :=
  match r.pools.get key with
  | none => r
  | some p =>
    match p.endpoints.get addr with
    | none => r
    | some e => { r with pools := r.pools.insert key { p with endpoints := p.endpoints.insert addr (f e) } }

def stopPool (r : Registry) (key : PoolKey) : Registry := { r with pools := r.pools.adjust key PoolRuntime.stop }

def inflightStart (r : Registry) (key : PoolKey) (addr : String) : Registry :=
  r.onEndpoint key addr EndpointRuntime.inflightInc

def inflightDone (r : Registry) (key : PoolKey) (addr : String) : Registry :=
  r.onEndpoint key addr EndpointRuntime.inflightDec

def passiveFailure (r : Registry) (key : PoolKey) (addr : String) (now : Int) : Registry :=
  r.onEndpoint key addr (fun e => e.recordPassiveFailure now)

def passiveSuccess (r : Registry) (key : PoolKey) (addr : String) : Registry :=
  r.onEndpoint key addr EndpointRuntime.recordPassiveSuccess

def hasEndpoint (r : Registry) (key : PoolKey) (addr : String) : Bool :=
  ((r.pools.get key).bind (fun p => p.endpoints.get addr)).isSome

/- Registry.Pick answers false for a pool that is not there. -/
def pick (r : Registry) (key : PoolKey) (scan : List String) (outlierEjected : String → Bool) (now : Int) :
    Option PickResult × Registry :=
  match r.pools.get key with
  | none => (none,r)
  | some p =>
    let (result,p) := p.pick scan outlierEjected now
    (some result,{ r with pools := r.pools.insert key p })

def shape (r : Registry) : Map PoolKey (Map String Bool) := r.pools.mapValues PoolRuntime.shape

theorem settleFound {r : Registry} {key : PoolKey} {p : PoolRuntime} (found : r.pools.get key = some p)
    (endpoints : List String) (cfg : Health) (now : Int) :
    r.settle key endpoints cfg now = r.reconcile key endpoints cfg now := by
  have same : r.pools.adjust key (fun p => p.reconcile endpoints cfg r.drainTimeout now) =
      r.pools.insert key (p.reconcile endpoints cfg r.drainTimeout now) := by
    apply Map.ext
    intro k
    rw [Map.getAdjust, Map.getInsert]
    split
    · rename_i here
      rw [here,found]
      rfl
    · rfl
  simp only [settle, reconcile, same, found, Option.getD_some]

theorem enterFound (r : Registry) (key : PoolKey) (cfg : Health) : ∃ p, (r.enter key cfg).pools.get key = some p := by
  unfold enter
  cases found : r.pools.get key with
  | none => exact ⟨_,Map.getInsertSame _ _ _⟩
  | some p => exact ⟨p,found⟩

theorem reconcileEntered (r : Registry) (key : PoolKey) (endpoints : List String) (cfg : Health) (now : Int) :
    (r.enter key cfg).reconcile key endpoints cfg now = r.reconcile key endpoints cfg now := by
  unfold enter
  cases found : r.pools.get key with
  | some p => rfl
  | none =>
    simp only [reconcile, found, Map.getInsertSame, Option.getD_some, Option.getD_none, Registry.mk.injEq, and_true]
    apply Map.ext
    intro k
    simp only [Map.getInsert]
    split <;> rfl

theorem reconciled (r : Registry) (key endpoints cfg now) :
    (r.reconcile key endpoints cfg now).shape =
      r.shape.insert key (reconcileShape ((r.shape.get key).getD Map.empty) endpoints) := by
  apply Map.ext
  intro k
  simp only [reconcile, shape, Map.getMapValues, Map.getInsert]
  split
  · simp only [Option.map_some, reconciledShape]
    cases r.pools.get key <;> rfl
  · rfl

theorem pruned (r : Registry) (desired) :
    (r.prunePools desired).shape = r.shape.keep (fun key => decide (key ∈ desired)) := by
  apply Map.ext
  intro k
  simp only [prunePools, shape, Map.getMapValues, Map.getKeep]
  split <;> simp

def probe (r : Registry) (key : PoolKey) (addr : String) : Option Health :=
  (r.pools.get key).bind (fun p => (p.endpoints.get addr).bind EndpointRuntime.active)

theorem probeReconciled (r : Registry) (key : PoolKey) (endpoints : List String) (cfg : Health) (now : Int) (addr : String) :
    (r.reconcile key endpoints cfg now).probe key addr =
      ((endpoints.foldl (PoolRuntime.admitEndpoint cfg)
        ((r.pools.get key).getD (PoolRuntime.new cfg r.drainTimeout)).endpoints).get addr).bind
          (fun e => if addr ∈ endpoints then e.active else (e.markDraining r.drainTimeout now).active) := by
  unfold probe reconcile PoolRuntime.reconcile PoolRuntime.drainOthers
  rw [Map.getInsertSame,Option.bind_some]
  change ((Map.get _ addr).map _).bind _ = _
  rw [Option.bind_map]
  congr 1
  funext e
  change (if addr ∈ endpoints then e else e.markDraining r.drainTimeout now).active = _
  split <;> rfl

theorem probeListed (r : Registry) (key : PoolKey) {endpoints : List String} {addr : String} (listed : addr ∈ endpoints)
    (cfg : Health) (now : Int) : (r.reconcile key endpoints cfg now).probe key addr = EndpointRuntime.startActive cfg := by
  have admits := admittedActive cfg endpoints ((r.pools.get key).getD (PoolRuntime.new cfg r.drainTimeout)).endpoints addr
  rw [if_pos listed] at admits
  rw [probeReconciled]
  obtain ⟨e,found,active⟩ := Option.map_eq_some_iff.mp admits
  simp [found,listed,active]

theorem probeUnlisted (r : Registry) (key : PoolKey) {endpoints : List String} {addr : String} (unlisted : addr ∉ endpoints)
    (cfg : Health) (now : Int) (probes : ((r.reconcile key endpoints cfg now).probe key addr).isSome = true) :
    (r.probe key addr).isSome = true := by
  have admits := admittedActive cfg endpoints ((r.pools.get key).getD (PoolRuntime.new cfg r.drainTimeout)).endpoints addr
  rw [if_neg unlisted] at admits
  rw [probeReconciled] at probes
  simp only [unlisted, if_false] at probes
  cases found : (endpoints.foldl (PoolRuntime.admitEndpoint cfg)
      ((r.pools.get key).getD (PoolRuntime.new cfg r.drainTimeout)).endpoints).get addr with
  | none => simp [found] at probes
  | some e =>
    have active : (e.markDraining r.drainTimeout now).active.isSome = true := by simpa [found] using probes
    have own : e.active.isSome = true := by
      unfold EndpointRuntime.markDraining at active
      split at active
      · exact active
      · cases active
    rw [found] at admits
    cases pool : r.pools.get key with
    | none => simp [pool,PoolRuntime.new] at admits
    | some p =>
      obtain ⟨before,there,same⟩ := Option.map_eq_some_iff.mp (by simpa [pool] using admits.symm)
      simp [probe,pool,there,same,own]

theorem probeOther (r : Registry) {key k : PoolKey} (other : k ≠ key) (endpoints : List String) (cfg : Health) (now : Int)
    (addr : String) : (r.reconcile key endpoints cfg now).probe k addr = r.probe k addr := by
  simp only [probe, reconcile, Map.getInsertOther _ _ other]

theorem probePruned (r : Registry) (desired : List PoolKey) (key : PoolKey) (addr : String) :
    (r.prunePools desired).probe key addr = if key ∈ desired then r.probe key addr else none := by
  simp only [probe, prunePools, Map.getKeep, decide_eq_true_eq]
  split <;> rfl

end Registry
end ReverseProxy.PoolRegistry
