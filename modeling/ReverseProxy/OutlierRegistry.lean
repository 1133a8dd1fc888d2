import Mathlib.Data.List.Induction
import ReverseProxy.FiniteMap
import ReverseProxy.PolicyBuild

/-! Package outlier: per-endpoint failure statistics and the registry that keeps
them by pool key. An entry is built only with endpoint windows and a latency loop
that fit its configuration. -/
namespace ReverseProxy.OutlierRegistry
open GoValues FiniteMap
open PolicyBuild (Outlier)

structure LatencyWindow where
  ring : List Int
  idx : Nat := 0
  count : Nat := 0
  nonempty : 0 < ring.length
  deriving DecidableEq, Repr

def windowSize (size : Int) : Nat := if size ≤ 0 then 1 else size.toNat

theorem windowSizePositive (size : Int) : 0 < windowSize size := by
  unfold windowSize
  split <;> omega

def newLatencyWindow (size : Int) : LatencyWindow :=
  { ring := List.replicate (windowSize size) 0
    nonempty := by simpa using windowSizePositive size }

structure EndpointState where
  ejectUntil : Int := 0
  consecutiveFails : Int := 0
  ejectCount : Int := 0
  lastEjectAt : Int := 0
  windowReq : Int := 0
  windowFail : Int := 0
  windowStart : Int := 0
  latencyBadIntervals : Int := 0
  latencyWindow : Option LatencyWindow := none
  deriving DecidableEq, Repr

namespace EndpointState

def fits (cfg : Outlier) (w : LatencyWindow) : Bool := (w.ring.length : Int) == cfg.latencyWindowSize

def updateConfig (e : EndpointState) (cfg : Outlier) : EndpointState :=
  if cfg.latencyEnabled then
    if e.latencyWindow.any (fits cfg) then e
    else { e with latencyWindow := some (newLatencyWindow cfg.latencyWindowSize) }
  else { e with latencyWindow := none, latencyBadIntervals := 0 }

def new (cfg : Outlier) : EndpointState := updateConfig {} cfg

def isEjected (e : EndpointState) (now : Int) : Bool :=
  decide (0 < e.ejectUntil) && decide (now < e.ejectUntil)

def Tuned (cfg : Outlier) (e : EndpointState) : Prop :=
  e.latencyWindow.map (fun w => w.ring.length) =
    if cfg.latencyEnabled then some (windowSize cfg.latencyWindowSize) else none

theorem updateTuned (cfg : Outlier) (e : EndpointState) : Tuned cfg (e.updateConfig cfg) := by
  unfold Tuned updateConfig
  by_cases enabled : cfg.latencyEnabled = true
  · simp only [enabled, if_true]
    split
    · rename_i fit
      cases window : e.latencyWindow with
      | none => simp [window] at fit
      | some w =>
        have length : (w.ring.length : Int) = cfg.latencyWindowSize := by simpa [window,fits] using fit
        simp only [Option.map_some, Option.some.injEq, windowSize]
        have positive := w.nonempty
        split <;> omega
    · simp [newLatencyWindow]
  · simp [enabled]

end EndpointState

def latencyLoop (cfg : Outlier) : Option Duration :=
  if cfg.enabled && cfg.latencyEnabled then
    some (if cfg.latencyEvalInterval ≤ 0 then second else cfg.latencyEvalInterval)
  else none

structure PoolEntry where
  config : Outlier
  endpoints : Map String EndpointState
  lastSeen : Int
  loop : Option Duration
  tuned : ∀ addr state, endpoints.get addr = some state → EndpointState.Tuned config state
  loopFits : loop = latencyLoop config

structure Registry where
  pools : Map String PoolEntry := Map.empty
  ttl : Duration := 30 * minute

def admitState (cfg : Outlier) (m : Map String EndpointState) (addr : String) : Map String EndpointState :=
  match m.get addr with
  | none => m.insert addr (EndpointState.new cfg)
  | some state => m.insert addr (state.updateConfig cfg)

def reconciled (cfg : Outlier) (endpoints : List String) (m : Map String EndpointState) :
    Map String EndpointState :=
  (endpoints.foldl (admitState cfg) m).keep (fun addr => decide (addr ∈ endpoints))

theorem admitSame (cfg : Outlier) (m : Map String EndpointState) (addr : String) :
    ∃ state, (admitState cfg m addr).get addr = some state ∧ EndpointState.Tuned cfg state := by
  unfold admitState
  split
  · exact ⟨_,Map.getInsertSame _ _ _,EndpointState.updateTuned cfg {}⟩
  · exact ⟨_,Map.getInsertSame _ _ _,EndpointState.updateTuned cfg _⟩

theorem admitOther (cfg : Outlier) (m : Map String EndpointState) {addr other : String} (different : other ≠ addr) :
    (admitState cfg m addr).get other = m.get other := by
  unfold admitState
  split <;> exact Map.getInsertOther _ _ different

theorem admittedState (cfg : Outlier) (endpoints : List String) (m : Map String EndpointState) (addr : String)
    (inside : addr ∈ endpoints) :
    ∃ state, (endpoints.foldl (admitState cfg) m).get addr = some state ∧ EndpointState.Tuned cfg state := by
  induction endpoints using List.reverseRecOn with
  | nil => simp at inside
  | append_singleton init last ih =>
    rw [List.foldl_append, List.foldl_cons, List.foldl_nil]
    by_cases same : addr = last
    · rw [same]
      exact admitSame cfg _ last
    · rw [admitOther cfg _ same]
      exact ih (by simpa [same] using inside)

theorem reconciledAddress (cfg : Outlier) (endpoints : List String) (m : Map String EndpointState)
    (addr : String) : ((reconciled cfg endpoints m).get addr).isSome = decide (addr ∈ endpoints) := by
  rw [reconciled, Map.getKeep]
  by_cases inside : addr ∈ endpoints
  · obtain ⟨state,found,-⟩ := admittedState cfg endpoints m addr inside
    simp [inside,found]
  · simp [inside]

theorem reconciledTuned {cfg : Outlier} {endpoints : List String} {m : Map String EndpointState} {addr state}
    (found : (reconciled cfg endpoints m).get addr = some state) : EndpointState.Tuned cfg state := by
  rw [reconciled, Map.getKeep] at found
  split at found <;> try contradiction
  rename_i inside
  obtain ⟨other,present,tuned⟩ := admittedState cfg endpoints m addr (by simpa using inside)
  rw [present] at found
  cases Option.some.inj found
  exact tuned

namespace Registry

def reconcile (r : Registry) (key : String) (endpoints : List String) (cfg : Outlier) (now : Int) : Registry :=
  if key = "" then r
  else
    let before := ((r.pools.get key).map PoolEntry.endpoints).getD Map.empty
    { r with
      pools := r.pools.insert key {
        config := cfg
        endpoints := reconciled cfg endpoints before
        lastSeen := now
        loop := latencyLoop cfg
        tuned := fun _ _ => reconciledTuned
        loopFits := rfl } }

def isEjected (r : Registry) (key addr : String) (now : Int) : Bool :=
  if key = "" ∨ addr = "" then false
  else match r.pools.get key with
    | none => false
    | some entry => entry.config.enabled && (entry.endpoints.get addr).any (fun e => e.isEjected now)

def watched (r : Registry) : Map String (Outlier × (String → Bool)) :=
  r.pools.mapValues (fun e => (e.config,fun addr => (e.endpoints.get addr).isSome))

theorem reconcileWatched (r : Registry) {key : String} (endpoints cfg now) (named : key ≠ "") :
    (r.reconcile key endpoints cfg now).watched =
      r.watched.insert key (cfg,fun addr => decide (addr ∈ endpoints)) := by
  apply Map.ext
  intro k
  simp only [reconcile, if_neg named, watched, Map.getMapValues, Map.getInsert]
  split
  · simp only [Option.map_some, reconciledAddress]
  · rfl

end Registry
end ReverseProxy.OutlierRegistry
