import ReverseProxy.CircuitBreaker
import ReverseProxy.FiniteMap

/-! Registry of package breaker: breakers by key, made on demand and reaped when idle.
The configuration a call brings is the one its breaker then has. -/
namespace ReverseProxy.BreakerRegistry
open GoValues FiniteMap CircuitBreaker
open PolicyBuild (Breaker)

structure Entry where
  breaker : Runtime
  config : Breaker
  lastSeen : Int
  deriving DecidableEq, Repr

structure Registry where
  breakers : Map String Entry := Map.empty
  ttl : Duration := 30 * minute

namespace Registry

def ensure (r : Registry) (key : String) (cfg : Breaker) (now : Int) : Entry :=
  match r.breakers.get key with
  | none => ⟨Runtime.new now,cfg,now⟩
  | some current => { current with lastSeen := now, config := cfg }

def allow (r : Registry) (key : String) (cfg : Breaker) (now : Int) : (State × Bool) × Registry :=
  if key = "" then ((.closed,true),r)
  else
    let entry := r.ensure key cfg now
    let answer := entry.breaker.allow entry.config now
    (answer.1,{ r with breakers := r.breakers.insert key { entry with breaker := answer.2 } })

def report (r : Registry) (key : String) (cfg : Breaker) (success : Bool) (now : Int) : Registry :=
  if key = "" then r
  else
    let entry := r.ensure key cfg now
    { r with breakers := r.breakers.insert key { entry with breaker := entry.breaker.report entry.config now success } }

def reapOnce (r : Registry) (now : Int) : Registry :=
  { r with breakers := fun key => (r.breakers.get key).filter (fun e => decide (now - r.ttl ≤ e.lastSeen)) }

def runtimes (r : Registry) : Map String Runtime := r.breakers.mapValues Entry.breaker

theorem ensureBreaker (r : Registry) (key : String) (cfg : Breaker) (now : Int) :
    (r.ensure key cfg now).breaker = (r.runtimes.get key).getD (Runtime.new now) ∧ (r.ensure key cfg now).config = cfg := by
  unfold ensure runtimes
  rw [Map.getMapValues]
  cases r.breakers.get key with
  | none => exact ⟨rfl,rfl⟩
  | some current => exact ⟨rfl,rfl⟩

theorem insertRuntimes (r : Registry) (key : String) (e : Entry) :
    ({ r with breakers := r.breakers.insert key e } : Registry).runtimes = r.runtimes.insert key e.breaker := by
  apply Map.ext
  intro x
  unfold runtimes
  rw [Map.getMapValues, Map.getInsert, Map.getInsert]
  split <;> rfl

theorem allowRuntimes (r : Registry) {key : String} (named : key ≠ "") (cfg : Breaker) (now : Int) :
    (r.allow key cfg now).1 = (((r.runtimes.get key).getD (Runtime.new now)).allow cfg now).1 ∧
      (r.allow key cfg now).2.runtimes =
        r.runtimes.insert key (((r.runtimes.get key).getD (Runtime.new now)).allow cfg now).2 := by
  obtain ⟨breaker,config⟩ := r.ensureBreaker key cfg now
  unfold allow
  rw [if_neg named]
  dsimp only
  rw [insertRuntimes, breaker, config]
  exact ⟨rfl,rfl⟩

theorem reportRuntimes (r : Registry) {key : String} (named : key ≠ "") (cfg : Breaker) (success : Bool) (now : Int) :
    (r.report key cfg success now).runtimes =
      r.runtimes.insert key (((r.runtimes.get key).getD (Runtime.new now)).report cfg now success) := by
  obtain ⟨breaker,config⟩ := r.ensureBreaker key cfg now
  unfold report
  rw [if_neg named, insertRuntimes, breaker, config]

theorem allowOther (r : Registry) {key other : String} (different : other ≠ key) (cfg : Breaker) (now : Int) :
    (r.allow key cfg now).2.breakers.get other = r.breakers.get other := by
  unfold allow
  split
  · rfl
  · exact Map.getInsertOther _ _ different

theorem reportOther (r : Registry) {key other : String} (different : other ≠ key) (cfg : Breaker) (success : Bool) (now : Int) :
    (r.report key cfg success now).breakers.get other = r.breakers.get other := by
  unfold report
  split
  · rfl
  · exact Map.getInsertOther _ _ different

theorem allowSame {r q : Registry} {key : String} (same : q.breakers.get key = r.breakers.get key) (cfg : Breaker) (now : Int) :
    (q.allow key cfg now).1 = (r.allow key cfg now).1 := by
  unfold allow ensure
  rw [same]
  split <;> rfl

end Registry
end ReverseProxy.BreakerRegistry
