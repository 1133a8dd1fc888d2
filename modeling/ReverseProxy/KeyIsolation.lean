import ReverseProxy.ApplyManager
import ReverseProxy.BreakerRegistry
import ReverseProxy.ListText
import ReverseProxy.OutlierDetection
import ReverseProxy.RequestFlow
import ReverseProxy.SnapshotBuild

/-! Breakers and outlier statistics are kept under routeID + "::" + pool. What the
requests of one route do to them cannot be seen under another key, and when two
routes of an accepted configuration share a key. -/
namespace ReverseProxy.KeyIsolation
open GoValues FiniteMap ConfigData PolicyBuild SnapshotBuild CallScript

structure Guards where
  breakers : BreakerRegistry.Registry := {}
  outliers : OutlierRegistry.Registry := {}

inductive Op where
  | allow (key : String) (cfg : Breaker) (now : Int)
  | report (key : String) (cfg : Breaker) (success : Bool) (now : Int)
  | record (key addr : String) (success : Bool) (latency now : Int)
  | askEjected (key addr : String) (now : Int)
  | evaluateLatency (key : String) (order : List String) (now : Int)

def Op.key : Op → String
  | .allow key _ _ => key
  | .report key _ _ _ => key
  | .record key _ _ _ _ => key
  | .askEjected key _ _ => key
  | .evaluateLatency key _ _ => key

def perform (g : Guards) : Op → Guards
  | .allow key cfg now => { g with breakers := (g.breakers.allow key cfg now).2 }
  | .report key cfg success now => { g with breakers := g.breakers.report key cfg success now }
  | .record key addr success latency now => { g with outliers := (OutlierDetection.record g.outliers key addr success latency now).2 }
  | .askEjected key addr now => { g with outliers := (OutlierDetection.askEjected g.outliers key addr now).2 }
  | .evaluateLatency key order now => { g with outliers := OutlierDetection.evaluateLatency g.outliers key order now }

def allowed (g : Guards) (key : String) (cfg : Breaker) (now : Int) : CircuitBreaker.State × Bool :=
  (g.breakers.allow key cfg now).1

def ejected (g : Guards) (key addr : String) (now : Int) : Bool := (OutlierDetection.askEjected g.outliers key addr now).1

def SameAt (key : String) (g h : Guards) : Prop :=
  h.breakers.breakers.get key = g.breakers.breakers.get key ∧ h.outliers.pools.get key = g.outliers.pools.get key

theorem SameAt.answers {key : String} {g h : Guards} (same : SameAt key g h) :
    (∀ cfg now, allowed h key cfg now = allowed g key cfg now) ∧ ∀ addr now, ejected h key addr now = ejected g key addr now := by
  refine ⟨BreakerRegistry.Registry.allowSame same.1,?_⟩
  intro addr now
  unfold ejected OutlierDetection.askEjected OutlierRegistry.Registry.isEjected
  rw [same.2]

theorem performOther (g : Guards) (op : Op) {other : String} (different : other ≠ op.key) : SameAt other g (perform g op) := by
  cases op with
  | allow key cfg now => exact ⟨g.breakers.allowOther different cfg now,rfl⟩
  | report key cfg success now => exact ⟨g.breakers.reportOther different cfg success now,rfl⟩
  | record key addr success latency now =>
    exact ⟨rfl,OutlierDetection.recordOther g.outliers different addr success latency now⟩
  | askEjected key addr now => exact ⟨rfl,OutlierDetection.askEjectedOther g.outliers different addr now⟩
  | evaluateLatency key order now => exact ⟨rfl,OutlierDetection.evaluateLatencyOther g.outliers different order now⟩

theorem performAllOther (g : Guards) {ops : List Op} {other : String} (different : ∀ op ∈ ops, other ≠ op.key) :
    SameAt other g (ops.foldl perform g) := by
  induction ops generalizing g with
  | nil => exact ⟨rfl,rfl⟩
  | cons op rest ih =>
    have first := performOther g op (different op List.mem_cons_self)
    have later := ih (perform g op) (fun op inside => different op (List.mem_cons_of_mem _ inside))
    exact ⟨later.1.trans first.1,later.2.trans first.2⟩

def poolsOf (route : Route) : List String :=
  if route.policy.traffic.enabled then
    trimSpace route.policy.traffic.stablePool ::
      (if trimSpace route.policy.traffic.canaryPool = "" then [] else [trimSpace route.policy.traffic.canaryPool])
  else [route.pool]

def keysOf (route : CompiledRoute) : List String :=
  route.stablePoolKey :: (if route.canaryPoolKey = "" then [] else [route.canaryPoolKey])

theorem compiledKeys {runes : RuneTables} {route : Route} {choice : TrafficChoice} (policy : Policy)
    (ok : trafficConfigFromRoute route.id route.policy.traffic = .ok choice) :
    keysOf (compiledRoute runes route policy choice) = (poolsOf route).map (routePoolKey route.id) := by
  obtain ⟨enabled,-,pools⟩ := trafficConfigOk ok
  cases on : route.policy.traffic.enabled with
  | false => simp [keysOf,poolsOf,compiledRoute,enabled,on]
  | true =>
    obtain ⟨stable,canary⟩ := pools on
    by_cases none : trimSpace route.policy.traffic.canaryPool = ""
    · simp [keysOf,poolsOf,compiledRoute,enabled,on,stable,canary,none]
    · simp [keysOf,poolsOf,compiledRoute,enabled,on,stable,canary,none,routePoolKeyNamed]

theorem builtKeys {platform : Platform} {cfg : Config} {order : List (String × Pool)} {compiled : Compiled}
    (builds : Builds platform cfg order compiled) :
    compiled.routes.map (fun r => (r.id,keysOf r)) =
      (items cfg.routes).map (fun route => (route.id,(poolsOf route).map (routePoolKey route.id))) := by
  obtain ⟨turns,routes,rows,-,went⟩ := buildRoutesOk builds.routed
  rw [← routes, ← rows, List.map_map, List.map_map]
  apply List.map_congr_left
  intro t inside
  obtain ⟨seen,names,later,checked⟩ := went t inside
  exact congrArg (t.route.id,·) (compiledKeys t.policy checked.traffic)

/- The second route's id goes on where the first one's pool would: it continues the
first id by the separator and the start of the pool's name, or by one of its colons. -/
def Overlaps (id pool id' pool' : String) : Prop :=
  (∃ v, id' = id ++ "::" ++ v ∧ pool = v ++ "::" ++ pool') ∨ (id' = id ++ ":" ∧ pool = ":" ++ pool')

theorem joinedText (a b : String) : (a ++ "::" ++ b).toList = a.toList ++ ':' :: ':' :: b.toList := by
  have colons : "::".toList = [':',':'] := rfl
  rw [String.toList_append, String.toList_append, colons]
  simp

theorem overlapsText {id pool id' pool' : String} :
    Overlaps id pool id' pool' ↔
      (∃ v, id'.toList = id.toList ++ ':' :: ':' :: v ∧ pool.toList = v ++ ':' :: ':' :: pool'.toList) ∨
        (id'.toList = id.toList ++ [':'] ∧ pool.toList = ':' :: pool'.toList) := by
  have colon : ":".toList = [':'] := rfl
  refine or_congr ?_ ?_
  · constructor
    · rintro ⟨v,rfl,rfl⟩
      exact ⟨v.toList,joinedText id v,joinedText v pool'⟩
    · rintro ⟨v,first,second⟩
      rw [← String.toList_ofList (l := v), ← joinedText] at first second
      exact ⟨String.ofList v,String.toList_inj.mp first,String.toList_inj.mp second⟩
  · rw [← String.toList_inj, ← String.toList_inj, String.toList_append, String.toList_append, colon]
    rfl

theorem sharedKey {id pool id' pool' : String} :
    routePoolKey id pool = routePoolKey id' pool' ↔
      (id = id' ∧ pool = pool') ∨ Overlaps id pool id' pool' ∨ Overlaps id' pool' id pool := by
  unfold routePoolKey
  rw [← String.toList_inj, joinedText, joinedText, ListText.doubleMark, overlapsText, overlapsText, String.toList_inj,
    String.toList_inj]

theorem Overlaps.distinct {id pool id' pool' : String} (overlaps : Overlaps id pool id' pool') : id ≠ id' := by
  rintro rfl
  rcases overlapsText.mp overlaps with ⟨v,longer,-⟩ | ⟨longer,-⟩
  · have length := congrArg List.length longer
    simp at length
  · have length := congrArg List.length longer
    simp at length

theorem Overlaps.colon {id pool id' pool' : String} (overlaps : Overlaps id pool id' pool') : ':' ∈ id'.toList := by
  rcases overlapsText.mp overlaps with ⟨v,longer,-⟩ | ⟨longer,-⟩
  · simp [longer]
  · simp [longer]

structure Apart (a b : CompiledRoute) : Prop where
  keys : ∀ k ∈ keysOf a, ∀ l ∈ keysOf b, k ≠ l
  answers : ∀ (g : Guards) (ops : List Op), (∀ op ∈ ops, op.key ∈ keysOf a) → ∀ l ∈ keysOf b,
    (∀ cfg now, allowed (ops.foldl perform g) l cfg now = allowed g l cfg now) ∧
      ∀ addr now, ejected (ops.foldl perform g) l addr now = ejected g l addr now

theorem apartIff {a b : CompiledRoute} : Apart a b ↔ ∀ k ∈ keysOf a, ∀ l ∈ keysOf b, k ≠ l := by
  constructor
  · exact Apart.keys
  · intro keys
    refine ⟨keys,?_⟩
    intro g ops own l inside
    exact (performAllOther g (fun op member => (keys op.key (own op member) l inside).symm)).answers

theorem routesApart {platform : Platform} {cfg : Config} {range : cfg.pools.Range} {compiled : Compiled}
    (built : (buildSnapshot platform cfg range).result = .ok compiled) :
    (∀ a ∈ compiled.routes, ∀ b ∈ compiled.routes, a.id ≠ b.id → Apart a b) ↔
      ∀ a ∈ items cfg.routes, ∀ b ∈ items cfg.routes, ∀ p ∈ poolsOf a, ∀ q ∈ poolsOf b, ¬Overlaps a.id p b.id q := by
  have rows := builtKeys (buildSnapshotOk.mp built)
  constructor
  · intro apart a inA b inB p ofA q ofB overlaps
    obtain ⟨ra,memberA,sameA⟩ := List.mem_map.mp (rows ▸ List.mem_map_of_mem inA)
    obtain ⟨rb,memberB,sameB⟩ := List.mem_map.mp (rows ▸ List.mem_map_of_mem inB)
    obtain ⟨idA,keysA⟩ := Prod.mk.inj sameA
    obtain ⟨idB,keysB⟩ := Prod.mk.inj sameB
    have distinct : ra.id ≠ rb.id := by
      rw [idA,idB]
      exact overlaps.distinct
    refine (apart ra memberA rb memberB distinct).keys (routePoolKey a.id p) ?_ (routePoolKey b.id q) ?_ ?_
    · rw [keysA]
      exact List.mem_map_of_mem ofA
    · rw [keysB]
      exact List.mem_map_of_mem ofB
    · exact sharedKey.mpr (.inr (.inl overlaps))
  · intro none a inA b inB distinct
    obtain ⟨ca,memberA,sameA⟩ := List.mem_map.mp (rows ▸ List.mem_map_of_mem inA)
    obtain ⟨cb,memberB,sameB⟩ := List.mem_map.mp (rows ▸ List.mem_map_of_mem inB)
    obtain ⟨idA,keysA⟩ := Prod.mk.inj sameA
    obtain ⟨idB,keysB⟩ := Prod.mk.inj sameB
    rw [apartIff, ← keysA, ← keysB]
    intro k ofA l ofB same
    obtain ⟨p,inside,rfl⟩ := List.mem_map.mp ofA
    obtain ⟨q,within,rfl⟩ := List.mem_map.mp ofB
    rcases sharedKey.mp same with ⟨ids,-⟩ | overlaps | overlaps
    · exact distinct (by rw [← idA, ← idB, ids])
    · exact none ca memberA cb memberB p inside q within overlaps
    · exact none cb memberB ca memberA q within p inside overlaps

theorem admitStepRegistry {s : RequestFlow.Serving} {r : BreakerRegistry.Registry} (same : s.breakers = r.runtimes)
    (p : RequestFlow.Process) (now : Int) :
    (RequestFlow.admitStep s p now).2.breakers = (r.allow p.exchange.breakerKey p.exchange.breaker now).2.runtimes := by
  unfold RequestFlow.admitStep
  by_cases unnamed : p.exchange.breakerKey = ""
  · rw [if_pos unnamed, BreakerRegistry.Registry.allow, if_pos unnamed]
    exact same
  · rw [if_neg unnamed, (r.allowRuntimes unnamed _ _).2, ← same]
    dsimp only
    split <;> rfl

theorem reportAttemptRegistry {s : RequestFlow.Serving} {r : BreakerRegistry.Registry} (same : s.breakers = r.runtimes)
    (x : RequestFlow.Exchange) {a : RequestFlow.Attempt} {success : Bool} (reported : RequestFlow.reported a.outcome = some success) :
    (RequestFlow.reportAttempt s x a).breakers = (r.report x.breakerKey x.breaker success a.now).runtimes := by
  unfold RequestFlow.reportAttempt
  rw [reported]
  by_cases unnamed : x.breakerKey = ""
  · simp only [unnamed, if_true, BreakerRegistry.Registry.report]
    exact same
  · rw [r.reportRuntimes unnamed, ← same]
    simp only [if_neg unnamed]
    rfl

def touchyPool : Pool := { endpoints := some ["10.0.0.1:80"], breaker := { enabled := true, minimumRequests := 1 } }

def twoRoutes (first pool second pool' : String) : Config where
  routes := some [{ id := first, host := "h", pathPrefix := "/x", pool := pool },
    { id := second, host := "h", pathPrefix := "/y", pool := pool' }]
  pools := (PoolMap.single pool touchyPool).set pool' touchyPool

theorem plainIdsApart :
    ∃ compiled, (buildSnapshot (ApplyManager.decoding {}) (twoRoutes "a" "p" "b" "q")
        (twoRoutes "a" "p" "b" "q").pools.inOrder).result = .ok compiled ∧
      ∀ a ∈ compiled.routes, ∀ b ∈ compiled.routes, a.id ≠ b.id → Apart a b := by
  obtain ⟨compiled,built⟩ : ∃ compiled, (buildSnapshot (ApplyManager.decoding {}) (twoRoutes "a" "p" "b" "q")
      (twoRoutes "a" "p" "b" "q").pools.inOrder).result = .ok compiled := ⟨_,rfl⟩
  refine ⟨compiled,built,(routesApart built).mpr ?_⟩
  intro a _ b inside p _ q _ overlaps
  have colon := overlaps.colon
  rcases List.mem_cons.mp inside with rfl | later
  · simp at colon
  · cases List.mem_singleton.mp later
    simp at colon

theorem separatorShared :
    ∃ compiled, (buildSnapshot (ApplyManager.decoding {}) (twoRoutes "a" "b::c" "a::b" "c")
        (twoRoutes "a" "b::c" "a::b" "c").pools.inOrder).result = .ok compiled ∧
      ∃ a ∈ compiled.routes, ∃ b ∈ compiled.routes, a.id ≠ b.id ∧ a.stablePoolKey = b.stablePoolKey ∧
        allowed {} b.stablePoolKey (breakerFromConfig touchyPool.breaker) 0 = (.closed,true) ∧
        allowed (perform {} (.report a.stablePoolKey (breakerFromConfig touchyPool.breaker) false 0)) b.stablePoolKey
          (breakerFromConfig touchyPool.breaker) 0 = (.opened,false) := by
  refine ⟨_,rfl,_,List.mem_cons_self,_,List.mem_cons_of_mem _ List.mem_cons_self,?_,rfl,rfl,rfl⟩
  decide

end ReverseProxy.KeyIsolation
