import ReverseProxy.ConfigData
import ReverseProxy.FiniteMap

/-! Package provider: the configs of all providers merged into one, in priority
order, with conflicts and overlays. The result is assembled field by field from
the listen address, TLS, routes and pools of its inputs. -/
namespace ReverseProxy.ProviderMerge
open GoValues FiniteMap ConfigData

def adminPriority : Int := 100

structure Provider where
  name : String
  priority : Int
  load : Except Message (Option Config)

structure Loaded where
  name : String
  priority : Int
  cfg : Config
  range : cfg.pools.Range

def conflict (objectType objectID field existing incoming : String) : Message :=
  errorf "conflict on %s %q field %s between %s and %s"
    [objectType,objectID,if field = "" then "unknown" else field,existing,incoming]

structure Merged where
  listenAddr : String := ""
  tls : TLSConfig := {}
  routes : List Route := []
  pools : PoolMap := PoolMap.empty
  listenProvider : String := ""
  tlsProvider : String := ""
  routeProviders : Map String String := Map.empty
  poolProviders : Map String String := Map.empty

def tlsEmpty (cfg : TLSConfig) : Bool :=
  !cfg.enabled && cfg.addr == "" && (items cfg.certs).isEmpty && cfg.clientCAFile == "" &&
  cfg.minVersion == "" && (items cfg.cipherSuites).isEmpty

def cleanRoute (r : Route) : Route := { r with overlay := false }

def cleanPool (p : Pool) : Pool := { p with overlay := false }

def routesEqual (a b : Route) : Bool := cleanRoute a = cleanRoute b

def poolsEqual (a b : Pool) : Bool := cleanPool a = cleanPool b

def routeConflictField (a b : Route) : String :=
  if a.host ≠ b.host then "host"
  else if a.pathPrefix ≠ b.pathPrefix then "path_prefix"
  else if a.methods ≠ b.methods then "methods"
  else if a.pool ≠ b.pool then "pool"
  else if a.policy.requestTimeoutMS ≠ b.policy.requestTimeoutMS then "policy.request_timeout_ms"
  else if a.policy.upstreamDialTimeoutMS ≠ b.policy.upstreamDialTimeoutMS then "policy.upstream_dial_timeout_ms"
  else if a.policy.upstreamResponseHeaderTimeoutMS ≠ b.policy.upstreamResponseHeaderTimeoutMS then
    "policy.upstream_response_header_timeout_ms"
  else if a.policy.requireMTLS ≠ b.policy.requireMTLS then "policy.require_mtls"
  else if a.policy.mtlsClientCA ≠ b.policy.mtlsClientCA then "policy.mtls_client_ca"
  else if a.policy.retry ≠ b.policy.retry then "policy.retry"
  else if a.policy.retryBudget ≠ b.policy.retryBudget then "policy.retry_budget"
  else if a.policy.clientRetryCap ≠ b.policy.clientRetryCap then "policy.client_retry_cap"
  else if a.policy.cache ≠ b.policy.cache then "policy.cache"
  else if a.policy.plugins ≠ b.policy.plugins then "policy.plugins"
  else if a.policy.traffic ≠ b.policy.traffic then "policy.traffic"
  else "route"

/- The transport section is compared by poolsEqual but has no field name here. -/
def poolConflictField (a b : Pool) : String :=
  if a.endpoints ≠ b.endpoints then "endpoints"
  else if a.health ≠ b.health then "health"
  else if a.breaker ≠ b.breaker then "breaker"
  else if a.outlier ≠ b.outlier then "outlier"
  else "pool"

def withWeights (r : Route) (stable canary : Int) : Route :=
  { r with
    overlay := false
    policy := { r.policy with
      traffic := { r.policy.traffic with stableWeight := stable, canaryWeight := canary } } }

/- An overlay may move the traffic weights of a route and nothing else. -/
def overlayRoute (base overlay : Route) : Except String Route :=
  let normalized := withWeights overlay base.policy.traffic.stableWeight base.policy.traffic.canaryWeight
  if routesEqual base normalized then
    .ok (withWeights base overlay.policy.traffic.stableWeight overlay.policy.traffic.canaryWeight)
  else .error (routeConflictField base normalized)

/- An overlay may replace the endpoints of a pool and nothing else. -/
def overlayPool (base overlay : Pool) : Except String Pool :=
  let normalized := { overlay with overlay := false, endpoints := base.endpoints }
  if poolsEqual base normalized then .ok { base with overlay := false, endpoints := overlay.endpoints }
  else .error (poolConflictField base normalized)

def mergeListen (provider : String) (acc : Merged) (addr : String) : Except Message Merged :=
  if addr = "" then .ok acc
  else if acc.listenAddr = "" then .ok { acc with listenAddr := addr, listenProvider := provider }
  else if acc.listenAddr = addr then .ok acc
  else .error (conflict "config" "listen_addr" "listen_addr" acc.listenProvider provider)

def mergeTLS (provider : String) (acc : Merged) (tls : TLSConfig) : Except Message Merged :=
  if tlsEmpty tls then .ok acc
  else if tlsEmpty acc.tls then .ok { acc with tls := tls, tlsProvider := provider }
  else if acc.tls = tls then .ok acc
  else .error (conflict "config" "tls" "tls" acc.tlsProvider provider)

def mergeRoute (provider : String) (acc : Merged) (route : Route) : Except Message Merged :=
  if route.id = "" then .ok acc
  else match acc.routes.find? (fun r => r.id = route.id) with
    | none => .ok { acc with
        routes := acc.routes ++ [cleanRoute route]
        routeProviders := acc.routeProviders.insert route.id provider }
    | some existing =>
      let owner := (acc.routeProviders.get route.id).getD ""
      if routesEqual existing route then .ok acc
      else if route.overlay then
        match overlayRoute existing route with
        | .error field => .error (conflict "route" route.id field owner provider)
        | .ok merged => .ok { acc with
            routes := acc.routes.map (fun r => if r.id = route.id then merged else r)
            routeProviders := acc.routeProviders.insert route.id provider }
      else .error (conflict "route" route.id (routeConflictField existing route) owner provider)

def mergePool (provider : String) (acc : Merged) (entry : String × Pool) : Except Message Merged :=
  if entry.1 = "" then .ok acc
  else match acc.pools.get entry.1 with
    | none => .ok { acc with
        pools := acc.pools.set entry.1 (cleanPool entry.2)
        poolProviders := acc.poolProviders.insert entry.1 provider }
    | some existing =>
      let owner := (acc.poolProviders.get entry.1).getD ""
      if poolsEqual existing entry.2 then .ok acc
      else if entry.2.overlay then
        match overlayPool existing entry.2 with
        | .error field => .error (conflict "pool" entry.1 field owner provider)
        | .ok merged => .ok { acc with
            pools := acc.pools.set entry.1 merged
            poolProviders := acc.poolProviders.insert entry.1 provider }
      else .error (conflict "pool" entry.1 (poolConflictField existing entry.2) owner provider)

def mergeEntry (acc : Merged) (entry : Loaded) : Except Message Merged := do
  let acc ← mergeListen entry.name acc entry.cfg.listenAddr
  let acc ← mergeTLS entry.name acc entry.cfg.tls
  let acc ← (items entry.cfg.routes).foldlM (mergeRoute entry.name) acc
  entry.range.order.foldlM (mergePool entry.name) acc

def mergedConfig (acc : Merged) : Config :=
  { listenAddr := acc.listenAddr
    tls := acc.tls
    routes := if acc.routes = [] then none else some acc.routes
    pools := acc.pools }

/- `ranges i` is the order in which the pools of the i-th provider are visited. -/
def loadAll (ranges : Nat → (m : PoolMap) → m.Range) : Nat → List Provider → Except Message (List Loaded)
  | _,[] => .ok []
  | i,p :: rest => do
    let loaded ← p.load
    let later ← loadAll ranges (i + 1) rest
    match loaded with
    | none => .ok later
    | some cfg => .ok (⟨p.name,p.priority,cfg,ranges i cfg.pools⟩ :: later)

def merge (ranges : Nat → (m : PoolMap) → m.Range) (providers : List Provider) : Except Message Config := do
  let entries ← loadAll ranges 0 providers
  let acc ← (entries.mergeSort (fun a b => a.priority ≤ b.priority)).foldlM mergeEntry {}
  .ok (mergedConfig acc)

structure Plain (cfg : Config) : Prop where
  routeIDs : ∀ r ∈ items cfg.routes, r.id ≠ ""
  distinct : ((items cfg.routes).map (·.id)).Nodup
  routeOverlay : ∀ r ∈ items cfg.routes, r.overlay = false
  poolNames : ∀ e ∈ cfg.pools.entries, e.1 ≠ ""
  poolOverlay : ∀ e ∈ cfg.pools.entries, e.2.overlay = false

theorem cleanRouteSame {r : Route} (plain : r.overlay = false) : cleanRoute r = r := by
  cases r
  cases plain
  rfl

theorem cleanPoolSame {p : Pool} (plain : p.overlay = false) : cleanPool p = p := by
  cases p
  cases plain
  rfl

theorem mergeRoutesFresh (provider : String) {routes : List Route} (acc : Merged)
    (named : ∀ r ∈ routes, r.id ≠ "") (plain : ∀ r ∈ routes, r.overlay = false)
    (fresh : ((acc.routes ++ routes).map (·.id)).Nodup) :
    ∃ owners, routes.foldlM (mergeRoute provider) acc =
      .ok { acc with routes := acc.routes ++ routes, routeProviders := owners } := by
  induction routes generalizing acc with
  | nil => exact ⟨acc.routeProviders,by simp [pure,Except.pure]⟩
  | cons route rest ih =>
    have absent : acc.routes.find? (fun r => r.id = route.id) = none := by
      rw [List.find?_eq_none]
      intro r member same
      rw [List.map_append,List.nodup_append] at fresh
      exact fresh.2.2 _ (List.mem_map_of_mem member) route.id (by simp) (of_decide_eq_true same)
    have first : mergeRoute provider acc route = .ok { acc with
        routes := acc.routes ++ [route]
        routeProviders := acc.routeProviders.insert route.id provider } := by
      rw [mergeRoute,if_neg (named route List.mem_cons_self),absent]
      rw [cleanRouteSame (plain route List.mem_cons_self)]
    obtain ⟨owners,later⟩ := ih { acc with
        routes := acc.routes ++ [route]
        routeProviders := acc.routeProviders.insert route.id provider }
      (fun r member => named r (List.mem_cons_of_mem _ member))
      (fun r member => plain r (List.mem_cons_of_mem _ member)) (by simpa using fresh)
    refine ⟨owners,?_⟩
    rw [List.foldlM_cons,first]
    simpa [bind,Except.bind] using later

theorem mergePoolsFresh (provider : String) {order : List (String × Pool)} (acc : Merged)
    (named : ∀ e ∈ order, e.1 ≠ "") (plain : ∀ e ∈ order, e.2.overlay = false)
    (fresh : ((acc.pools.entries ++ order).map (·.1)).Nodup) :
    ∃ pools owners, pools.entries = acc.pools.entries ++ order ∧ order.foldlM (mergePool provider) acc =
      .ok { acc with pools := pools, poolProviders := owners } := by
  induction order generalizing acc with
  | nil => exact ⟨acc.pools,acc.poolProviders,by simp,by simp [pure,Except.pure]⟩
  | cons entry rest ih =>
    obtain ⟨name,pool⟩ := entry
    have absent : name ∉ acc.pools.names := by
      intro member
      rw [List.map_append,List.nodup_append] at fresh
      exact fresh.2.2 _ member name (by simp) rfl
    have entries : (acc.pools.set name pool).entries = acc.pools.entries ++ [(name,pool)] := by
      unfold PoolMap.set
      rw [dif_neg absent]
    have first : mergePool provider acc (name,pool) = .ok { acc with
        pools := acc.pools.set name pool
        poolProviders := acc.poolProviders.insert name provider } := by
      rw [mergePool,if_neg (named _ List.mem_cons_self),PoolMap.getNone.mpr absent]
      rw [cleanPoolSame (plain _ List.mem_cons_self)]
    obtain ⟨pools,owners,whole,later⟩ := ih { acc with
        pools := acc.pools.set name pool
        poolProviders := acc.poolProviders.insert name provider }
      (fun e member => named e (List.mem_cons_of_mem _ member))
      (fun e member => plain e (List.mem_cons_of_mem _ member)) (by simpa [entries] using fresh)
    refine ⟨pools,owners,by rw [whole,entries]; simp,?_⟩
    rw [List.foldlM_cons,first]
    exact later

structure Sections (cfg : Config) (order : List (String × Pool)) (out : Config) : Prop where
  listenAddr : out.listenAddr = cfg.listenAddr
  tls : out.tls = if tlsEmpty cfg.tls then {} else cfg.tls
  routes : items out.routes = items cfg.routes
  pools : out.pools.entries = order
  limits : out.limits = {}
  shutdown : out.shutdown = {}
  logging : out.logging = {}
  metrics : out.metrics = none

theorem mergeListenFirst (provider addr : String) :
    ∃ owner, mergeListen provider {} addr = .ok { listenAddr := addr, listenProvider := owner } := by
  unfold mergeListen
  split
  · rename_i none
    exact ⟨"",by rw [none]⟩
  · exact ⟨provider,rfl⟩

theorem mergeTLSFirst (provider : String) (acc : Merged) (tls : TLSConfig) (none : acc.tls = {}) :
    ∃ owner, mergeTLS provider acc tls =
      .ok { acc with tls := if tlsEmpty tls then {} else tls, tlsProvider := owner } := by
  unfold mergeTLS
  split
  · exact ⟨acc.tlsProvider,by rw [← none]⟩
  · rw [none]
    exact ⟨provider,rfl⟩

theorem mergeEntrySingle (entry : Loaded) (plain : Plain entry.cfg) :
    ∃ acc, mergeEntry {} entry = .ok acc ∧ Sections entry.cfg entry.range.order (mergedConfig acc) := by
  have inside : ∀ e ∈ entry.range.order, e ∈ entry.cfg.pools.entries := fun e => (PoolMap.rangeMember entry.range).mp
  obtain ⟨listener,listened⟩ := mergeListenFirst entry.name entry.cfg.listenAddr
  obtain ⟨holder,secured⟩ := mergeTLSFirst entry.name ⟨entry.cfg.listenAddr,{},[],.empty,listener,"",Map.empty,Map.empty⟩
    entry.cfg.tls rfl
  obtain ⟨owners,routed⟩ := mergeRoutesFresh entry.name
    ⟨entry.cfg.listenAddr,if tlsEmpty entry.cfg.tls then {} else entry.cfg.tls,[],.empty,listener,holder,Map.empty,Map.empty⟩
    plain.routeIDs plain.routeOverlay plain.distinct
  obtain ⟨pools,keepers,entries,pooled⟩ := mergePoolsFresh entry.name
    ⟨entry.cfg.listenAddr,if tlsEmpty entry.cfg.tls then {} else entry.cfg.tls,items entry.cfg.routes,.empty,listener,holder,
      owners,Map.empty⟩
    (fun e member => plain.poolNames e (inside e member)) (fun e member => plain.poolOverlay e (inside e member))
    (PoolMap.rangeUnique entry.range)
  refine ⟨⟨entry.cfg.listenAddr,if tlsEmpty entry.cfg.tls then {} else entry.cfg.tls,items entry.cfg.routes,pools,listener,
    holder,owners,keepers⟩,?_,rfl,rfl,?_,entries,rfl,rfl,rfl,rfl⟩
  · simp only [mergeEntry,bind,Except.bind,listened,secured,routed]
    exact pooled
  unfold mergedConfig
  dsimp only
  split
  · rename_i none
    rw [none]
    rfl
  · rfl

theorem mergeSingle (ranges : Nat → (m : PoolMap) → m.Range) (p : Provider) {cfg : Config} (plain : Plain cfg)
    (loads : p.load = .ok (some cfg)) :
    ∃ out, merge ranges [p] = .ok out ∧ Sections cfg (ranges 0 cfg.pools).order out := by
  obtain ⟨acc,merged,sections⟩ := mergeEntrySingle ⟨p.name,p.priority,cfg,ranges 0 cfg.pools⟩ plain
  refine ⟨mergedConfig acc,?_,sections⟩
  simp [merge,loadAll,loads,bind,Except.bind,merged,pure,Except.pure]

end ReverseProxy.ProviderMerge
