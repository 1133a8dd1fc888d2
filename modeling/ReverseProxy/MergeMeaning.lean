import Mathlib.Data.List.Nodup
import ReverseProxy.LayeredFold
import ReverseProxy.ProviderMerge

/-! What Merge computes. Its fold over providers falls apart into the listen address,
TLS, the routes and, name by name, the pools; under one id or name the first occurrence
decides everything but the weights or endpoints, and the last one decides these. -/
namespace ReverseProxy.MergeMeaning
open GoValues FiniteMap ConfigData ProviderMerge LayeredFold

def inPriorityOrder (entries : List Loaded) : List Loaded := entries.mergeSort (fun a b => a.priority ≤ b.priority)

def routesIn (entries : List Loaded) : List Route := entries.flatMap (fun e => items e.cfg.routes)

def routesUnder (id : String) (entries : List Loaded) : List Route := (routesIn entries).filter (fun r => r.id = id)

def poolsUnder (name : String) (entries : List Loaded) : List Pool := entries.filterMap (fun e => e.cfg.pools.get name)

def weights (r : Route) : Int × Int := (r.policy.traffic.stableWeight,r.policy.traffic.canaryWeight)

def routeBase (r : Route) : Route := withWeights r 0 0

def poolBase (p : Pool) : Pool := { p with overlay := false, endpoints := none }

theorem routeShape (r : Route) : cleanRoute r = withWeights (routeBase r) (weights r).1 (weights r).2 := rfl

theorem routesEqualShape (a b : Route) : routesEqual a b = true ↔ routeBase a = routeBase b ∧ weights a = weights b := by
  unfold routesEqual
  rw [decide_eq_true_iff]
  constructor
  · intro same
    have bases : routeBase (cleanRoute a) = routeBase (cleanRoute b) := congrArg routeBase same
    have shares : weights (cleanRoute a) = weights (cleanRoute b) := congrArg weights same
    exact ⟨bases,shares⟩
  · rintro ⟨bases,same⟩
    rw [routeShape,routeShape,bases,same]

theorem poolsEqualShape (a b : Pool) : poolsEqual a b = true ↔ poolBase a = poolBase b ∧ a.endpoints = b.endpoints := by
  unfold poolsEqual
  rw [decide_eq_true_iff]
  constructor
  · intro same
    have bases : poolBase (cleanPool a) = poolBase (cleanPool b) := congrArg poolBase same
    have listed : (cleanPool a).endpoints = (cleanPool b).endpoints := congrArg Pool.endpoints same
    exact ⟨bases,listed⟩
  · rintro ⟨bases,same⟩
    change { poolBase a with endpoints := a.endpoints } = { poolBase b with endpoints := b.endpoints }
    rw [bases,same]

theorem overlayRouteShape (base route : Route) : (overlayRoute base route).toOption =
    if routeBase route = routeBase base then some (withWeights base (weights route).1 (weights route).2) else none := by
  unfold overlayRoute
  have fits : routesEqual base (withWeights route base.policy.traffic.stableWeight base.policy.traffic.canaryWeight) = true ↔
      routeBase route = routeBase base := by
    rw [routesEqualShape]
    exact ⟨fun same => same.1.symm,fun same => ⟨same.symm,rfl⟩⟩
  dsimp only
  split
  · rename_i same
    rw [if_pos (fits.mp same)]
    rfl
  · rename_i other
    rw [if_neg (fun same => other (fits.mpr same))]
    rfl

theorem overlayPoolShape (base pool : Pool) : (overlayPool base pool).toOption =
    if poolBase pool = poolBase base then some { base with overlay := false, endpoints := pool.endpoints } else none := by
  unfold overlayPool
  have fits : poolsEqual base { pool with overlay := false, endpoints := base.endpoints } = true ↔
      poolBase pool = poolBase base := by
    rw [poolsEqualShape]
    exact ⟨fun same => same.1.symm,fun same => ⟨same.symm,rfl⟩⟩
  dsimp only
  split
  · rename_i same
    rw [if_pos (fits.mp same)]
    rfl
  · rename_i other
    rw [if_neg (fun same => other (fits.mpr same))]
    rfl

def addListen (acc addr : String) : Option String :=
  if addr = "" then some acc else if acc = "" then some addr else if acc = addr then some acc else none

def addTLS (acc tls : TLSConfig) : Option TLSConfig :=
  if tlsEmpty tls then some acc else if tlsEmpty acc then some tls else if acc = tls then some acc else none

def addRoute (routes : List Route) (route : Route) : Option (List Route) :=
  (mergeRoute "" { routes := routes } route).toOption.map Merged.routes

abbrev PoolView := Map String (Pool × Slice String)

def poolView (pools : PoolMap) : PoolView := fun name => (pools.get name).map (fun p => (poolBase p,p.endpoints))

def poolCell : Cell String (Pool × Slice String) Pool := fun name o p =>
  if name = "" then some o else layer poolBase Pool.endpoints Pool.overlay o p

def listenStep (l : String) (e : Loaded) : Option String := addListen l e.cfg.listenAddr

def tlsStep (t : TLSConfig) (e : Loaded) : Option TLSConfig := addTLS t e.cfg.tls

def routesStep (rs : List Route) (e : Loaded) : Option (List Route) := (items e.cfg.routes).foldlM addRoute rs

def poolsStep (m : PoolView) (e : Loaded) : Option PoolView := e.range.order.foldlM (visit poolCell) m

abbrev View := String × TLSConfig × List Route × PoolView

def view (acc : Merged) : View := (acc.listenAddr,acc.tls,acc.routes,poolView acc.pools)

def setListen (v : View) (l : String) : View := (l,v.2)

def setTLS (v : View) (t : TLSConfig) : View := (v.1,t,v.2.2)

def setRoutes (v : View) (rs : List Route) : View := (v.1,v.2.1,rs,v.2.2.2)

def setPools (v : View) (m : PoolView) : View := (v.1,v.2.1,v.2.2.1,m)

def routeStep (v : View) (route : Route) : Option View := (addRoute v.2.2.1 route).map (setRoutes v)

def poolStep (v : View) (entry : String × Pool) : Option View := (visit poolCell v.2.2.2 entry).map (setPools v)

def entryStep : View → Loaded → Option View := both listenStep (both tlsStep (both routesStep poolsStep))

section
variable (provider : String) (acc : Merged)

theorem mergeListenView (addr : String) : (mergeListen provider acc addr).toOption.map view =
    (addListen (view acc).1 addr).map (setListen (view acc)) := by
  unfold mergeListen addListen view
  split
  · rfl
  · split
    · rfl
    · split <;> rfl

theorem mergeTLSView (tls : TLSConfig) : (mergeTLS provider acc tls).toOption.map view =
    (addTLS (view acc).2.1 tls).map (setTLS (view acc)) := by
  unfold mergeTLS addTLS view
  split
  · rfl
  · split
    · rfl
    · split <;> rfl

theorem mergeRouteView (route : Route) :
    (mergeRoute provider acc route).toOption.map view = routeStep (view acc) route := by
  unfold routeStep addRoute mergeRoute view
  split
  · rfl
  · dsimp only
    cases acc.routes.find? (fun r => r.id = route.id) with
    | none => rfl
    | some existing =>
      dsimp only
      split
      · rfl
      · split
        · cases overlayRoute existing route <;> rfl
        · rfl

theorem poolViewSet (pools : PoolMap) (name : String) (p : Pool) :
    poolView (pools.set name p) = (poolView pools).assign name (some (poolBase p,p.endpoints)) := by
  apply Map.ext
  intro x
  rw [Map.getAssign]
  change ((pools.set name p).get x).map _ = _
  rw [PoolMap.getSet]
  split <;> rfl

theorem mergePoolView (entry : String × Pool) :
    (mergePool provider acc entry).toOption.map view = poolStep (view acc) entry := by
  obtain ⟨name,pool⟩ := entry
  change _ = (visit poolCell (poolView acc.pools) (name,pool)).map _
  unfold mergePool visit poolCell
  dsimp only
  by_cases unnamed : name = ""
  · rw [if_pos unnamed,if_pos unnamed]
    simp only [Option.map_some]
    rw [Map.assignSame rfl]
    rfl
  rw [if_neg unnamed,if_neg unnamed]
  cases found : acc.pools.get name with
  | none =>
    have absent : (poolView acc.pools).get name = none := by simp [Map.get,poolView,found]
    simp only [absent,layer,Option.map_some,Except.toOption,view,poolViewSet]
    rfl
  | some existing =>
    have present : (poolView acc.pools).get name = some (poolBase existing,existing.endpoints) := by
      simp [Map.get,poolView,found]
    rw [present,layer]
    dsimp only
    by_cases equal : poolsEqual existing pool = true
    · obtain ⟨bases,same⟩ := (poolsEqualShape _ _).mp equal
      rw [if_pos equal,if_pos ⟨bases.symm,.inl same.symm⟩]
      simp only [Option.map_some]
      rw [Map.assignSame (by rw [present,same])]
      rfl
    · rw [if_neg equal]
      by_cases free : pool.overlay = true
      · rw [if_pos free]
        have shape := overlayPoolShape existing pool
        by_cases bases : poolBase pool = poolBase existing
        · rw [if_pos bases] at shape
          rw [if_pos ⟨bases,.inr free⟩]
          cases laid : overlayPool existing pool with
          | error field => simp [laid,Except.toOption] at shape
          | ok merged =>
            have result : merged = { existing with overlay := false, endpoints := pool.endpoints } := by
              simpa [laid,Except.toOption] using shape
            subst result
            simp only [Except.toOption,Option.map_some,view,poolViewSet]
            rfl
        · rw [if_neg bases] at shape
          rw [if_neg (fun fits => bases fits.1)]
          cases laid : overlayPool existing pool with
          | error field => rfl
          | ok merged => simp [laid,Except.toOption] at shape
      · rw [if_neg free,if_neg]
        · rfl
        · rintro ⟨bases,same | free'⟩
          · exact equal ((poolsEqualShape _ _).mpr ⟨bases.symm,same.symm⟩)
          · exact free free'

theorem mergeRoutesView (routes : List Route) : (routes.foldlM (mergeRoute provider) acc).toOption.map view =
    (routes.foldlM addRoute (view acc).2.2.1).map (setRoutes (view acc)) := by
  rw [foldToOption,foldView (mergeRouteView provider) routes acc]
  exact foldPart (fun v => v.2.2.1) setRoutes (fun _ _ => rfl) (fun _ _ _ => rfl) (fun _ => rfl) routes (view acc)

theorem mergePoolsView (order : List (String × Pool)) : (order.foldlM (mergePool provider) acc).toOption.map view =
    (order.foldlM (visit poolCell) (view acc).2.2.2).map (setPools (view acc)) := by
  rw [foldToOption,foldView (mergePoolView provider) order acc]
  exact foldPart (fun v => v.2.2.2) setPools (fun _ _ => rfl) (fun _ _ _ => rfl) (fun _ => rfl) order (view acc)

end

def poolsStage (e : Loaded) (v : View) : Option View := (poolsStep v.2.2.2 e).map (setPools v)

def routesStage (e : Loaded) (v : View) : Option View := ((routesStep v.2.2.1 e).map (setRoutes v)).bind (poolsStage e)

def tlsStage (e : Loaded) (v : View) : Option View := ((tlsStep v.2.1 e).map (setTLS v)).bind (routesStage e)

theorem mergeEntryView (acc : Merged) (e : Loaded) : (mergeEntry acc e).toOption.map view = entryStep (view acc) e := by
  have pooled : ∀ acc, (e.range.order.foldlM (mergePool e.name) acc).toOption.map view = poolsStage e (view acc) :=
    fun acc => mergePoolsView e.name acc e.range.order
  have routed : ∀ acc, ((items e.cfg.routes).foldlM (mergeRoute e.name) acc >>= fun acc =>
      e.range.order.foldlM (mergePool e.name) acc).toOption.map view = routesStage e (view acc) := by
    intro acc
    rw [viewBind pooled,mergeRoutesView]
    rfl
  have secured : ∀ acc, (mergeTLS e.name acc e.cfg.tls >>= fun acc =>
      (items e.cfg.routes).foldlM (mergeRoute e.name) acc >>= fun acc =>
      e.range.order.foldlM (mergePool e.name) acc).toOption.map view = tlsStage e (view acc) := by
    intro acc
    rw [viewBind routed,mergeTLSView]
    rfl
  unfold mergeEntry entryStep both
  rw [viewBind secured,mergeListenView]
  change ((listenStep (view acc).1 e).map (setListen (view acc))).bind (tlsStage e) = _
  cases listenStep (view acc).1 e with
  | none => rfl
  | some l =>
    simp only [Option.map_some,Option.bind_some,setListen,tlsStage]
    cases tlsStep (view acc).2.1 e with
    | none => rfl
    | some t =>
      simp only [Option.map_some,Option.bind_some,setTLS,routesStage]
      cases routesStep (view acc).2.2.1 e with
      | none => rfl
      | some rs =>
        simp only [Option.map_some,Option.bind_some,setRoutes,poolsStage]
        cases poolsStep (view acc).2.2.2 e <;> rfl

theorem mergeEntriesView (entries : List Loaded) (acc : Merged) :
    (entries.foldlM mergeEntry acc).toOption.map view = entries.foldlM entryStep (view acc) := by
  rw [foldToOption]
  exact foldView mergeEntryView entries acc

theorem underRange {m : PoolMap} (range : m.Range) (name : String) : under name range.order = (m.get name).toList := by
  have unique := PoolMap.rangeUnique range
  rw [underUnique unique,Map.keyedPerm unique range.perm]
  rfl

theorem poolsStepFlat (entries : List Loaded) (m : PoolView) :
    entries.foldlM poolsStep m = (entries.flatMap (fun e => e.range.order)).foldlM (visit poolCell) m :=
  foldFlat (visit poolCell) (fun e : Loaded => e.range.order) entries m

theorem underEntries (name : String) (entries : List Loaded) :
    under name (entries.flatMap (fun e => e.range.order)) = poolsUnder name entries := by
  rw [underFlat]
  induction entries with
  | nil => rfl
  | cons e rest ih =>
    rw [List.flatMap_cons,underRange,ih,poolsUnder,poolsUnder,List.filterMap_cons]
    cases e.cfg.pools.get name <;> rfl

abbrev Source := String × Int × Config

def source (e : Loaded) : Source := (e.name,e.priority,e.cfg)

theorem poolsUnderSource (name : String) (entries : List Loaded) :
    poolsUnder name entries = (entries.map source).filterMap (fun s => s.2.2.pools.get name) := by
  rw [List.filterMap_map]
  rfl

theorem entriesParts (entries : List Loaded) (v : View) : entries.foldlM entryStep v =
    (entries.foldlM listenStep v.1).bind (fun l => ((entries.foldlM tlsStep v.2.1).bind (fun t =>
      ((entries.foldlM routesStep v.2.2.1).bind (fun rs => (entries.foldlM poolsStep v.2.2.2).map (rs,·))).map
        (t,·))).map (l,·)) := by
  unfold entryStep
  rw [foldBoth,foldBoth,foldBoth]

theorem entriesAgree {entries entries' : List Loaded} (same : entries.map source = entries'.map source) (v : View) :
    entries.foldlM entryStep v = entries'.foldlM entryStep v := by
  have listened : entries.foldlM listenStep v.1 = entries'.foldlM listenStep v.1 :=
    foldThrough (fun l (s : Source) => addListen l s.2.2.listenAddr) same v.1
  have secured : entries.foldlM tlsStep v.2.1 = entries'.foldlM tlsStep v.2.1 :=
    foldThrough (fun t (s : Source) => addTLS t s.2.2.tls) same v.2.1
  have routed : entries.foldlM routesStep v.2.2.1 = entries'.foldlM routesStep v.2.2.1 :=
    foldThrough (fun rs (s : Source) => (items s.2.2.routes).foldlM addRoute rs) same v.2.2.1
  have pooled : entries.foldlM poolsStep v.2.2.2 = entries'.foldlM poolsStep v.2.2.2 := by
    rw [poolsStepFlat,poolsStepFlat]
    apply visitAgree
    intro name
    rw [underEntries,underEntries,poolsUnderSource,poolsUnderSource,same]
  rw [entriesParts,entriesParts,listened,secured,routed,pooled]

/- Pools in the result have their overlay flag cleared. -/
def Cleared (acc : Merged) : Prop := ∀ name p, acc.pools.get name = some p → p.overlay = false

theorem clearedSet {acc : Merged} {name : String} {p : Pool} {owners : Map String String} (start : Cleared acc)
    (clear : p.overlay = false) : Cleared { acc with pools := acc.pools.set name p, poolProviders := owners } := by
  intro x q found
  rw [PoolMap.getSet] at found
  split at found
  · cases found
    exact clear
  · exact start x q found

theorem mergePoolCleared {provider : String} (acc : Merged) (entry : String × Pool) (acc' : Merged) (start : Cleared acc)
    (ok : mergePool provider acc entry = .ok acc') : Cleared acc' := by
  unfold mergePool at ok
  split at ok
  · cases ok
    exact start
  · split at ok
    · cases ok
      exact clearedSet start rfl
    · rename_i existing found
      dsimp only at ok
      split at ok
      · cases ok
        exact start
      · split at ok
        · split at ok
          · cases ok
          · rename_i merged laid
            cases ok
            refine clearedSet start ?_
            unfold overlayPool at laid
            dsimp only at laid
            split at laid <;> cases laid
            rfl
        · cases ok

theorem mergeListenPools {provider addr : String} {acc acc' : Merged} (ok : mergeListen provider acc addr = .ok acc') :
    acc'.pools = acc.pools := by
  unfold mergeListen at ok
  split at ok
  · cases ok
    rfl
  · split at ok
    · cases ok
      rfl
    · split at ok <;> cases ok
      rfl

theorem mergeTLSPools {provider : String} {tls : TLSConfig} {acc acc' : Merged} (ok : mergeTLS provider acc tls = .ok acc') :
    acc'.pools = acc.pools := by
  unfold mergeTLS at ok
  split at ok
  · cases ok
    rfl
  · split at ok
    · cases ok
      rfl
    · split at ok <;> cases ok
      rfl

theorem mergeRoutePools {provider : String} {route : Route} {acc acc' : Merged} (ok : mergeRoute provider acc route = .ok acc') :
    acc'.pools = acc.pools := by
  unfold mergeRoute at ok
  split at ok
  · cases ok
    rfl
  · split at ok
    · cases ok
      rfl
    · dsimp only at ok
      split at ok
      · cases ok
        rfl
      · split at ok
        · split at ok <;> cases ok
          rfl
        · cases ok

theorem mergeEntryCleared (acc : Merged) (e : Loaded) (acc' : Merged) (start : Cleared acc)
    (ok : mergeEntry acc e = .ok acc') : Cleared acc' := by
  obtain ⟨acc1,listened,ok⟩ := bindOk ok
  obtain ⟨acc2,secured,ok⟩ := bindOk ok
  obtain ⟨acc3,routed,ok⟩ := bindOk ok
  have same : acc3.pools = acc.pools := by
    have keeps : ∀ a r b, a.pools = acc2.pools → mergeRoute e.name a r = .ok b → b.pools = acc2.pools :=
      fun _ _ _ start ok => (mergeRoutePools ok).trans start
    rw [foldKeeps keeps rfl routed,mergeTLSPools secured,mergeListenPools listened]
  refine foldKeeps mergePoolCleared ?_ ok
  intro name p found
  exact start name p (same ▸ found)

theorem mergeEntriesCleared {entries : List Loaded} {acc : Merged} (ok : entries.foldlM mergeEntry {} = .ok acc) :
    Cleared acc := by
  refine foldKeeps mergeEntryCleared ?_ ok
  intro name p found
  cases found

def loadedSource (p : Provider) : Option Source :=
  match p.load with
  | .ok (some cfg) => some (p.name,p.priority,cfg)
  | _ => none

theorem loadAllOk (ranges : Nat → (m : PoolMap) → m.Range) {providers : List Provider}
    (loads : ∀ p ∈ providers, ∃ cfg, p.load = .ok cfg) (i : Nat) :
    ∃ entries, loadAll ranges i providers = .ok entries ∧ entries.map source = providers.filterMap loadedSource := by
  induction providers generalizing i with
  | nil => exact ⟨[],rfl,rfl⟩
  | cons p rest ih =>
    obtain ⟨entries,loaded,sources⟩ := ih (fun q inside => loads q (List.mem_cons_of_mem _ inside)) (i + 1)
    obtain ⟨cfg,load⟩ := loads p List.mem_cons_self
    cases cfg with
    | none =>
      refine ⟨entries,by simp [loadAll,load,loaded,bind,Except.bind],?_⟩
      rw [List.filterMap_cons_none (by simp [loadedSource,load]),sources]
    | some cfg =>
      refine ⟨_,by simp only [loadAll,load,loaded,bind,Except.bind]; rfl,?_⟩
      have own : loadedSource p = some (p.name,p.priority,cfg) := by simp [loadedSource,load]
      rw [List.filterMap_cons_some own,List.map_cons,sources]
      rfl

theorem loadedPriorities (providers : List Provider) :
    ((providers.filterMap loadedSource).map (fun s => s.2.1)).Sublist (providers.map Provider.priority) := by
  induction providers with
  | nil => exact .slnil
  | cons p rest ih =>
    rw [List.filterMap_cons]
    unfold loadedSource
    split
    · exact ih.cons _
    · rename_i s found
      split at found <;> cases found
      exact ih.cons_cons _

theorem sortedSources {entries entries' : List Loaded} (perm : (entries.map source).Perm (entries'.map source))
    (distinct : (entries.map Loaded.priority).Nodup) :
    (inPriorityOrder entries).map source = (inPriorityOrder entries').map source := by
  have through : ∀ l : List Loaded, (inPriorityOrder l).map source =
      (l.map source).mergeSort (fun a b => decide (a.2.1 ≤ b.2.1)) := fun l => List.map_mergeSort fun a _ b _ => rfl
  have sorted : ∀ l : List Source, (l.mergeSort (fun a b => decide (a.2.1 ≤ b.2.1))).Pairwise (fun a b => a.2.1 ≤ b.2.1) := by
    intro l
    have whole : (l.mergeSort (fun a b => decide (a.2.1 ≤ b.2.1))).Pairwise (fun a b => decide (a.2.1 ≤ b.2.1) = true) :=
      List.pairwise_mergeSort (by simp; omega) (by simp; omega) l
    simpa using whole
  rw [through,through]
  refine List.Perm.eq_of_pairwise ?_ (sorted _) (sorted _) ?_
  · intro a b left right below above
    have left' := (List.mergeSort_perm _ _).mem_iff.mp left
    have right' := perm.mem_iff.mpr ((List.mergeSort_perm _ _).mem_iff.mp right)
    have unique : ((entries.map source).map (fun s => s.2.1)).Nodup := by
      rw [List.map_map]
      exact distinct
    exact List.inj_on_of_nodup_map unique left' right' (Int.le_antisymm below above)
  · exact (List.mergeSort_perm _ _).trans (perm.trans (List.mergeSort_perm _ _).symm)

theorem mergeOk {ranges : Nat → (m : PoolMap) → m.Range} {providers : List Provider} {entries : List Loaded}
    (loaded : loadAll ranges 0 providers = .ok entries) {out : Config} :
    merge ranges providers = .ok out ↔
      ∃ acc, (inPriorityOrder entries).foldlM mergeEntry {} = .ok acc ∧ mergedConfig acc = out := by
  unfold merge
  rw [loaded]
  constructor
  · intro ok
    obtain ⟨loaded,same,ok⟩ := bindOk ok
    cases same
    obtain ⟨acc,merged,same⟩ := bindOk ok
    exact ⟨acc,merged,Except.ok.inj same⟩
  · rintro ⟨acc,merged,rfl⟩
    change (inPriorityOrder entries).foldlM mergeEntry {} >>= _ = _
    rw [merged]
    rfl

theorem viewPools {acc acc' : Merged} (clear : Cleared acc) (clear' : Cleared acc')
    (same : poolView acc.pools = poolView acc'.pools) (name : String) : acc.pools.get name = acc'.pools.get name := by
  have here : (acc.pools.get name).map (fun p => (poolBase p,p.endpoints)) =
      (acc'.pools.get name).map (fun p => (poolBase p,p.endpoints)) := congrFun same name
  cases found : acc.pools.get name with
  | none =>
    rw [found] at here
    exact (Option.map_eq_none_iff.mp here.symm).symm
  | some p =>
    rw [found] at here
    obtain ⟨q,found',pair⟩ := Option.map_eq_some_iff.mp here.symm
    obtain ⟨bases,listed⟩ := Prod.mk.inj pair
    have equal := (poolsEqualShape q p).mpr ⟨bases,listed⟩
    rw [poolsEqual,decide_eq_true_iff,cleanPoolSame (clear name p found),cleanPoolSame (clear' name q found')] at equal
    rw [found',equal]

theorem mergeOrderFree {ranges ranges' : Nat → (m : PoolMap) → m.Range} {providers providers' : List Provider}
    (perm : providers.Perm providers') (distinct : (providers.map Provider.priority).Nodup)
    (loads : ∀ p ∈ providers, ∃ cfg, p.load = .ok cfg) :
    ((∃ out, merge ranges providers = .ok out) ↔ ∃ out, merge ranges' providers' = .ok out) ∧
    ∀ out out', merge ranges providers = .ok out → merge ranges' providers' = .ok out' →
      { out with pools := out'.pools } = out' ∧ ∀ name, out.pools.get name = out'.pools.get name := by
  obtain ⟨entries,loaded,sources⟩ := loadAllOk ranges loads 0
  obtain ⟨entries',loaded',sources'⟩ := loadAllOk ranges' (fun p inside => loads p (perm.mem_iff.mpr inside)) 0
  have priorities : (entries.map Loaded.priority).Nodup := by
    have through : entries.map Loaded.priority = (providers.filterMap loadedSource).map (fun s => s.2.1) := by
      rw [← sources,List.map_map]
      rfl
    rw [through]
    exact (loadedPriorities providers).nodup distinct
  have moved : (entries.map source).Perm (entries'.map source) := by
    rw [sources,sources']
    exact perm.filterMap loadedSource
  have same := entriesAgree (sortedSources moved priorities) (view {})
  rw [← mergeEntriesView,← mergeEntriesView] at same
  refine ⟨?_,?_⟩
  · simp only [mergeOk loaded,mergeOk loaded']
    cases ran : (inPriorityOrder entries).foldlM mergeEntry {} with
    | error m =>
      cases ran' : (inPriorityOrder entries').foldlM mergeEntry {} with
      | error m' => simp
      | ok acc' => simp [ran,ran',Except.toOption] at same
    | ok acc =>
      cases ran' : (inPriorityOrder entries').foldlM mergeEntry {} with
      | error m' => simp [ran,ran',Except.toOption] at same
      | ok acc' => simp
  · intro out out' ok ok'
    obtain ⟨acc,ran,rfl⟩ := (mergeOk loaded).mp ok
    obtain ⟨acc',ran',rfl⟩ := (mergeOk loaded').mp ok'
    rw [ran,ran'] at same
    obtain ⟨listenAddr,tls,routes,pools⟩ : acc.listenAddr = acc'.listenAddr ∧ acc.tls = acc'.tls ∧
      acc.routes = acc'.routes ∧ poolView acc.pools = poolView acc'.pools := by
      simpa [Except.toOption,view] using same
    refine ⟨?_,viewPools (mergeEntriesCleared ran) (mergeEntriesCleared ran') pools⟩
    simp only [mergedConfig,listenAddr,tls,routes]

def splitRoute (stable canary : Int) (overlay : Bool) : Route :=
  { id := "r1", host := "example.local", pathPrefix := "/", pool := "p1", overlay := overlay
    policy := { traffic := { enabled := true, stablePool := "p1", stableWeight := stable, canaryWeight := canary } } }

def splitConfig (stable canary : Int) (overlay : Bool) : Config :=
  { routes := some [splitRoute stable canary overlay]
    pools := .single "p1" { endpoints := some ["10.0.0.1:80"], overlay := overlay } }

def fileProvider : Provider := ⟨"file",0,.ok (some (splitConfig 100 0 false))⟩

def overlayProvider : Provider := ⟨"admin",adminPriority,.ok (some (splitConfig 80 20 true))⟩

def rivalProvider : Provider := ⟨"admin",adminPriority,.ok (some (splitConfig 80 20 false))⟩

def listed (_ : Nat) (m : PoolMap) : m.Range := m.inOrder

theorem sortedAlready {entries : List Loaded} (sorted : (entries.map Loaded.priority).Pairwise (· ≤ ·)) :
    inPriorityOrder entries = entries := by
  apply List.mergeSort_of_pairwise
  simpa [List.pairwise_map] using sorted

theorem listedMerges : ∃ out, merge listed [fileProvider,overlayProvider] = .ok out := by
  obtain ⟨entries,loaded,sorted,acc,ran⟩ : ∃ entries, loadAll listed 0 [fileProvider,overlayProvider] = .ok entries ∧
      (entries.map Loaded.priority).Pairwise (· ≤ ·) ∧ ∃ acc, entries.foldlM mergeEntry {} = .ok acc :=
    ⟨_,rfl,by decide,_,rfl⟩
  exact ⟨_,(mergeOk loaded).mpr ⟨acc,(sortedAlready sorted).symm ▸ ran,rfl⟩⟩

theorem swappedMerges : [fileProvider,overlayProvider].Perm [overlayProvider,fileProvider] ∧
    ∃ out, merge listed [overlayProvider,fileProvider] = .ok out := by
  have swap := List.Perm.swap overlayProvider fileProvider []
  refine ⟨swap,((mergeOrderFree swap (by decide) ?_).1).mp listedMerges⟩
  simp [fileProvider,overlayProvider]

abbrev RouteView := Map String (Route × Int × Int)

def routeView (routes : List Route) : RouteView := fun id =>
  (routes.find? (fun r => r.id = id)).map (fun r => (routeBase r,weights r))

def routeCell : Cell String (Route × Int × Int) Route := fun id o r =>
  if id = "" then some o else layer routeBase weights Route.overlay o r

def routeVisit (m : RouteView) (r : Route) : Option RouteView := visit routeCell m (r.id,r)

def replaceRoute (merged : Route) (routes : List Route) : List Route :=
  routes.map (fun r => if r.id = merged.id then merged else r)

theorem findReplacedOther {merged : Route} {x : String} (apart : merged.id ≠ x) (routes : List Route) :
    (replaceRoute merged routes).find? (fun r => r.id = x) = routes.find? (fun r => r.id = x) := by
  unfold replaceRoute
  induction routes with
  | nil => rfl
  | cons r rest ih =>
    rw [List.map_cons,List.find?_cons,List.find?_cons,ih]
    by_cases here : r.id = merged.id
    · simp [here,apart]
    · simp [here]

theorem findReplacedSame {merged existing : Route} {routes : List Route}
    (found : routes.find? (fun r => r.id = merged.id) = some existing) :
    (replaceRoute merged routes).find? (fun r => r.id = merged.id) = some merged := by
  unfold replaceRoute
  induction routes with
  | nil => cases found
  | cons r rest ih =>
    rw [List.map_cons,List.find?_cons]
    by_cases here : r.id = merged.id
    · simp [here]
    · rw [List.find?_cons] at found
      simp only [here,decide_false] at found
      simp [here,ih found]

def overlaid (existing route : Route) : Route := withWeights existing (weights route).1 (weights route).2

theorem addRouteCases (routes : List Route) (route : Route) : addRoute routes route =
    if route.id = "" then some routes
    else match routes.find? (fun r => r.id = route.id) with
      | none => some (routes ++ [cleanRoute route])
      | some existing =>
        if routesEqual existing route then some routes
        else if route.overlay = true ∧ routeBase route = routeBase existing then
          some (routes.map (fun r => if r.id = route.id then overlaid existing route else r))
        else none := by
  unfold addRoute mergeRoute
  dsimp only
  split
  · rfl
  · cases routes.find? (fun r => r.id = route.id) with
    | none => rfl
    | some existing =>
      dsimp only
      split
      · rfl
      · have shape := overlayRouteShape existing route
        by_cases free : route.overlay = true
        · rw [if_pos free]
          by_cases bases : routeBase route = routeBase existing
          · rw [if_pos bases] at shape
            rw [if_pos ⟨free,bases⟩]
            cases laid : overlayRoute existing route with
            | error field => simp [laid,Except.toOption] at shape
            | ok merged =>
              rw [laid] at shape
              cases Option.some.inj shape
              rfl
          · rw [if_neg bases] at shape
            rw [if_neg (fun fits => bases fits.2)]
            cases laid : overlayRoute existing route with
            | error field => rfl
            | ok merged => simp [laid,Except.toOption] at shape
        · rw [if_neg free,if_neg (fun fits => free fits.1)]
          rfl

theorem findNamed {routes : List Route} {id : String} {r : Route} (found : routes.find? (fun r => r.id = id) = some r) :
    r.id = id := by
  simpa using List.find?_some found

theorem routeViewAppend {routes : List Route} {r : Route} (absent : routes.find? (fun x => x.id = r.id) = none) :
    routeView (routes ++ [r]) = (routeView routes).assign r.id (some (routeBase r,weights r)) := by
  apply Map.ext
  intro x
  rw [Map.getAssign]
  change ((routes ++ [r]).find? _).map _ = _
  rw [List.find?_append]
  split
  · rename_i same
    subst same
    simp [absent]
  · rename_i other
    simp [Ne.symm other,routeView,Map.get]

theorem routeViewReplace {routes : List Route} {r existing : Route}
    (found : routes.find? (fun x => x.id = r.id) = some existing) :
    routeView (replaceRoute r routes) = (routeView routes).assign r.id (some (routeBase r,weights r)) := by
  apply Map.ext
  intro x
  rw [Map.getAssign]
  change ((replaceRoute r routes).find? _).map _ = _
  split
  · rename_i same
    rw [same,findReplacedSame found]
    rfl
  · rename_i other
    rw [findReplacedOther (Ne.symm other)]
    rfl

theorem addRouteView (routes : List Route) (route : Route) :
    (addRoute routes route).map routeView = routeVisit (routeView routes) route := by
  rw [addRouteCases]
  unfold routeVisit visit routeCell
  dsimp only
  by_cases unnamed : route.id = ""
  · rw [if_pos unnamed,if_pos unnamed]
    exact congrArg some (Map.assignSame rfl).symm
  rw [if_neg unnamed,if_neg unnamed]
  cases found : routes.find? (fun r => r.id = route.id) with
  | none =>
    have absent : (routeView routes).get route.id = none := by simp [Map.get,routeView,found]
    rw [absent]
    exact congrArg some (@routeViewAppend routes (cleanRoute route) found)
  | some existing =>
    have named := findNamed found
    have present : (routeView routes).get route.id = some (routeBase existing,weights existing) := by
      simp [Map.get,routeView,found]
    rw [present,layer]
    dsimp only
    by_cases equal : routesEqual existing route = true
    · obtain ⟨bases,same⟩ := (routesEqualShape _ _).mp equal
      rw [if_pos equal,if_pos ⟨bases.symm,.inl same.symm⟩]
      exact congrArg some (Map.assignSame (by rw [present,same])).symm
    · rw [if_neg equal]
      by_cases fits : route.overlay = true ∧ routeBase route = routeBase existing
      · rw [if_pos fits,if_pos ⟨fits.2,.inr fits.1⟩]
        have own : (overlaid existing route).id = route.id := named
        rw [← own] at found ⊢
        exact congrArg some (routeViewReplace found)
      · rw [if_neg fits,if_neg]
        · rfl
        · rintro ⟨bases,same | free⟩
          · exact equal ((routesEqualShape _ _).mpr ⟨bases.symm,same.symm⟩)
          · exact fits ⟨free,bases⟩

structure TidyRoutes (routes : List Route) : Prop where
  once : (routes.map (·.id)).Nodup
  named : ∀ r ∈ routes, r.id ≠ ""
  cleared : ∀ r ∈ routes, r.overlay = false

theorem TidyRoutes.append {routes : List Route} {r : Route} (start : TidyRoutes routes)
    (absent : routes.find? (fun x => x.id = r.id) = none) (named : r.id ≠ "") (cleared : r.overlay = false) :
    TidyRoutes (routes ++ [r]) := by
  refine ⟨?_,?_,?_⟩
  · rw [List.map_append,List.nodup_append]
    refine ⟨start.once,by simp,?_⟩
    rintro a left b right rfl
    obtain ⟨x,inside,same⟩ := List.mem_map.mp left
    exact List.find?_eq_none.mp absent x inside (decide_eq_true (same.trans (List.mem_singleton.mp right)))
  · intro x inside
    rcases List.mem_append.mp inside with old | last
    · exact start.named x old
    · exact List.mem_singleton.mp last ▸ named
  · intro x inside
    rcases List.mem_append.mp inside with old | last
    · exact start.cleared x old
    · exact List.mem_singleton.mp last ▸ cleared

theorem TidyRoutes.replace {routes : List Route} {r : Route} (start : TidyRoutes routes) (named : r.id ≠ "")
    (cleared : r.overlay = false) : TidyRoutes (replaceRoute r routes) := by
  have ids : (replaceRoute r routes).map (·.id) = routes.map (·.id) := by
    rw [replaceRoute,List.map_map]
    apply List.map_congr_left
    intro x _
    simp only [Function.comp_apply]
    split
    · rename_i same
      exact same.symm
    · rfl
  have member : ∀ x ∈ replaceRoute r routes, x ∈ routes ∨ x = r := by
    intro x inside
    obtain ⟨q,old,same⟩ := List.mem_map.mp inside
    split at same
    · exact .inr same.symm
    · exact .inl (same ▸ old)
  refine ⟨ids ▸ start.once,?_,?_⟩
  · intro x inside
    rcases member x inside with old | rfl
    · exact start.named x old
    · exact named
  · intro x inside
    rcases member x inside with old | rfl
    · exact start.cleared x old
    · exact cleared

theorem addRouteTidy {routes next : List Route} {route : Route} (start : TidyRoutes routes)
    (ok : addRoute routes route = some next) : TidyRoutes next := by
  rw [addRouteCases] at ok
  split at ok
  · cases ok
    exact start
  · rename_i unnamed
    split at ok
    · rename_i absent
      cases ok
      exact start.append absent unnamed rfl
    · rename_i existing found
      have named := findNamed found
      have own : (overlaid existing route).id = route.id := named
      split at ok
      · cases ok
        exact start
      · split at ok <;> cases ok
        have tidy := @TidyRoutes.replace routes (overlaid existing route) start (own.trans_ne unnamed) rfl
        unfold replaceRoute at tidy
        rw [own] at tidy
        exact tidy

theorem addRoutesTidy {routes start result : List Route} (tidy : TidyRoutes start)
    (ok : routes.foldlM addRoute start = some result) : TidyRoutes result := by
  induction routes generalizing start with
  | nil =>
    cases ok
    exact tidy
  | cons route rest ih =>
    rw [List.foldlM_cons] at ok
    obtain ⟨next,added,later⟩ := Option.bind_eq_some_iff.mp ok
    exact ih (addRouteTidy tidy added) later

theorem routesStepFlat (entries : List Loaded) (rs : List Route) :
    entries.foldlM routesStep rs = (routesIn entries).foldlM addRoute rs :=
  foldFlat addRoute (fun e : Loaded => items e.cfg.routes) entries rs

theorem underRoutes (id : String) (routes : List Route) :
    under id (routes.map (fun r => (r.id,r))) = routes.filter (fun r => r.id = id) := by
  rw [under,List.filter_map,List.map_map]
  exact List.map_id _

structure Merges (entries : List Loaded) (acc : Merged) : Prop where
  tidy : TidyRoutes acc.routes
  cleared : Cleared acc
  routes : ∀ id, (routesUnder id entries).foldlM (routeCell id) none = some ((routeView acc.routes).get id)
  pools : ∀ name, (poolsUnder name entries).foldlM (poolCell name) none = some ((poolView acc.pools).get name)

theorem merges {entries : List Loaded} {acc : Merged} (ok : entries.foldlM mergeEntry {} = .ok acc) : Merges entries acc := by
  have seen := mergeEntriesView entries {}
  rw [ok,entriesParts] at seen
  obtain ⟨l,-,afterListen⟩ := Option.bind_eq_some_iff.mp seen.symm
  obtain ⟨v,secured,same⟩ := Option.map_eq_some_iff.mp afterListen
  obtain ⟨t,-,afterTLS⟩ := Option.bind_eq_some_iff.mp secured
  obtain ⟨w,parted,rfl⟩ := Option.map_eq_some_iff.mp afterTLS
  obtain ⟨rs,routed,afterRoutes⟩ := Option.bind_eq_some_iff.mp parted
  obtain ⟨m,pooled,rfl⟩ := Option.map_eq_some_iff.mp afterRoutes
  cases same
  change entries.foldlM routesStep [] = some acc.routes at routed
  change entries.foldlM poolsStep Map.empty = some (poolView acc.pools) at pooled
  rw [routesStepFlat] at routed
  rw [poolsStepFlat] at pooled
  have none : TidyRoutes [] := ⟨List.nodup_nil,by simp,by simp⟩
  refine ⟨addRoutesTidy none routed,mergeEntriesCleared ok,?_,?_⟩
  · intro id
    have viewed := foldView addRouteView (routesIn entries) []
    rw [routed] at viewed
    rw [routesUnder,← underRoutes]
    refine visitedAll (m := Map.empty) ?_ id
    rw [List.foldlM_map]
    exact viewed.symm
  · intro name
    rw [← underEntries]
    exact visitedAll pooled name

theorem routeCellNamed {id : String} (named : id ≠ "") : routeCell id = layer routeBase weights Route.overlay := by
  funext o r
  exact if_neg named

theorem poolCellNamed {name : String} (named : name ≠ "") : poolCell name = layer poolBase Pool.endpoints Pool.overlay := by
  funext o p
  exact if_neg named

theorem unnamedPools (ps : List Pool) : ps.foldlM (poolCell "") none = some none := by
  induction ps with
  | nil => rfl
  | cons p rest ih => exact ih

section
variable {entries : List Loaded} {acc : Merged}

theorem Merges.routeFound (m : Merges entries acc) {r : Route} (inside : r ∈ acc.routes) :
    (routeView acc.routes).get r.id = some (routeBase r,weights r) := by
  have found : acc.routes.find? (fun q => q.id = r.id) = some r := by
    cases result : acc.routes.find? (fun q => q.id = r.id) with
    | none => exact absurd (decide_eq_true rfl) (List.find?_eq_none.mp result r inside)
    | some q =>
      exact congrArg some
        (List.inj_on_of_nodup_map m.tidy.once (List.mem_of_find?_eq_some result) inside (findNamed result))
  change (acc.routes.find? (fun q => q.id = r.id)).map _ = _
  rw [found]
  rfl

theorem Merges.route (m : Merges entries acc) {r : Route} (inside : r ∈ acc.routes) :
    ∃ first last, Layered routeBase weights Route.overlay (routesUnder r.id entries) first last ∧
      r = withWeights first last.policy.traffic.stableWeight last.policy.traffic.canaryWeight := by
  have ok := m.routes r.id
  rw [m.routeFound inside,routeCellNamed (m.tidy.named r inside)] at ok
  rcases layers ok with ⟨-,impossible⟩ | ⟨first,last,layered,same⟩
  · cases impossible
  · obtain ⟨bases,shares⟩ := Prod.mk.inj (Option.some.inj same)
    refine ⟨first,last,layered,?_⟩
    rw [← cleanRouteSame (m.tidy.cleared r inside),routeShape,bases,shares]
    rfl

theorem Merges.pool (m : Merges entries acc) {name : String} {p : Pool} (found : acc.pools.get name = some p) :
    name ≠ "" ∧ ∃ first last, Layered poolBase Pool.endpoints Pool.overlay (poolsUnder name entries) first last ∧
      p = { first with overlay := false, endpoints := last.endpoints } := by
  have seen : (poolView acc.pools).get name = some (poolBase p,p.endpoints) := by simp [Map.get,poolView,found]
  have ok := m.pools name
  rw [seen] at ok
  have named : name ≠ "" := by
    rintro rfl
    rw [unnamedPools] at ok
    cases ok
  rw [poolCellNamed named] at ok
  rcases layers ok with ⟨-,impossible⟩ | ⟨first,last,layered,same⟩
  · cases impossible
  · obtain ⟨bases,listed⟩ := Prod.mk.inj (Option.some.inj same)
    refine ⟨named,first,last,layered,?_⟩
    have own : p = { poolBase p with endpoints := p.endpoints } := by
      rw [← cleanPoolSame (m.cleared name p found)]
      rfl
    rw [own,bases,listed]
    rfl

theorem Merges.routeIDs (m : Merges entries acc) (id : String) :
    id ∈ acc.routes.map (·.id) ↔ id ≠ "" ∧ routesUnder id entries ≠ [] := by
  constructor
  · intro member
    obtain ⟨r,inside,rfl⟩ := List.mem_map.mp member
    obtain ⟨first,last,layered,-⟩ := m.route inside
    refine ⟨m.tidy.named r inside,?_⟩
    intro none
    rw [none] at layered
    cases layered.head
  · rintro ⟨named,occurs⟩
    have ok := m.routes id
    rw [routeCellNamed named] at ok
    rcases layers ok with ⟨none,-⟩ | ⟨first,last,-,seen⟩
    · exact absurd none occurs
    · obtain ⟨r,found,-⟩ := Option.map_eq_some_iff.mp seen
      exact List.mem_map.mpr ⟨r,List.mem_of_find?_eq_some found,findNamed found⟩

theorem Merges.poolNames (m : Merges entries acc) (name : String) :
    name ∈ acc.pools.names ↔ name ≠ "" ∧ poolsUnder name entries ≠ [] := by
  constructor
  · intro member
    cases found : acc.pools.get name with
    | none => exact absurd member (PoolMap.getNone.mp found)
    | some p =>
      obtain ⟨named,first,last,layered,-⟩ := m.pool found
      refine ⟨named,?_⟩
      intro none
      rw [none] at layered
      cases layered.head
  · rintro ⟨named,occurs⟩
    have ok := m.pools name
    rw [poolCellNamed named] at ok
    rcases layers ok with ⟨none,-⟩ | ⟨first,last,-,seen⟩
    · exact absurd none occurs
    · obtain ⟨p,found,-⟩ := Option.map_eq_some_iff.mp seen
      exact List.mem_map.mpr ⟨_,PoolMap.getMember.mp found,rfl⟩

end

def Conflict (m : Message) : Prop := ∃ kind id field existing incoming, m = conflict kind id field existing incoming

theorem mergeRouteFails {provider : String} {acc : Merged} {route : Route} {m : Message}
    (failed : mergeRoute provider acc route = .error m) : Conflict m := by
  unfold mergeRoute at failed
  split at failed
  · cases failed
  · split at failed
    · cases failed
    · dsimp only at failed
      split at failed
      · cases failed
      · split at failed
        · split at failed <;> cases failed
          exact ⟨_,_,_,_,_,rfl⟩
        · cases failed
          exact ⟨_,_,_,_,_,rfl⟩

theorem mergePoolFails {provider : String} {acc : Merged} {entry : String × Pool} {m : Message}
    (failed : mergePool provider acc entry = .error m) : Conflict m := by
  unfold mergePool at failed
  split at failed
  · cases failed
  · split at failed
    · cases failed
    · dsimp only at failed
      split at failed
      · cases failed
      · split at failed
        · split at failed <;> cases failed
          exact ⟨_,_,_,_,_,rfl⟩
        · cases failed
          exact ⟨_,_,_,_,_,rfl⟩

theorem mergeEntryFails {acc : Merged} {e : Loaded} {m : Message} (failed : mergeEntry acc e = .error m) : Conflict m := by
  rcases bindFails failed with listened | ⟨acc1,-,failed⟩
  · unfold mergeListen at listened
    split at listened
    · cases listened
    · split at listened
      · cases listened
      · split at listened <;> cases listened
        exact ⟨_,_,_,_,_,rfl⟩
  rcases bindFails failed with secured | ⟨acc2,-,failed⟩
  · unfold mergeTLS at secured
    split at secured
    · cases secured
    · split at secured
      · cases secured
      · split at secured <;> cases secured
        exact ⟨_,_,_,_,_,rfl⟩
  rcases bindFails failed with routed | ⟨acc3,-,pooled⟩
  · obtain ⟨_,_,-,stuck⟩ := foldFails routed
    exact mergeRouteFails stuck
  · obtain ⟨_,_,-,stuck⟩ := foldFails pooled
    exact mergePoolFails stuck

theorem mergeConflicts {entries : List Loaded} (stuck : ∀ acc, ¬Merges entries acc) :
    ∃ m, entries.foldlM mergeEntry {} = .error m ∧ Conflict m := by
  cases ran : entries.foldlM mergeEntry {} with
  | ok acc => exact absurd (merges ran) (stuck acc)
  | error m =>
    obtain ⟨_,_,-,failed⟩ := foldFails ran
    exact ⟨m,rfl,mergeEntryFails failed⟩

theorem routesUnderEmpty {id : String} {entries : List Loaded} :
    routesUnder id (inPriorityOrder entries) ≠ [] ↔ ∃ e ∈ entries, ∃ r ∈ items e.cfg.routes, r.id = id := by
  have member : ∀ e, e ∈ inPriorityOrder entries ↔ e ∈ entries := fun e => (List.mergeSort_perm _ _).mem_iff
  rw [routesUnder,ne_eq,List.filter_eq_nil_iff]
  simp only [routesIn,List.mem_flatMap,decide_eq_true_eq]
  constructor
  · intro some
    obtain ⟨r,some⟩ := not_forall.mp some
    obtain ⟨⟨e,inside,listed⟩,same⟩ := not_forall.mp some
    exact ⟨e,(member e).mp inside,r,listed,not_not.mp same⟩
  · rintro ⟨e,inside,r,listed,same⟩ none
    exact none r ⟨e,(member e).mpr inside,listed⟩ same

theorem poolsUnderEmpty {name : String} {entries : List Loaded} :
    poolsUnder name (inPriorityOrder entries) ≠ [] ↔ ∃ e ∈ entries, name ∈ e.cfg.pools.names := by
  have member : ∀ e, e ∈ inPriorityOrder entries ↔ e ∈ entries := fun e => (List.mergeSort_perm _ _).mem_iff
  rw [poolsUnder,ne_eq,List.filterMap_eq_nil_iff]
  simp only [PoolMap.getNone]
  constructor
  · intro some
    obtain ⟨e,some⟩ := not_forall.mp some
    obtain ⟨inside,listed⟩ := not_forall.mp some
    exact ⟨e,(member e).mp inside,not_not.mp listed⟩
  · rintro ⟨e,inside,listed⟩ none
    exact none e ((member e).mpr inside) listed

theorem mergedRoutes (acc : Merged) : items (mergedConfig acc).routes = acc.routes := by
  unfold mergedConfig
  dsimp only
  split
  · rename_i none
    rw [none]
    rfl
  · rfl

theorem mergeFirstLast {ranges : Nat → (m : PoolMap) → m.Range} {providers : List Provider} {entries : List Loaded}
    (loaded : loadAll ranges 0 providers = .ok entries) :
    (∀ out, merge ranges providers = .ok out →
      ((items out.routes).map (·.id)).Nodup ∧
      (∀ id, id ∈ (items out.routes).map (·.id) ↔ id ≠ "" ∧ ∃ e ∈ entries, ∃ r ∈ items e.cfg.routes, r.id = id) ∧
      out.pools.names.Nodup ∧
      (∀ name, name ∈ out.pools.names ↔ name ≠ "" ∧ ∃ e ∈ entries, name ∈ e.cfg.pools.names) ∧
      (∀ r ∈ items out.routes, ∃ first last, (routesUnder r.id (inPriorityOrder entries)).head? = some first ∧
        (routesUnder r.id (inPriorityOrder entries)).getLast? = some last ∧
        r = withWeights first last.policy.traffic.stableWeight last.policy.traffic.canaryWeight) ∧
      ∀ name p, out.pools.get name = some p → ∃ first last,
        (poolsUnder name (inPriorityOrder entries)).head? = some first ∧
        (poolsUnder name (inPriorityOrder entries)).getLast? = some last ∧
        p = { first with overlay := false, endpoints := last.endpoints }) ∧
    ((∃ id, id ≠ "" ∧ Clashes routeBase weights Route.overlay (routesUnder id (inPriorityOrder entries))) ∨
      (∃ name, name ≠ "" ∧ Clashes poolBase Pool.endpoints Pool.overlay (poolsUnder name (inPriorityOrder entries))) →
      ∃ m, merge ranges providers = .error m ∧ Conflict m) := by
  constructor
  · intro out ok
    obtain ⟨acc,ran,rfl⟩ := (mergeOk loaded).mp ok
    have m := merges ran
    rw [mergedRoutes]
    refine ⟨m.tidy.once,fun id => (m.routeIDs id).trans (and_congr_right fun _ => routesUnderEmpty),acc.pools.unique,
      fun name => (m.poolNames name).trans (and_congr_right fun _ => poolsUnderEmpty),?_,?_⟩
    · intro r inside
      obtain ⟨first,last,layered,same⟩ := m.route inside
      exact ⟨first,last,layered.head,layered.last,same⟩
    · intro name p found
      obtain ⟨-,first,last,layered,same⟩ := m.pool found
      exact ⟨first,last,layered.head,layered.last,same⟩
  · intro clash
    have stuck : ∀ acc, ¬Merges (inPriorityOrder entries) acc := by
      intro acc m
      rcases clash with ⟨id,named,clash⟩ | ⟨name,named,clash⟩
      · have ok := m.routes id
        rw [routeCellNamed named,clashes clash] at ok
        cases ok
      · have ok := m.pools name
        rw [poolCellNamed named,clashes clash] at ok
        cases ok
    obtain ⟨m,failed,conflict⟩ := mergeConflicts stuck
    refine ⟨m,?_,conflict⟩
    unfold merge
    rw [loaded]
    change (inPriorityOrder entries).foldlM mergeEntry {} >>= _ = _
    rw [failed]
    rfl

theorem splitMergeFirstLast : ∃ entries out, loadAll listed 0 [fileProvider,overlayProvider] = .ok entries ∧
    merge listed [fileProvider,overlayProvider] = .ok out ∧ "r1" ∈ (items out.routes).map (·.id) ∧
    ((items out.routes).map (·.id)).Nodup ∧
    ∃ entries' m, loadAll listed 0 [fileProvider,rivalProvider] = .ok entries' ∧
      merge listed [fileProvider,rivalProvider] = .error m ∧ Conflict m := by
  obtain ⟨out,merged⟩ := listedMerges
  obtain ⟨entries,loaded,e,inside,r,among,named⟩ : ∃ entries, loadAll listed 0 [fileProvider,overlayProvider] = .ok entries ∧
    ∃ e ∈ entries, ∃ r ∈ items e.cfg.routes, r.id = "r1" := ⟨_,rfl,_,List.mem_cons_self,_,List.mem_cons_self,rfl⟩
  obtain ⟨once,ids,-⟩ := (mergeFirstLast loaded).1 out merged
  have present := (ids "r1").mpr ⟨by decide,e,inside,r,among,named⟩
  obtain ⟨entries',loaded',sorted,clash⟩ : ∃ entries', loadAll listed 0 [fileProvider,rivalProvider] = .ok entries' ∧
      (entries'.map Loaded.priority).Pairwise (· ≤ ·) ∧ Clashes routeBase weights Route.overlay (routesUnder "r1" entries') :=
    ⟨_,rfl,by decide,.inr ⟨[],_,_,[],rfl,by decide,rfl⟩⟩
  rw [← sortedAlready sorted] at clash
  obtain ⟨m,failed,conflict⟩ := (mergeFirstLast loaded').2 (.inl ⟨"r1",by decide,clash⟩)
  exact ⟨entries,out,loaded,merged,present,once,entries',m,loaded',failed,conflict⟩

theorem overlayFlagCleared : ∃ entries out first p, loadAll listed 0 [overlayProvider] = .ok entries ∧
    merge listed [overlayProvider] = .ok out ∧ poolsUnder "p1" (inPriorityOrder entries) = [first] ∧
    out.pools.get "p1" = some p ∧ p ≠ { first with endpoints := first.endpoints } := by
  obtain ⟨entries,loaded,sorted,acc,ran,first,p,only,found,other⟩ : ∃ entries,
      loadAll listed 0 [overlayProvider] = .ok entries ∧ (entries.map Loaded.priority).Pairwise (· ≤ ·) ∧
      ∃ acc, entries.foldlM mergeEntry {} = .ok acc ∧ ∃ first p, poolsUnder "p1" entries = [first] ∧
      acc.pools.get "p1" = some p ∧ p ≠ { first with endpoints := first.endpoints } :=
    ⟨_,rfl,by decide,_,rfl,_,_,rfl,rfl,by decide⟩
  have same := sortedAlready sorted
  exact ⟨entries,_,first,p,loaded,(mergeOk loaded).mpr ⟨acc,same.symm ▸ ran,rfl⟩,same.symm ▸ only,found,other⟩

end ReverseProxy.MergeMeaning
