import ReverseProxy.ApplyRejection
import ReverseProxy.Deployments
import ReverseProxy.KeyIsolation

/-! Outlier detection of the live configuration. A build makes the entries its
snapshot's routes record under, and an idle-time reaper drops entries; which steps of
the process leave the routes of the current snapshot without theirs. -/
namespace ReverseProxy.OutlierCoverage
open GoValues FiniteMap ConfigData SnapshotBuild SnapshotStore Deployments
open ApplyManager (Circumstance CompileResult compileResolved compileResolvedOk compileResolvedCalls)
open ControlPlane (Worker callWorker linked)
open KeyIsolation (poolsOf)
open OutlierRegistry (Registry PoolEntry EndpointState)
open PolicyBuild (Outlier PoolConfig outlierFromConfig poolConfig trafficConfigOk)
open Transition (Runs anyStep runAll runAllRuns)

structure Watch where
  key : String
  endpoints : List String
  config : Outlier

def Watch.call (w : Watch) : Call := .outlier w.key w.endpoints w.config

def Held (r : Registry) (w : Watch) : Prop :=
  ∃ covers, r.watched.get w.key = some (w.config,covers) ∧ ∀ addr ∈ w.endpoints, covers addr = true

theorem Held.entry {r : Registry} {w : Watch} (held : Held r w) :
    ∃ e, r.pools.get w.key = some e ∧ e.config = w.config ∧ ∀ addr ∈ w.endpoints, ∃ state, e.endpoints.get addr = some state := by
  obtain ⟨covers,found,all⟩ := held
  obtain ⟨e,there,same⟩ := Option.map_eq_some_iff.mp found
  obtain ⟨config,rfl⟩ := Prod.mk.inj same
  exact ⟨e,there,config,fun addr inside => Option.isSome_iff_exists.mp (all addr inside)⟩

theorem heldReconciled (r : Registry) (w : Watch) (now : Int) (named : w.key ≠ "") :
    Held (r.reconcile w.key w.endpoints w.config now) w := by
  unfold Held
  rw [Registry.reconcileWatched r _ _ _ named, Map.getInsertSame]
  exact ⟨_,rfl,fun addr inside => decide_eq_true inside⟩

theorem Held.reconcile {r : Registry} {w : Watch} (held : Held r w) {key : String} {endpoints : List String} {cfg : Outlier}
    (now : Int) (agrees : w.key = key → w.config = cfg ∧ ∀ addr ∈ w.endpoints, addr ∈ endpoints) :
    Held (r.reconcile key endpoints cfg now) w := by
  by_cases named : key = ""
  · unfold Registry.reconcile
    rw [if_pos named]
    exact held
  · unfold Held
    rw [Registry.reconcileWatched r _ _ _ named, Map.getInsert]
    split
    · rename_i own
      obtain ⟨rfl,all⟩ := agrees own
      exact ⟨_,rfl,fun addr inside => decide_eq_true (all addr inside)⟩
    · exact held

theorem Held.reap {r : Registry} {w : Watch} (held : Held r w) {now : Int}
    (young : ∀ e, r.pools.get w.key = some e → now - r.ttl ≤ e.lastSeen) : Held (OutlierDetection.reapOnce r now) w := by
  obtain ⟨covers,found,all⟩ := held
  obtain ⟨e,there,same⟩ := Option.map_eq_some_iff.mp found
  change r.pools.get w.key = some e at there
  refine ⟨covers,?_,all⟩
  change ((r.pools.get w.key).filter _).map _ = _
  rw [there, Option.filter_some, if_pos (decide_eq_true (young e there)), Option.map_some, same]

def watch (pools : PoolMap) (routeID pool : String) : Watch :=
  ⟨routePoolKey routeID pool,items (pools.getD pool).endpoints,outlierFromConfig (pools.getD pool).outlier⟩

def watchesOf (cfg : Config) : List Watch :=
  (items cfg.routes).flatMap (fun route => (poolsOf route).map (watch cfg.pools route.id))

theorem turnAsks {runes : RuneTables} {pools : PoolMap} {seen names later : List String} {t : Turn}
    (checked : Checked runes pools seen names t.route t.policy t.choice later) {pool : String} (inside : pool ∈ poolsOf t.route) :
    (watch pools t.route.id pool).call ∈ t.calls pools := by
  obtain ⟨enabled,-,names⟩ := trafficConfigOk checked.traffic
  unfold poolsOf at inside
  unfold Turn.calls reconcileRoute
  rw [enabled]
  cases on : t.route.policy.traffic.enabled with
  | false =>
    simp only [on, Bool.false_eq_true, if_false, List.mem_singleton] at inside
    subst inside
    exact List.mem_singleton_self _
  | true =>
    obtain ⟨stable,canary⟩ := names on
    simp only [on, if_true] at inside ⊢
    by_cases none : trimSpace t.route.policy.traffic.canaryPool = ""
    · rw [canary, if_neg (not_not.mpr none)]
      simp only [none, if_true, List.mem_singleton] at inside
      rw [inside, ← stable]
      exact List.mem_cons_of_mem _ List.mem_cons_self
    · rw [canary, if_pos none]
      simp only [none, if_false, List.mem_cons, List.not_mem_nil, or_false] at inside
      rcases inside with rfl | rfl
      · rw [← stable]
        exact List.mem_cons_of_mem _ List.mem_cons_self
      · exact List.mem_cons_of_mem _ (List.mem_cons_of_mem _ List.mem_cons_self)

theorem buildAsks {platform : Platform} {around : Circumstance} {cfg : Config} {r : CompileResult}
    (ok : (compileResolved platform around cfg).result = .ok r) {w : Watch} (inside : w ∈ watchesOf cfg) :
    w.call ∈ (compileResolved platform around cfg).calls := by
  obtain ⟨-,builds,-⟩ := compileResolvedOk.mp ok
  obtain ⟨turns,routes,-,calls,went⟩ := buildRoutesOk builds.routed
  obtain ⟨route,listed,asked⟩ := List.mem_flatMap.mp inside
  obtain ⟨pool,ofRoute,rfl⟩ := List.mem_map.mp asked
  rw [← routes] at listed
  obtain ⟨t,member,rfl⟩ := List.mem_map.mp listed
  obtain ⟨seen,names,later,checked⟩ := went t member
  rw [compileResolvedCalls ok, calls]
  exact List.mem_append_right _ (List.mem_cons_of_mem _ (List.mem_flatMap.mpr ⟨t,member,turnAsks checked ofRoute⟩))

def BuiltFrom (platform : Platform) (cfg : Config) (compiled : Compiled) : Prop :=
  ∃ (range : cfg.pools.Range) (replies : List Reply) (made : Compiled),
    Builds platform cfg range.order made ∧ compiled = linkPlans replies made

def targets (r : CompiledRoute) : List (String × String) :=
  (r.poolName,r.stablePoolKey) :: (if r.canaryPoolKey = "" then [] else [(r.canaryPoolName,r.canaryPoolKey)])

theorem compiledTargets {runes : RuneTables} {pools : PoolMap} {seen names later : List String} {t : Turn}
    (checked : Checked runes pools seen names t.route t.policy t.choice later) :
    targets (t.compiled runes) = (poolsOf t.route).map (fun pool => (pool,routePoolKey t.route.id pool)) ∧
      ∀ pool ∈ poolsOf t.route, (pools.get pool).isSome = true := by
  obtain ⟨enabled,-,names⟩ := trafficConfigOk checked.traffic
  cases on : t.route.policy.traffic.enabled with
  | false => simp [targets,poolsOf,Turn.compiled,compiledRoute,enabled,on,checked.pool]
  | true =>
    obtain ⟨stable,canary⟩ := names on
    have known := checked.stable (enabled.trans on)
    by_cases none : trimSpace t.route.policy.traffic.canaryPool = ""
    · simpa [targets,poolsOf,Turn.compiled,compiledRoute,enabled,on,stable,canary,none] using stable ▸ known
    · have also := checked.canary (enabled.trans on) (canary ▸ none)
      rw [stable] at known
      rw [canary] at also
      simp [targets,poolsOf,Turn.compiled,compiledRoute,enabled,on,stable,canary,none,routePoolKeyNamed,known,also]

theorem BuiltFrom.target {platform : Platform} {cfg : Config} {compiled : Compiled} (built : BuiltFrom platform cfg compiled)
    {r : CompiledRoute} (inside : r ∈ compiled.routes) {name key : String} (target : (name,key) ∈ targets r) :
    compiled.poolConfigs.get name = some (poolConfig (cfg.pools.getD name)) ∧ key ≠ "" ∧
      ⟨key,items (cfg.pools.getD name).endpoints,outlierFromConfig (cfg.pools.getD name).outlier⟩ ∈ watchesOf cfg := by
  obtain ⟨range,replies,made,builds,rfl⟩ := built
  obtain ⟨turns,routes,rows,-,went⟩ := buildRoutesOk builds.routed
  obtain ⟨before,member,rfl⟩ := List.mem_map.mp inside
  rw [← rows] at member
  obtain ⟨t,turn,rfl⟩ := List.mem_map.mp member
  obtain ⟨seen,names,later,checked⟩ := went t turn
  obtain ⟨all,known⟩ := compiledTargets checked
  change (name,key) ∈ targets (t.compiled platform.runes) at target
  rw [all] at target
  obtain ⟨pool,ofRoute,same⟩ := List.mem_map.mp target
  cases same
  refine ⟨?_,routePoolKeyNamed _ _,?_⟩
  · obtain ⟨config,found⟩ := Option.isSome_iff_exists.mp (known name ofRoute)
    change made.poolConfigs.get name = _
    rw [builds.poolConfigured found, PoolMap.getD, found]
    rfl
  · refine List.mem_flatMap.mpr ⟨t.route,?_,List.mem_map_of_mem ofRoute⟩
    rw [← routes]
    exact List.mem_map_of_mem turn

def Asked (w : Watch) : Worker → Prop
  | .calling script made _ => w.call ∈ script.calls.take made
  | .finished (.ok r) => w ∈ watchesOf r.config
  | _ => False

def Needed (s : State) (w : Watch) : Prop :=
  w.config.enabled = true ∧
    ((∃ cfg, s.origin = some cfg ∧ w ∈ watchesOf cfg) ∨ ∃ worker, Awaits s worker ∧ Asked w worker)

/- A Reconcile call agrees with the needed watches of its key, the reaper finds their
entries in use, and a rollback puts back a snapshot whose entries are there. -/
def Spares (platform : Platform) (rm : Rollout.Manager) (s : State) (a : Action) : Prop :=
  match effect platform rm s a with
  | .reconcile key endpoints cfg _ =>
    ∀ w, Needed s w → w.key = key → w.config = cfg ∧ ∀ addr ∈ w.endpoints, addr ∈ endpoints
  | .reapOutliers now => ∀ w, Needed s w → ∀ e, (outliers s).pools.get w.key = some e → now - (outliers s).ttl ≤ e.lastSeen
  | .putBack _ origin => ∀ cfg, origin = some cfg → ∀ w ∈ watchesOf cfg, w.config.enabled = true → Held (outliers s) w
  | _ => True

def Sound (platform : Platform) : Worker → Prop
  | .calling script _ _ => (∃ e, script = ⟨[],.error e⟩) ∨ ∃ around cfg, script = compileResolved platform around cfg
  | .finished (.ok r) => BuiltFrom platform r.config r.compiled
  | _ => True

structure Covered (platform : Platform) (s : State) : Prop where
  held : ∀ w, Needed s w → Held (outliers s) w
  workers : ∀ w, Awaits s w → Sound platform w
  current : ∀ snapshot, s.plane.live.store.current = some snapshot →
    ∃ cfg, s.origin = some cfg ∧ BuiltFrom platform cfg snapshot.compiled
  earlier : ∀ snapshot origin, Remembers s snapshot origin → ∃ cfg, origin = some cfg ∧ BuiltFrom platform cfg snapshot.compiled

section
variable {platform : Platform} {rm : Rollout.Manager} {m : ApplyManager.Manager} {s s' : State} {a : Action}

theorem heldStep (start : Covered platform s) (spares : Spares platform rm s a)
    (seen : view s' = after platform.runes (view s) (effect platform rm s a)) {w : Watch} (need : Needed s w) :
    Held (outliers s') w := by
  have held := start.held w need
  have same := congrArg View.outlier seen
  change outliers s' = _ at same
  unfold Spares at spares
  rw [same]
  cases done : effect platform rm s a with
  | reconcile key endpoints cfg now =>
    rw [done] at spares
    exact held.reconcile now (spares w need)
  | reapOutliers now =>
    rw [done] at spares
    exact held.reap (spares w need)
  | record key addr success latency now =>
    unfold Held
    rw [show (after platform.runes (view s) (.record key addr success latency now)).outlier.watched = _ from
      OutlierDetection.recordWatched (outliers s) key addr success latency now]
    exact held
  | askEjected key addr now =>
    unfold Held
    rw [show (after platform.runes (view s) (.askEjected key addr now)).outlier.watched = _ from
      OutlierDetection.askEjectedWatched (outliers s) key addr now]
    exact held
  | evaluateLatency key order now =>
    unfold Held
    rw [show (after platform.runes (view s) (.evaluateLatency key order now)).outlier.watched = _ from
      OutlierDetection.evaluateLatencyWatched (outliers s) key order now]
    exact held
  | _ => exact held

theorem originHeld (start : Covered platform s) (spares : Spares platform rm s a)
    (went : Advances platform s s' (effect platform rm s a)) {w : Watch} (on : w.config.enabled = true) {cfg : Config}
    (origin : s'.origin = some cfg) (inside : w ∈ watchesOf cfg) : Held (outliers s') w := by
  have before (need : Needed s w) : Held (outliers s') w := heldStep start spares went.view need
  cases went.installs with
  | kept _ same => exact before ⟨on,.inl ⟨cfg,same.symm.trans origin,inside⟩⟩
  | published awaited _ _ now =>
    cases Option.some.inj (now.symm.trans origin)
    exact before ⟨on,.inr ⟨_,awaited,inside⟩⟩
  | @putBack previous was back _ now _ same =>
    unfold Spares at spares
    rw [back] at spares
    rw [same]
    exact spares cfg (now.symm.trans origin) w inside on

theorem askedHeld (start : Covered platform s) (spares : Spares platform rm s a)
    (went : Advances platform s s' (effect platform rm s a)) {worker : Worker}
    (moves : Moves platform s (effect platform rm s a) worker) {w : Watch} (on : w.config.enabled = true)
    (asked : Asked w worker) : Held (outliers s') w := by
  have before (need : Needed s w) : Held (outliers s') w := heldStep start spares went.view need
  have seen := congrArg View.outlier went.view
  generalize effect platform rm s a = e at moves seen
  cases moves with
  | @finished script made replies awaited all =>
    refine before ⟨on,.inr ⟨_,awaited,?_⟩⟩
    unfold linked at asked
    cases result : script.result with
    | error e =>
      rw [result] at asked
      cases asked
    | ok r =>
      rw [result] at asked
      change w.call ∈ script.calls.take made
      rw [List.take_of_length_le all]
      rcases start.workers _ awaited with ⟨e,rfl⟩ | ⟨around,cfg,rfl⟩
      · cases result
      · obtain ⟨-,-,same⟩ := compileResolvedOk.mp result
        change w ∈ watchesOf r.config at asked
        rw [same] at asked
        exact buildAsks result asked
  | @called script made replies call now awaited next =>
    have more (either : w.call ∈ script.calls.take (made + 1)) : Held (outliers s') w := by
      rw [List.take_add_one, next] at either
      rcases List.mem_append.mp either with earlier | own
      · exact before ⟨on,.inr ⟨_,awaited,earlier⟩⟩
      · cases List.mem_singleton.mp own
        change outliers s' = (outliers s).reconcile w.key w.endpoints w.config now at seen
        rw [seen]
        refine heldReconciled (outliers s) w now ?_
        have member := List.mem_of_getElem? next
        rcases start.workers _ awaited with ⟨e,rfl⟩ | ⟨around,cfg,rfl⟩
        · cases member
        · exact (ApplyRejection.compileResolvedTidy platform around cfg).named _ _ _ member
    cases answer : (perform platform.runes s.plane.live.registries (now,call)).1 with
    | error e =>
      rw [answer] at asked
      cases asked
    | ok reply =>
      rw [answer] at asked
      exact more asked
  | _ => cases asked

theorem movesSound (start : Covered platform s) {e : Effect} {w : Worker} (moves : Moves platform s e w) : Sound platform w := by
  cases moves with
  | loading => trivial
  | unmerged e => exact .inl ⟨e,rfl⟩
  | started around cfg => exact .inr ⟨around,cfg,rfl⟩
  | @called script made replies call now awaited next =>
    have sound := start.workers _ awaited
    cases (perform platform.runes s.plane.live.registries (now,call)).1 with
    | error e => trivial
    | ok reply => exact sound
  | @finished script made replies awaited all =>
    unfold linked
    cases result : script.result with
    | error e => trivial
    | ok r =>
      rcases start.workers _ awaited with ⟨e,rfl⟩ | ⟨around,cfg,rfl⟩
      · cases result
      · obtain ⟨-,builds,rfl⟩ := compileResolvedOk.mp result
        exact ⟨_,replies,r.compiled,builds,rfl⟩

theorem currentBuilt (start : Covered platform s) (went : Advances platform s s' (effect platform rm s a)) {snapshot : Snapshot}
    (current : s'.plane.live.store.current = some snapshot) :
    ∃ cfg, s'.origin = some cfg ∧ BuiltFrom platform cfg snapshot.compiled := by
  cases went.installs with
  | kept same origin =>
    rw [origin]
    exact start.current snapshot (same.symm.trans current)
  | published awaited now compiled origin =>
    cases Option.some.inj (now.symm.trans current)
    refine ⟨_,origin,?_⟩
    rw [compiled]
    exact start.workers _ awaited
  | @putBack previous was back now origin =>
    cases Option.some.inj (now.symm.trans current)
    rw [origin]
    exact start.earlier snapshot was (putBackRemembered back)

theorem coveredStep (start : Covered platform s) (spares : Spares platform rm s a) (taken : step platform rm m s a = some s') :
    Covered platform s' := by
  have went := advances taken
  refine ⟨?_,?_,fun snapshot => currentBuilt start went,?_⟩
  · rintro w ⟨on,⟨cfg,origin,inside⟩ | ⟨worker,awaits,asked⟩⟩
    · exact originHeld start spares went on origin inside
    · rcases went.workers worker awaits with before | moves
      · exact heldStep start spares went.view ⟨on,.inr ⟨worker,before,asked⟩⟩
      · exact askedHeld start spares went moves on asked
  · intro worker awaits
    exact (went.workers worker awaits).elim (start.workers worker) (movesSound start)
  · intro snapshot origin now
    rcases remembered taken now with before | ⟨current,rfl⟩
    · exact start.earlier snapshot origin before
    · exact start.current snapshot current

theorem coveredEmpty : Covered platform {} := by
  refine ⟨?_,fun worker awaits => absurd awaits awaitsEmpty,?_,fun snapshot origin now => absurd now remembersEmpty⟩
  · rintro w ⟨-,⟨cfg,origin,-⟩ | ⟨worker,awaits,-⟩⟩
    · cases origin
    · exact absurd awaits awaitsEmpty
  · intro snapshot current
    cases current

end

def Heard (r : Registry) (key addr : String) : Prop :=
  ∃ e state, r.pools.get key = some e ∧ e.endpoints.get addr = some state ∧ ∀ success latency now,
    (OutlierDetection.record r key addr success latency now).1 = (OutlierDetection.told e.config success latency now state).1 ∧
      ((OutlierDetection.record r key addr success latency now).2.pools.get key).bind (fun q => q.endpoints.get addr) =
        some (OutlierDetection.told e.config success latency now state).2

def Detects (platform : Platform) (s : State) : Prop :=
  ∀ snapshot, s.plane.live.store.current = some snapshot →
    ∃ cfg, s.origin = some cfg ∧ BuiltFrom platform cfg snapshot.compiled ∧
      ∀ r ∈ snapshot.compiled.routes, ∀ name key, (name,key) ∈ targets r →
        ∃ pc, snapshot.compiled.poolConfigs.get name = some pc ∧ (pc.outlier.enabled = true →
          (∃ e, (outliers s).pools.get key = some e ∧ e.config = pc.outlier ∧
            ∀ addr ∈ items (cfg.pools.getD name).endpoints, (e.endpoints.get addr).isSome = true) ∧
          ∀ addr ∈ items (cfg.pools.getD name).endpoints, addr ≠ "" → Heard (outliers s) key addr)

theorem entriesStay {platform : Platform} {rm : Rollout.Manager} {m : ApplyManager.Manager} {as : List Action} {s : State}
    (run : Runs (step platform rm m) (Spares platform rm) {} as s) : Detects platform s := by
  have covered := run.preserve (Covered platform) (fun _ _ _ start spares taken => coveredStep start spares taken) coveredEmpty
  intro snapshot current
  obtain ⟨cfg,origin,built⟩ := covered.current snapshot current
  refine ⟨cfg,origin,built,?_⟩
  intro r inside name key target
  obtain ⟨config,named,watched⟩ := built.target inside target
  refine ⟨_,config,?_⟩
  intro on
  obtain ⟨e,found,same,addresses⟩ := (covered.held _ ⟨on,.inl ⟨cfg,origin,watched⟩⟩).entry
  refine ⟨⟨e,found,same,fun addr listed => Option.isSome_iff_exists.mpr (addresses addr listed)⟩,?_⟩
  intro addr listed addressed
  obtain ⟨state,there⟩ := addresses addr listed
  have enabled : e.config.enabled = true := by
    rw [same]
    exact on
  exact ⟨e,state,found,there,OutlierDetection.recordTold found there enabled named addressed⟩

def detectedRoute : Route := { id := "r", host := "h", pathPrefix := "/", pool := "p" }

def detected : Config :=
  { routes := some [detectedRoute]
    pools := .single "p" { endpoints := some ["10.0.0.1:80"], outlier := { enabled := true } } }

theorem idleEntryReaped :
    ∃ as s, Runs (step (Rollout.codec detected) {} {}) anyStep {} as s ∧ ¬Detects (Rollout.codec detected) s := by
  obtain ⟨s,ran,snapshot,r,name,key,pc,current,inside,target,config,on,gone⟩ :
      ∃ s, runAll (step (Rollout.codec detected) {} {}) anyStep {}
          (locksDown 3 ++ opensUp 3 ++ [.reapOutliers (31 * minute)]) = some s ∧
      ∃ snapshot r name key pc, s.plane.live.store.current = some snapshot ∧ r ∈ snapshot.compiled.routes ∧
        (name,key) ∈ targets r ∧ snapshot.compiled.poolConfigs.get name = some pc ∧ pc.outlier.enabled = true ∧
        ((outliers s).pools.get key).isNone = true :=
    ⟨_,rfl,_,_,_,_,_,rfl,List.mem_cons_self,List.mem_cons_self,rfl,rfl,rfl⟩
  refine ⟨_,s,runAllRuns ran,?_⟩
  intro detects
  obtain ⟨cfg,-,-,covers⟩ := detects snapshot current
  obtain ⟨pc',config',holds⟩ := covers r inside name key target
  cases Option.some.inj (config.symm.trans config')
  obtain ⟨⟨e,found,-⟩,-⟩ := holds on
  rw [found] at gone
  cases gone

def gentle (platform : Platform) (rm : Rollout.Manager) (s : State) (a : Action) : Bool :=
  match effect platform rm s a with
  | .reconcile key _ _ _ => ((outliers s).pools.get key).isNone
  | .reapOutliers _ => false
  | .putBack _ _ => false
  | _ => true

theorem gentleSpares {platform : Platform} {rm : Rollout.Manager} {s : State} {a : Action} (covered : Covered platform s)
    (is : gentle platform rm s a = true) : Spares platform rm s a := by
  unfold gentle at is
  unfold Spares
  cases done : effect platform rm s a with
  | reconcile key endpoints cfg now =>
    simp only [done] at is
    rintro w need rfl
    obtain ⟨e,found,-⟩ := (covered.held w need).entry
    rw [found] at is
    cases is
  | reapOutliers now =>
    rw [done] at is
    cases is
  | putBack snapshot origin =>
    rw [done] at is
    cases is
  | _ => trivial

theorem busyEntryKept :
    ∃ as s, Runs (step (Rollout.codec detected) {} {}) (Spares (Rollout.codec detected) {}) {} as s ∧
      s.plane.live.store.current.isSome = true ∧ s.origin = some (Rollout.maskLockedConfig detected) ∧
      Detects (Rollout.codec detected) s := by
  obtain ⟨s,ran,seen,t,ticked,current,origin⟩ :
      ∃ s, runAll (step (Rollout.codec detected) {} {}) (gentle (Rollout.codec detected) {} · · = true) {}
          (locksDown 3 ++ [.record "r::p" "10.0.0.1:80" true 5 second]) = some s ∧
        (∀ key e, (outliers s).pools.get key = some e → minute - (outliers s).ttl ≤ e.lastSeen) ∧
      ∃ t, step (Rollout.codec detected) {} {} s (.reapOutliers minute) = some t ∧
        t.plane.live.store.current.isSome = true ∧ t.origin = some (Rollout.maskLockedConfig detected) := by
    refine ⟨_,rfl,?_,_,rfl,rfl,rfl⟩
    intro key e found
    by_cases own : key = "r::p"
    · subst own
      cases found
      decide
    · change (if key = "r::p" then _ else if key = "r::p" then _ else if key = "r::p" then _ else none) = some e at found
      simp [own] at found
  have first := (runAllRuns ran).tighten (Covered (Rollout.codec detected)) (fun _ _ => gentleSpares)
    (fun _ _ _ start spares taken => coveredStep start spares taken) coveredEmpty
  have spares : Spares (Rollout.codec detected) {} s (.reapOutliers minute) := by
    intro w need
    exact seen w.key
  have run := first.append (.cons spares ticked (.nil t))
  exact ⟨_,t,run,current,origin,entriesStay run⟩

end ReverseProxy.OutlierCoverage
