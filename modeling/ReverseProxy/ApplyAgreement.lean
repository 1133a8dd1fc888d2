import ReverseProxy.ApplyRejection
import ReverseProxy.PlanHistory

/-! Manager.Apply with the admin config as its only provider against
Manager.ApplyResolvedVersion on the same bytes. Both compile the same routes with the
same traffic plans, the same pools and TLS; Merge rebuilds the config from just these
sections, so the limits and the logging of a pushed config are replaced by the defaults
on the way. -/
namespace ReverseProxy.ApplyAgreement
open GoValues FiniteMap CallScript ConfigData ConfigValidation PolicyBuild ProviderMerge SnapshotBuild SnapshotStore
open ApplyManager RegistryEffect
open PlanHistory (Grounded Lived Settings groundedNew runGrounded answersFound settingsAt settingsOf)

def TLSLike (a b : TLSConfig) : Prop := a = b ∨ (a.enabled = false ∧ b.enabled = false)

structure Alike (a b : Config) : Prop where
  routes : items a.routes = items b.routes
  pools : a.pools.entries.Perm b.pools.entries
  tls : TLSLike a.tls b.tls

theorem getAlike {p q : PoolMap} (perm : p.entries.Perm q.entries) (name : String) : p.get name = q.get name :=
  congrFun (Map.keyedPerm p.unique perm) name

theorem checkRouteCongr {runes : RuneTables} {p q : PoolMap} (same : ∀ name, p.get name = q.get name)
    (seen names : List String) (route : Route) :
    checkRoute runes p seen names route = checkRoute runes q seen names route := by
  unfold checkRoute
  simp only [same]

theorem reconcileRouteCongr {p q : PoolMap} (same : ∀ name, p.get name = q.get name) (route : Route)
    (choice : TrafficChoice) : reconcileRoute p route choice = reconcileRoute q route choice := by
  unfold reconcileRoute reconcileOutlier PoolMap.getD
  simp only [same]

theorem buildRoutesCongr {runes : RuneTables} {p q : PoolMap} (same : ∀ name, p.get name = q.get name)
    (seen names : List String) (routes : List Route) :
    buildRoutes runes p seen names routes = buildRoutes runes q seen names routes := by
  induction routes generalizing seen names with
  | nil => rfl
  | cons route rest ih =>
    rw [buildRoutes,buildRoutes,checkRouteCongr same]
    simp only [reconcileRouteCongr same,ih]

theorem validateRoutesCongr {platform : Platform} {a b : TLSConfig} (like : TLSLike a b) (routes : List Route) :
    validateRoutes platform a routes = validateRoutes platform b routes := by
  have each : ∀ route, validateRoute a route = validateRoute b route := by
    intro route
    rcases like with rfl | ⟨left,right⟩
    · rfl
    · unfold validateRoute
      cases required : route.policy.requireMTLS <;> simp [left,right]
  induction routes with
  | nil => rfl
  | cons route rest ih => rw [validateRoutes,validateRoutes,each,ih]

theorem compileTLSCongr {platform : Platform} {a b : TLSConfig} (like : TLSLike a b) (required : Bool) :
    compileTLS platform a required = compileTLS platform b required := by
  rcases like with rfl | ⟨left,right⟩
  · rfl
  · unfold compileTLS
    rw [left,right]
    rfl

/- What a build needs besides its limits, with the routes and TLS settings it ends
with; `assigned` is the live traffic registry's. -/
structure Buildable (platform : Platform) (assigned : TrafficRegistry.Assigned) (cfg : Config)
    (routes : List CompiledRoute) (tls : CompiledTLS) : Prop where
  validated : (validateRoutes platform cfg.tls (items cfg.routes)).toOption.isSome = true
  endpoints : ∀ e ∈ cfg.pools.entries, hasEndpoints e = true
  routed : (buildRoutes platform.runes cfg.pools [] [] (items cfg.routes)).result = .ok routes
  secured : compileTLS platform cfg.tls (routes.any (·.policy.requireMTLS)) = .ok tls
  plans : (buildRoutes platform.runes cfg.pools [] [] (items cfg.routes)).calls.any
    (callFails platform.runes assigned) = false

theorem buildableAlike {platform : Platform} {assigned : TrafficRegistry.Assigned} {a b : Config} (alike : Alike a b)
    {routes : List CompiledRoute} {tls : CompiledTLS} (builds : Buildable platform assigned a routes tls) :
    Buildable platform assigned b routes tls := by
  have same := @buildRoutesCongr platform.runes _ _ (getAlike alike.pools) [] [] (items b.routes)
  refine ⟨?_,?_,?_,?_,?_⟩
  · rw [← validateRoutesCongr alike.tls,← alike.routes]
    exact builds.validated
  · exact fun e member => builds.endpoints e (alike.pools.mem_iff.mpr member)
  · rw [← same,← alike.routes]
    exact builds.routed
  · rw [← compileTLSCongr alike.tls]
    exact builds.secured
  · rw [← same,← alike.routes]
    exact builds.plans

theorem alikeSymm {a b : Config} (alike : Alike a b) : Alike b a := by
  refine ⟨alike.routes.symm,alike.pools.symm,?_⟩
  rcases alike.tls with same | ⟨left,right⟩
  · exact .inl same.symm
  · exact .inr ⟨right,left⟩

theorem sectionsAlike {cfg out : Config} {range : cfg.pools.Range} (sections : Sections cfg range.order out) :
    Alike out cfg := by
  refine ⟨sections.routes,sections.pools ▸ range.perm,?_⟩
  rw [sections.tls]
  split
  · rename_i empty
    have disabled : cfg.tls.enabled = false := by
      simp only [tlsEmpty,Bool.and_eq_true,Bool.not_eq_true'] at empty
      exact empty.1.1.1.1.1
    exact .inr ⟨rfl,disabled⟩
  · exact .inl rfl

/- The plans are pointers, each into the registry of its own call. -/
def sections (c : Compiled) : Compiled :=
  { c with routes := c.routes.map (fun r => { r with trafficPlan := none }) }

theorem sectionsLinked (plans : List Reply) (c : Compiled) : sections (linkPlans plans c) = sections c := by
  simp [sections,linkPlans]

def assembled (routes : List CompiledRoute) (order : List (String × Pool)) (tls : CompiledTLS) (limits : Limits)
    (logging : LoggingConfig) : Compiled :=
  { routes := routes
    pools := Map.keyed (order.map (fun e => (e.1,e.1)))
    poolConfigs := Map.keyed (order.map (fun e => (e.1,poolConfig e.2)))
    tls := tls
    routeCount := routes.length
    limits := limits
    logging := logging }

theorem buildsAssembled {platform : Platform} {cfg : Config} {order : List (String × Pool)} {compiled : Compiled}
    (builds : Builds platform cfg order compiled) :
    compiled = assembled compiled.routes order compiled.tls compiled.limits cfg.logging := by
  unfold assembled
  rw [← builds.pools,← builds.poolConfigs,← builds.routeCount,← builds.logging]

section
variable {platform : Platform} {c : Circumstance} {s : Registries} {cfg : Config} {r : CompileResult}

theorem runOk (ok : (compileResolved platform c cfg).result = .ok r) :
    (∃ replies, (run (perform platform.runes) s (stamp c.clock (compileResolved platform c cfg).calls)).1 = .ok replies) ↔
      (buildRoutes platform.runes cfg.pools [] [] (items cfg.routes)).calls.any
        (callFails platform.runes s.traffic.assigned) = false := by
  have distinct := (ApplyRejection.compileResolvedTidy platform c cfg).routes
  rw [← stampCalls c.clock (compileResolved platform c cfg).calls] at distinct
  have fails := @runFails platform.runes s _ distinct
  rw [stampCalls,compileResolvedCalls ok,fullFails,← compileResolvedCalls ok] at fails
  rw [← fails]
  cases (run (perform platform.runes) s (stamp c.clock (compileResolved platform c cfg).calls)).1 <;>
    simp [Except.toOption]

theorem executedIff :
    (∃ r, (execute platform c s (compileResolved platform c cfg)).1 = .ok r) ↔
      validateLimits cfg.limits = .ok () ∧ validateMetrics platform cfg.metrics = .ok () ∧
      (∃ limits, limitsFromConfig cfg.limits = .ok limits) ∧
      ∃ routes tls, Buildable platform s.traffic.assigned cfg routes tls := by
  constructor
  · rintro ⟨r,done⟩
    obtain ⟨made,replies,result,ran,_⟩ := executeOk.mp done
    obtain ⟨validated,builds,_⟩ := compileResolvedOk.mp result
    obtain ⟨limited,measured,routes⟩ := validateOk.mp ⟨_,validated⟩
    exact ⟨limited,measured,⟨_,builds.limits⟩,_,_,routes,
      fun e member => builds.endpoints e ((PoolMap.rangeMember _).mpr member),builds.routed,builds.secured,
      (runOk result).mp ⟨replies,ran⟩⟩
  · rintro ⟨limited,measured,⟨limits,made⟩,routes,tls,buildable⟩
    obtain ⟨warnings,validated⟩ := (@validateOk platform cfg (c.validateRange cfg.pools)).mpr
      ⟨limited,measured,buildable.validated⟩
    have result : (compileResolved platform c cfg).result =
        .ok ⟨assembled routes (c.buildRange cfg.pools).order tls limits cfg.logging,cfg,warnings⟩ :=
      compileResolvedOk.mpr ⟨validated,⟨made,
        fun e member => buildable.endpoints e ((PoolMap.rangeMember _).mp member),buildable.routed,buildable.secured,
        rfl,rfl,rfl,rfl⟩,rfl⟩
    obtain ⟨replies,ran⟩ := (runOk result).mpr buildable.plans
    exact ⟨_,executeOk.mpr ⟨_,replies,result,ran,rfl⟩⟩

def routeSettings (r : TrafficRegistry.Registry) (c : Compiled) : List (Option Settings) :=
  c.routes.map (fun route => settingsAt r route.trafficPlan)

def askedSettings (runes : RuneTables) (asked : List (String × Traffic)) (routes : List CompiledRoute) : List (Option Settings) :=
  routes.map (fun route => (asked.find? (fun p => p.1 = route.id)).bind (fun p => settingsOf runes p.2))

theorem executedSettings (grounded : Grounded platform.runes s.traffic) {routes : List CompiledRoute}
    (routed : (buildRoutes platform.runes cfg.pools [] [] (items cfg.routes)).result = .ok routes)
    (done : (execute platform c s (compileResolved platform c cfg)).1 = .ok r) :
    routeSettings (execute platform c s (compileResolved platform c cfg)).2.traffic r.compiled =
      askedSettings platform.runes (planned (buildRoutes platform.runes cfg.pools [] [] (items cfg.routes)).calls) routes := by
  obtain ⟨made,replies,result,ran,rfl⟩ := executeOk.mp done
  obtain ⟨-,builds,-⟩ := compileResolvedOk.mp result
  cases Except.ok.inj (routed.symm.trans builds.routed)
  have answers := (runGrounded grounded (stamp c.clock (compileResolved platform c cfg).calls)).2 replies ran
  rw [stampCalls,← executeRun,compileResolvedCalls result,fullPlanned] at answers
  unfold routeSettings askedSettings linkPlans
  rw [List.map_map]
  exact List.map_congr_left fun route _ => answersFound answers route.id

theorem executedSections (done : (execute platform c s (compileResolved platform c cfg)).1 = .ok r) :
    ∃ routes tls limits, Buildable platform s.traffic.assigned cfg routes tls ∧
      limitsFromConfig cfg.limits = .ok limits ∧
      sections r.compiled = sections (assembled routes (c.buildRange cfg.pools).order tls limits cfg.logging) := by
  obtain ⟨made,replies,result,ran,same⟩ := executeOk.mp done
  obtain ⟨validated,builds,_⟩ := compileResolvedOk.mp result
  refine ⟨_,_,_,⟨(validateOk.mp ⟨_,validated⟩).2.2,
    fun e member => builds.endpoints e ((PoolMap.rangeMember _).mpr member),builds.routed,builds.secured,
    (runOk result).mp ⟨replies,ran⟩⟩,builds.limits,?_⟩
  rw [same]
  exact (sectionsLinked replies made.compiled).trans (congrArg sections (buildsAssembled builds))

end

/- Where the plans of a call's snapshot are. -/
def compiledInto (o : Outcome) : Mode → Registries
  | .apply => o.live.registries
  | .validate => o.temporary

def Agree (mode : Mode) (a b : Outcome) : Prop :=
  match a.result,b.result with
  | .ok x,.ok y => sections x.snapshot.compiled = sections y.snapshot.compiled ∧
      routeSettings (compiledInto a mode).traffic x.snapshot.compiled = routeSettings (compiledInto b mode).traffic y.snapshot.compiled
  | .error _,.error _ => True
  | _,_ => False

def OnlyAdmin (m : Manager) : Prop := m.providers = [] ∨ (m.hasAdmin = true ∧ m.providers = [.admin])

structure Unsaid (cfg : Config) : Prop where
  valid : validateLimits cfg.limits = .ok ()
  limits : limitsFromConfig cfg.limits = .ok Limits.default
  logging : cfg.logging = {}

def targets (live : Live) : Mode → Registries
  | .apply => live.registries
  | .validate => {}

def Compiles (platform : Platform) (s : Registries) (cfg : Config) : Prop :=
  validateMetrics platform cfg.metrics = .ok () ∧
  ∃ routes tls, Buildable platform s.traffic.assigned cfg routes tls

structure Pushes (platform : Platform) (c : Circumstance) (s : Registries) (cfg : Config) : Prop where
  timely : c.timing = .inTime
  compiles : Compiles platform s cfg

structure Resolves (platform : Platform) (d : Circumstance) (s : Registries) (cfg : Config) : Prop where
  timely : d.timing = .inTime
  compiles : Compiles platform s cfg
  valid : validateLimits cfg.limits = .ok ()
  limited : ∃ limits, limitsFromConfig cfg.limits = .ok limits

section
variable {platform : Platform} {m : Manager} {c d : Circumstance} {live : Live} {raw : Bytes} {source : String}
  {version : Bytes} {cfg : Config} {mode : Mode}

theorem onlyAdminProviders (only : OnlyAdmin m) (held : Option Config) :
    buildProviders m (if m.hasAdmin then some cfg else held) cfg = [adminProvider (some cfg)] := by
  unfold buildProviders
  rcases only with none | ⟨admin,listed⟩
  · rw [none]
    cases m.hasAdmin <;> rfl
  · rw [admin,listed]
    rfl

theorem applyInTime (checked : checkRequest platform m live raw = .ok cfg)
    (measured : validateMetrics platform cfg.metrics = .ok ()) (timely : c.timing = .inTime) {script : Build CompileResult}
    (compiles : compile platform c (buildProviders m (if m.hasAdmin then some cfg else live.admin) cfg) = script) :
    (apply platform m c live raw source mode).result =
        (execute platform c (targets live mode) script).1.map (published c source (configVersion platform raw)) ∧
      compiledInto (apply platform m c live raw source mode) mode = (execute platform c (targets live mode) script).2 := by
  unfold apply
  rw [checked]
  dsimp only
  rw [measured,timely,compiles]
  cases mode with
  | apply =>
    dsimp only [targets]
    cases execute platform c live.registries script with
    | mk answer t => cases answer <;> exact ⟨rfl,rfl⟩
  | validate =>
    dsimp only [targets]
    cases execute platform c {} script with
    | mk answer t => cases answer <;> exact ⟨rfl,rfl⟩

theorem resolvedInTime (checked : checkRequest platform m live raw = .ok cfg) (timely : d.timing = .inTime) :
    (applyResolvedVersion platform m d live raw source version mode).result =
        (execute platform d (targets live mode) (compileResolved platform d cfg)).1.map
          (published d source (if version = [] then configVersion platform raw else version)) ∧
      compiledInto (applyResolvedVersion platform m d live raw source version mode) mode =
        (execute platform d (targets live mode) (compileResolved platform d cfg)).2 := by
  unfold applyResolvedVersion
  rw [checked,timely]
  cases mode with
  | apply =>
    dsimp only [targets]
    cases execute platform d live.registries (compileResolved platform d cfg) with
    | mk answer t => cases answer <;> exact ⟨rfl,rfl⟩
  | validate =>
    dsimp only [targets]
    cases execute platform d {} (compileResolved platform d cfg) with
    | mk answer t => cases answer <;> exact ⟨rfl,rfl⟩

theorem executedMerged {out : Config} {range : cfg.pools.Range} (from_ : Sections cfg range.order out) :
    (∃ r, (execute platform c (targets live mode) (compileResolved platform c out)).1 = .ok r) ↔
      ∃ routes tls, Buildable platform (targets live mode).traffic.assigned cfg routes tls := by
  have alike := sectionsAlike from_
  rw [executedIff,from_.limits,from_.metrics]
  constructor
  · rintro ⟨_,_,_,routes,tls,builds⟩
    exact ⟨routes,tls,buildableAlike alike builds⟩
  · rintro ⟨routes,tls,builds⟩
    exact ⟨rfl,rfl,⟨_,limitsFromEmptyConfig⟩,routes,tls,buildableAlike (alikeSymm alike) builds⟩

theorem buildableUnique {assigned : TrafficRegistry.Assigned} {routes routes' : List CompiledRoute} {tls tls' : CompiledTLS}
    (left : Buildable platform assigned cfg routes tls) (right : Buildable platform assigned cfg routes' tls') :
    routes = routes' ∧ tls = tls' := by
  have same : routes = routes' := Except.ok.inj (left.routed.symm.trans right.routed)
  subst same
  exact ⟨rfl,Except.ok.inj (left.secured.symm.trans right.secured)⟩

theorem settingsAgree (grounded : Grounded platform.runes (targets live mode).traffic) {out : Config} {range : cfg.pools.Range}
    (from_ : Sections cfg range.order out) {a b : CompileResult}
    (left : (execute platform c (targets live mode) (compileResolved platform c out)).1 = .ok a)
    (right : (execute platform d (targets live mode) (compileResolved platform d cfg)).1 = .ok b) :
    routeSettings (execute platform c (targets live mode) (compileResolved platform c out)).2.traffic a.compiled =
      routeSettings (execute platform d (targets live mode) (compileResolved platform d cfg)).2.traffic b.compiled := by
  obtain ⟨routes,tls,-,builds,-⟩ := executedSections right
  have alike := sectionsAlike from_
  rw [executedSettings grounded (buildableAlike (alikeSymm alike) builds).routed left,
    executedSettings grounded builds.routed right,alike.routes,buildRoutesCongr (getAlike alike.pools)]

theorem compiledAgree {out : Config} {range : cfg.pools.Range} (from_ : Sections cfg range.order out) {a b : CompileResult}
    (left : (execute platform c (targets live mode) (compileResolved platform c out)).1 = .ok a)
    (right : (execute platform d (targets live mode) (compileResolved platform d cfg)).1 = .ok b) :
    sections a.compiled = sections b.compiled ↔
      limitsFromConfig cfg.limits = .ok Limits.default ∧ cfg.logging = {} := by
  obtain ⟨routes,tls,limits,builds,limited,whole⟩ := executedSections left
  obtain ⟨routes',tls',limits',builds',limited',whole'⟩ := executedSections right
  obtain ⟨rfl,rfl⟩ := buildableUnique (buildableAlike (sectionsAlike from_) builds) builds'
  rw [from_.limits,limitsFromEmptyConfig] at limited
  cases limited
  have perm : (c.buildRange out.pools).order.Perm (d.buildRange cfg.pools).order :=
    ((c.buildRange out.pools).perm.trans (sectionsAlike from_).pools).trans (d.buildRange cfg.pools).perm.symm
  have keys : ∀ {V : Type} (f : String × Pool → String × V), (∀ e, (f e).1 = e.1) →
      Map.keyed ((c.buildRange out.pools).order.map f) = Map.keyed ((d.buildRange cfg.pools).order.map f) := by
    intro V f key
    refine Map.keyedPerm ?_ (perm.map f)
    rw [List.map_map,show (fun e => e.1) ∘ f = (·.1) from funext key]
    exact PoolMap.rangeUnique _
  rw [whole,whole',from_.logging,limited']
  unfold sections assembled
  rw [keys (fun e => (e.1,e.1)) fun _ => rfl,keys (fun e => (e.1,poolConfig e.2)) fun _ => rfl]
  simp [eq_comm]

theorem applyLate (checked : checkRequest platform m live raw = .ok cfg)
    (measured : validateMetrics platform cfg.metrics = .ok ()) (late : c.timing ≠ .inTime) :
    ∃ e, (apply platform m c live raw source mode).result = .error e := by
  unfold apply
  rw [checked]
  dsimp only
  rw [measured]
  cases timing : c.timing with
  | inTime => exact absurd timing late
  | late cause progress => cases mode <;> cases progress <;> exact ⟨cause,rfl⟩

theorem resolvedLate (checked : checkRequest platform m live raw = .ok cfg) (late : d.timing ≠ .inTime) :
    ∃ e, (applyResolvedVersion platform m d live raw source version mode).result = .error e := by
  unfold applyResolvedVersion
  rw [checked]
  cases timing : d.timing with
  | inTime => exact absurd timing late
  | late cause progress => cases mode <;> cases progress <;> exact ⟨cause,rfl⟩

section
variable {out : Config} {range : cfg.pools.Range}

theorem mergedScript (only : OnlyAdmin m) (merged : merge c.mergeRanges [adminProvider (some cfg)] = .ok out) :
    compile platform c (buildProviders m (if m.hasAdmin then some cfg else live.admin) cfg) = compileResolved platform c out := by
  rw [onlyAdminProviders only,compileMerged merged]

theorem pushedResult (only : OnlyAdmin m) (checked : checkRequest platform m live raw = .ok cfg)
    (merged : merge c.mergeRanges [adminProvider (some cfg)] = .ok out) (from_ : Sections cfg range.order out)
    (pushes : Pushes platform c (targets live mode) cfg) :
    ∃ made, (execute platform c (targets live mode) (compileResolved platform c out)).1 = .ok made ∧
      (apply platform m c live raw source mode).result = .ok (published c source (configVersion platform raw) made) ∧
      compiledInto (apply platform m c live raw source mode) mode =
        (execute platform c (targets live mode) (compileResolved platform c out)).2 := by
  obtain ⟨made,done⟩ := (executedMerged from_).mpr pushes.compiles.2
  obtain ⟨result,into⟩ := applyInTime checked pushes.compiles.1 pushes.timely (mergedScript only merged)
  exact ⟨made,done,by rw [result,done]; rfl,into⟩

theorem notPushed (only : OnlyAdmin m) (checked : checkRequest platform m live raw = .ok cfg)
    (merged : merge c.mergeRanges [adminProvider (some cfg)] = .ok out) (from_ : Sections cfg range.order out)
    (fails : ¬Pushes platform c (targets live mode) cfg) :
    ∃ e, (apply platform m c live raw source mode).result = .error e := by
  cases measured : validateMetrics platform cfg.metrics with
  | error e => exact ⟨e,by simp [apply,checked,measured]⟩
  | ok _ =>
    by_cases timely : c.timing = .inTime
    · rw [(applyInTime checked measured timely (mergedScript only merged)).1]
      cases done : (execute platform c (targets live mode) (compileResolved platform c out)).1 with
      | error e => exact ⟨e,rfl⟩
      | ok made => exact absurd ⟨timely,measured,(executedMerged from_).mp ⟨made,done⟩⟩ fails
    · exact applyLate checked measured timely

end

theorem resolvedResult (checked : checkRequest platform m live raw = .ok cfg)
    (resolves : Resolves platform d (targets live mode) cfg) :
    ∃ made, (execute platform d (targets live mode) (compileResolved platform d cfg)).1 = .ok made ∧
      (applyResolvedVersion platform m d live raw source version mode).result =
        .ok (published d source (if version = [] then configVersion platform raw else version) made) ∧
      compiledInto (applyResolvedVersion platform m d live raw source version mode) mode =
        (execute platform d (targets live mode) (compileResolved platform d cfg)).2 := by
  obtain ⟨measured,builds⟩ := resolves.compiles
  obtain ⟨made,done⟩ := (@executedIff platform d (targets live mode) cfg).mpr
    ⟨resolves.valid,measured,resolves.limited,builds⟩
  obtain ⟨result,into⟩ := resolvedInTime checked resolves.timely
  exact ⟨made,done,by rw [result,done]; rfl,into⟩

theorem notResolved (checked : checkRequest platform m live raw = .ok cfg)
    (fails : ¬Resolves platform d (targets live mode) cfg) :
    ∃ e, (applyResolvedVersion platform m d live raw source version mode).result = .error e := by
  by_cases timely : d.timing = .inTime
  · rw [(resolvedInTime checked timely).1]
    cases done : (execute platform d (targets live mode) (compileResolved platform d cfg)).1 with
    | error e => exact ⟨e,rfl⟩
    | ok made =>
      obtain ⟨valid,measured,limited,builds⟩ := executedIff.mp ⟨made,done⟩
      exact absurd ⟨timely,⟨measured,builds⟩,valid,limited⟩ fails
  · exact resolvedLate checked timely

end

theorem targetsGrounded {runes : RuneTables} {live : Live} (lived : Lived runes live.registries.traffic) (mode : Mode) :
    Grounded runes (targets live mode).traffic := by
  cases mode with
  | apply => exact lived.grounded
  | validate => exact groundedNew runes _

theorem singleProviderAgrees {platform : Platform} {m : Manager} {c d : Circumstance} {live : Live} {raw : Bytes}
    {source : String} {version : Bytes} {mode : Mode} (only : OnlyAdmin m)
    (lived : Lived platform.runes live.registries.traffic) (plain : ∀ cfg, platform.parseJSON raw = .ok cfg → Plain cfg) :
    Agree mode (apply platform m c live raw source mode) (applyResolvedVersion platform m d live raw source version mode) ↔
      ∀ cfg, checkRequest platform m live raw = .ok cfg →
        (¬Pushes platform c (targets live mode) cfg ∧ ¬Resolves platform d (targets live mode) cfg) ∨
        (c.timing = .inTime ∧ d.timing = .inTime ∧ Unsaid cfg) := by
  unfold Agree
  cases checked : checkRequest platform m live raw with
  | error e =>
    simp [apply,applyResolvedVersion,checked]
  | ok cfg =>
    obtain ⟨out,merged,from_⟩ := mergeSingle c.mergeRanges (adminProvider (some cfg)) (plain cfg (checkedParsed checked)) rfl
    have asked : ∀ {p : Config → Prop}, (∀ x, Except.ok (ε := Message) cfg = .ok x → p x) ↔ p cfg := by simp
    rw [asked]
    by_cases pushes : Pushes platform c (targets live mode) cfg
    · obtain ⟨a,left,first,into⟩ := @pushedResult platform m c live raw source cfg mode out _ only checked merged from_ pushes
      rw [first]
      by_cases resolves : Resolves platform d (targets live mode) cfg
      · obtain ⟨b,right,second,into'⟩ := @resolvedResult platform m d live raw source version cfg mode checked resolves
        rw [second]
        dsimp only
        rw [into,into']
        refine (and_iff_left (settingsAgree (targetsGrounded lived mode) from_ left right)).trans
          ((compiledAgree from_ left right).trans ⟨?_,?_⟩)
        · rintro ⟨limits,logging⟩
          exact .inr ⟨pushes.timely,resolves.timely,resolves.valid,limits,logging⟩
        · rintro (⟨fails,-⟩ | ⟨-,-,unsaid⟩)
          · exact absurd pushes fails
          · exact ⟨unsaid.limits,unsaid.logging⟩
      · obtain ⟨e,second⟩ := @notResolved platform m d live raw source version cfg mode checked resolves
        rw [second]
        refine ⟨False.elim,?_⟩
        rintro (⟨fails,-⟩ | ⟨-,timely,unsaid⟩)
        · exact absurd pushes fails
        · exact absurd ⟨timely,pushes.compiles,unsaid.valid,_,unsaid.limits⟩ resolves
    · obtain ⟨e,first⟩ := @notPushed platform m c live raw source cfg mode out _ only checked merged from_ pushes
      rw [first]
      by_cases resolves : Resolves platform d (targets live mode) cfg
      · obtain ⟨b,-,second,-⟩ := @resolvedResult platform m d live raw source version cfg mode checked resolves
        rw [second]
        refine ⟨False.elim,?_⟩
        rintro (⟨-,fails⟩ | ⟨timely,-,-⟩)
        · exact absurd resolves fails
        · exact absurd ⟨timely,resolves.compiles⟩ pushes
      · obtain ⟨e',second⟩ := @notResolved platform m d live raw source version cfg mode checked resolves
        rw [second]
        exact ⟨fun _ => .inl ⟨pushes,resolves⟩,fun _ => trivial⟩

def redacting : Config := { logging := ⟨true⟩ }

theorem redactionLostByMerge :
    ¬Agree .apply (apply (decoding redacting) {} calm {} document "s" .apply)
      (applyResolvedVersion (decoding redacting) {} calm {} document "s" [] .apply) := by
  have merged : merge calm.mergeRanges [adminProvider (some redacting)] = .ok {} := by
    simp [merge,loadAll,adminProvider,bind,Except.bind]
    rfl
  unfold Agree
  rw [(@applyInTime (decoding redacting) {} calm {} document "s" redacting .apply rfl rfl rfl _
    (mergedScript (.inl rfl) merged)).1]
  rintro ⟨agree,-⟩
  have logging : (⟨false⟩ : LoggingConfig) = ⟨true⟩ := congrArg Compiled.logging agree
  cases logging

/- A route with every part of a traffic plan. -/
def splitting : Config :=
  { routes := some [{ id := "r", host := "h", pathPrefix := "/", pool := "p", policy := { traffic := {
      enabled := true, stablePool := "p", canaryPool := "c", stableWeight := 90, canaryWeight := 10
      cohort := ⟨true,"header:X-User"⟩
      overload := ⟨true,8,2,50⟩
      autoDrain := ⟨true,5000,20,2,1000⟩ } } }]
    pools := ⟨[("p",{ endpoints := some ["10.0.0.1:80"] }),("c",{ endpoints := some ["10.0.0.2:80"] })],by decide⟩ }

theorem splittingAgrees :
    (apply (decoding splitting) {} calm {} document "s" .apply).result.toOption.map (fun r => routeSettings
        (apply (decoding splitting) {} calm {} document "s" .apply).live.registries.traffic r.snapshot.compiled) =
      some [some ⟨⟨90,10⟩,some (.header "X-User"),some ⟨8,2,50 * millisecond⟩,5 * second,
        some ⟨true,5 * second,20,2,second⟩⟩] ∧
    Agree .apply (apply (decoding splitting) {} calm {} document "s" .apply)
      (applyResolvedVersion (decoding splitting) {} calm {} document "s" [] .apply) := by
  refine ⟨by decide +kernel,(singleProviderAgrees (.inl rfl) ⟨5 * minute,[],rfl⟩ ?_).mpr ?_⟩
  · rintro cfg ⟨⟩
    exact ⟨by decide,by decide,by decide,by decide,by decide⟩
  · rintro cfg ⟨⟩
    exact .inr ⟨rfl,rfl,rfl,rfl,rfl⟩

end ReverseProxy.ApplyAgreement
