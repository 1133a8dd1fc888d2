import ReverseProxy.Rollout

/-! Which filters a rollout enforces while it runs. The masked config of the locked
stage has no plugins on any route; every other snapshot of a rollout is compiled from
the config before it or from the bundle, and keeps each filter of its config. -/
namespace ReverseProxy.LockedWindow
open GoValues CallScript ConfigData PolicyBuild SnapshotBuild SnapshotStore Rollout
open ApplyManager (Live Result CompiledFrom resolvedOk resolvedError checkedParsed applyResolvedVersion)

def FilterOf (runes : RuneTables) (routeID : String) (f : PluginFilter) (g : Filter) : Prop :=
  ∃ names later, filterFromConfig runes routeID names f = .ok (g,later)

def Carries (cfg : Config) (id : String) (f : PluginFilter) : Prop :=
  ∃ route ∈ items cfg.routes, route.id = id ∧ route.policy.plugins.enabled = true ∧
    f ∈ items route.policy.plugins.filters

def Enforces (runes : RuneTables) (compiled : Compiled) (id : String) (f : PluginFilter) : Prop :=
  ∃ route ∈ compiled.routes, route.id = id ∧ route.policy.plugins.enabled = true ∧
    ∃ g ∈ route.policy.plugins.filters, FilterOf runes id f g ∧ g.failureMode = .failClosed

def Unfiltered (compiled : Compiled) : Prop :=
  ∀ route ∈ compiled.routes, route.policy.plugins = ⟨false,[]⟩

def Built (runes : RuneTables) (route : Route) (r : CompiledRoute) : Prop :=
  r.id = route.id ∧ ∃ names later, pluginPolicyFromConfig runes route.id route.policy.plugins names =
    .ok (r.policy.plugins,later)

section
variable {runes : RuneTables}

theorem filterMode {routeID : String} {names later : List String} {f : PluginFilter} {g : Filter}
    (ok : filterFromConfig runes routeID names f = .ok (g,later)) :
    parseFailureMode runes f.failureMode = .ok g.failureMode := by
  obtain ⟨⟨mode,parsed,rfl⟩,-⟩ := filterFromConfigOk ok
  exact parsed

theorem filtersKept {routeID : String} {names later : List String} {fs : List PluginFilter} {gs : List Filter}
    (ok : filtersFromConfig runes routeID names fs = .ok (gs,later)) {f : PluginFilter} (member : f ∈ fs) :
    ∃ g ∈ gs, FilterOf runes routeID f g := by
  have pairs := filtersFromConfigOk ok
  clear ok
  induction pairs with
  | nil => cases member
  | @cons first g rest gs' one others ih =>
    rcases List.mem_cons.mp member with rfl | deeper
    · exact ⟨g,List.mem_cons_self,one⟩
    · obtain ⟨g',inside,from_⟩ := ih deeper
      exact ⟨g',List.mem_cons_of_mem _ inside,from_⟩

theorem builtRoutes {pools : PoolMap} {seen names : List String} {routes : List Route} {compiled : List CompiledRoute}
    (ok : (buildRoutes runes pools seen names routes).result = .ok compiled) :
    (∀ route ∈ routes, ∃ r ∈ compiled, Built runes route r) ∧ ∀ r ∈ compiled, ∃ route ∈ routes, Built runes route r := by
  obtain ⟨turns,rfl,rfl,-,went⟩ := buildRoutesOk ok
  have built : ∀ t ∈ turns, Built runes t.route (t.compiled runes) := by
    intro t inside
    obtain ⟨seen,names,later,checked⟩ := went t inside
    exact ⟨rfl,names,later,checked.plugins⟩
  constructor
  · intro route member
    obtain ⟨t,inside,rfl⟩ := List.mem_map.mp member
    exact ⟨_,List.mem_map_of_mem inside,built t inside⟩
  · intro r member
    obtain ⟨t,inside,rfl⟩ := List.mem_map.mp member
    exact ⟨_,List.mem_map_of_mem inside,built t inside⟩

end

section
variable {platform : Platform} {m : Manager} {w : Stages} {live : Live} {b : Bundle} {sourceOverride : String}
  {t : Ticket} {r : Result} {id : String} {f : PluginFilter}

theorem compiledEnforces {cfg : Config} {compiled : Compiled} (from_ : CompiledFrom platform cfg compiled)
    (mode : parseFailureMode platform.runes f.failureMode = .ok .failClosed) (carries : Carries cfg id f) :
    Enforces platform.runes compiled id f := by
  obtain ⟨range,made,replies,builds,rfl⟩ := from_
  obtain ⟨route,listed,rfl,enabled,member⟩ := carries
  obtain ⟨r,inside,same,names,later,ok⟩ := (builtRoutes builds.routed).1 route listed
  obtain ⟨kept,filters⟩ := pluginPolicyOk ok
  obtain ⟨g,among,own⟩ := filtersKept filters member
  obtain ⟨before,after,compiled⟩ := own
  have closed : g.failureMode = .failClosed := Except.ok.inj ((filterMode compiled).symm.trans mode)
  exact ⟨_,List.mem_map.mpr ⟨r,inside,rfl⟩,same,kept.trans enabled,g,among,⟨before,after,compiled⟩,closed⟩

theorem maskedUnfiltered {cfg back : Config} {compiled : Compiled} (same : SameDocument (maskLockedConfig cfg) back)
    (from_ : CompiledFrom platform back compiled) : Unfiltered compiled := by
  obtain ⟨range,made,replies,builds,rfl⟩ := from_
  have masked : back.routes = cfg.routes.map (List.map maskRoute) := congrArg Config.routes same.sections
  intro linked member
  obtain ⟨r,inside,rfl⟩ := List.mem_map.mp member
  obtain ⟨route,listed,-,names,later,ok⟩ := (builtRoutes builds.routed).2 r inside
  have blank : route.policy.plugins = ⟨false,none⟩ := by
    rw [masked] at listed
    cases routes : cfg.routes with
    | none => simp [routes,items] at listed
    | some list =>
      rw [routes] at listed
      obtain ⟨original,-,rfl⟩ := List.mem_map.mp listed
      rfl
  rw [blank] at ok
  exact (congrArg Prod.fst (Except.ok.inj ok)).symm

theorem lockedUnfiltered (codec : RoundTrips platform) (admits : Admits platform m w live b sourceOverride t)
    (ok : (lockedStage platform w live b sourceOverride t).result = .ok r) :
    (lockedStage platform w live b sourceOverride t).live.store.current = some r.snapshot ∧
    Unfiltered r.snapshot.compiled := by
  obtain ⟨cfg,done⟩ := resolvedOk ok
  obtain ⟨back,parsed,same⟩ := codec _ _ admits.masked
  cases Except.ok.inj (parsed.symm.trans (checkedParsed done.checked))
  exact ⟨done.current,maskedUnfiltered same done.from_⟩

theorem fullEnforces (mode : parseFailureMode platform.runes f.failureMode = .ok .failClosed)
    (admits : Admits platform m w live b sourceOverride t) (carries : Carries t.config id f)
    (ok : (fullStage platform w live b sourceOverride t).result = .ok r) :
    (fullStage platform w live b sourceOverride t).live.store.current = some r.snapshot ∧
    Enforces platform.runes r.snapshot.compiled id f := by
  obtain ⟨cfg,done⟩ := resolvedOk ok
  cases Except.ok.inj (admits.parsed.symm.trans (checkedParsed done.checked))
  exact ⟨done.current,compiledEnforces done.from_ mode carries⟩

def Meets (runes : RuneTables) (id : String) (f : PluginFilter) (x : Phase × Live) : Prop :=
  ∃ s, x.2.store.current = some s ∧
    match x.1 with
    | .locked => Unfiltered s.compiled
    | _ => Enforces runes s.compiled id f

theorem rollbackEnforces {l : Live} {p : Snapshot} {runes : RuneTables} (stored : m.hasStore = true) (now : Int)
    (previous : live.store.current = some p) (enforces : Enforces runes p.compiled id f) :
    (rollback m (previousOf m live) now l).1 ≠ .locked ∧ Meets runes id f (rollback m (previousOf m live) now l) := by
  unfold rollback previousOf
  rw [stored,if_pos rfl,previous]
  exact ⟨Phase.noConfusion,p,Store.swapCurrent ..,enforces⟩

/- The exit of a bake that is cut short makes no rollback. -/
theorem cutShortUnfiltered {e : Message} (codec : RoundTrips platform) (admits : Admits platform m w live b sourceOverride t)
    (locked : (lockedStage platform w live b sourceOverride t).result = .ok r) (ended : bake m w = some e) :
    ∃ s, (applyBundle platform m w live b sourceOverride).live.store.current = some s ∧ Unfiltered s.compiled := by
  obtain ⟨installed,masked⟩ := lockedUnfiltered codec admits locked
  generalize outcome : applyBundle platform m w live b sourceOverride = o
  have exit : Course platform m w live b sourceOverride o := outcome ▸ course
  cases exit with
  | turnedAway _ never => exact absurd admits (never t)
  | rejected admits' refused =>
    cases admitsUnique admits admits'
    cases locked.symm.trans refused
  | cancelled admits' =>
    cases admitsUnique admits admits'
    exact ⟨_,installed,masked⟩
  | gated _ _ baked => cases baked.symm.trans ended
  | failed _ _ baked => cases baked.symm.trans ended
  | done _ _ baked => cases baked.symm.trans ended

end

theorem filterKeptOutsideLock {platform : Platform} {m : Manager} {w : Stages} {live : Live} {b : Bundle}
    {sourceOverride id : String} {f : PluginFilter} {previous : Snapshot} {cfg : Config} (codec : RoundTrips platform)
    (stored : m.hasStore = true) (baked : bake m w = none) (current : live.store.current = some previous)
    (from_ : CompiledFrom platform cfg previous.compiled)
    (mode : parseFailureMode platform.runes f.failureMode = .ok .failClosed) (carried : Carries cfg id f)
    (bundled : ∀ raw next, b.configBytes platform = .ok raw → platform.parseJSON raw = .ok next → Carries next id f) :
    (∃ phase, phase ≠ .locked ∧ (applyBundle platform m w live b sourceOverride).seen.getLast? =
      some (phase,(applyBundle platform m w live b sourceOverride).live)) ∧
    ∀ x ∈ (applyBundle platform m w live b sourceOverride).seen, Meets platform.runes id f x := by
  have old : Enforces platform.runes previous.compiled id f := compiledEnforces from_ mode carried
  have start : Meets platform.runes id f (.before,live) := ⟨previous,current,old⟩
  have none : ∀ x ∈ ([] : List (Phase × Live)), Meets platform.runes id f x := by simp
  generalize outcome : applyBundle platform m w live b sourceOverride = o
  have exit : Course platform m w live b sourceOverride o := outcome ▸ course
  cases exit with
  | turnedAway e never =>
    simp only [List.forall_mem_cons]
    exact ⟨⟨_,Phase.noConfusion,rfl⟩,start,none⟩
  | rejected admits refused =>
    have kept := (congrArg Store.current (resolvedError refused)).trans current
    simp only [List.forall_mem_cons]
    exact ⟨⟨_,Phase.noConfusion,rfl⟩,start,⟨previous,kept,old⟩,none⟩
  | cancelled admits locked ended => cases baked.symm.trans ended
  | gated admits locked _ shut same =>
    obtain ⟨installed,masked⟩ := lockedUnfiltered codec admits locked
    subst same
    obtain ⟨over_,back⟩ := rollbackEnforces (l := (lockedStage platform w live b sourceOverride _).live) stored w.rollbackTime
      current old
    simp only [List.forall_mem_cons]
    exact ⟨⟨_,over_,rfl⟩,start,⟨_,installed,masked⟩,back,none⟩
  | failed admits locked _ passed refused same =>
    obtain ⟨installed,masked⟩ := lockedUnfiltered codec admits locked
    have still := (congrArg Store.current (resolvedError refused)).trans installed
    subst same
    obtain ⟨over_,back⟩ := rollbackEnforces (l := (fullStage platform w live b sourceOverride _).live) stored w.rollbackTime
      current old
    simp only [List.forall_mem_cons]
    exact ⟨⟨_,over_,rfl⟩,start,⟨_,installed,masked⟩,⟨_,still,masked⟩,back,none⟩
  | done admits locked _ passed full =>
    obtain ⟨installed,masked⟩ := lockedUnfiltered codec admits locked
    obtain ⟨final,enforces⟩ := fullEnforces mode admits (bundled _ _ admits.decoded admits.parsed) full
    simp only [List.forall_mem_cons]
    exact ⟨⟨_,Phase.noConfusion,rfl⟩,start,⟨_,installed,masked⟩,⟨_,final,enforces⟩,none⟩

def authFilter : PluginFilter := { name := "auth", addr := "10.0.0.9:9000", failureMode := "fail_closed" }

def guardedRoute : Route :=
  { id := "r", host := "h", pathPrefix := "/", pool := "p", policy := { plugins := ⟨true,some [authFilter]⟩ } }

def guarded : Config :=
  { routes := some [guardedRoute]
    pools := .single "p" { endpoints := some ["10.0.0.1:80"] } }

def guardedLive : Live :=
  (applyResolvedVersion (codec guarded) {} ApplyManager.calm {} ApplyManager.document "boot" [] .apply).live

def sameAgain : Bundle := ⟨[],"bundle",encoded⟩

theorem bakeDropsFilter :
    Carries guarded "r" authFilter ∧ sameAgain.configBytes (codec guarded) = .ok ApplyManager.document ∧
    (codec guarded).parseJSON ApplyManager.document = .ok guarded ∧
    ∃ l s, (Phase.locked,l) ∈ (applyBundle (codec guarded) {} quiet guardedLive sameAgain "").seen ∧
      l.store.current = some s ∧ ¬Enforces RuneTables.ascii s.compiled "r" authFilter := by
  refine ⟨⟨_,List.mem_cons_self,rfl,rfl,List.mem_cons_self⟩,rfl,rfl,?_⟩
  refine ⟨_,_,List.mem_cons_of_mem _ List.mem_cons_self,rfl,?_⟩
  rintro ⟨route,member,-,enabled,-⟩
  cases List.mem_singleton.mp member
  cases enabled

theorem guardedRolloutMeets :
    Carries guarded "r" authFilter ∧
    (∃ phase, phase ≠ .locked ∧ (applyBundle (codec guarded) {} quiet guardedLive sameAgain "").seen.getLast? =
      some (phase,(applyBundle (codec guarded) {} quiet guardedLive sameAgain "").live)) ∧
    ∀ x ∈ (applyBundle (codec guarded) {} quiet guardedLive sameAgain "").seen, Meets RuneTables.ascii "r" authFilter x := by
  have ok : ∃ r, (applyResolvedVersion (codec guarded) {} ApplyManager.calm {} ApplyManager.document "boot" [] .apply).result =
      .ok r := ⟨_,rfl⟩
  obtain ⟨r,ok⟩ := ok
  obtain ⟨cfg,done⟩ := resolvedOk ok
  have parsed : guarded = cfg := Except.ok.inj (checkedParsed done.checked)
  subst parsed
  have carried : Carries guarded "r" authFilter := ⟨_,List.mem_cons_self,rfl,rfl,List.mem_cons_self⟩
  have mode : parseFailureMode RuneTables.ascii authFilter.failureMode = .ok .failClosed := rfl
  refine ⟨carried,filterKeptOutsideLock (codecRoundTrips guarded) rfl rfl done.current done.from_ mode carried ?_⟩
  intro raw next decoded parsed
  cases Except.ok.inj decoded
  cases Except.ok.inj parsed
  exact carried

end ReverseProxy.LockedWindow
