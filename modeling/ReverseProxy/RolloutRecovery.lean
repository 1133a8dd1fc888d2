import ReverseProxy.PoolCoverage
import ReverseProxy.Rollout

/-! What a rollout leaves behind. A rollback puts the previous snapshot back into
the store and nothing into the registry, and a context that ends during the bake
skips it; the pools of the previous snapshot are therefore there after a failure
exactly when no stage touched them or the bundle itself covers them. -/
namespace ReverseProxy.RolloutRecovery
open GoValues ConfigData SnapshotBuild SnapshotStore Rollout PoolCoverage RegistryEffect
open ApplyManager (onePool Live Result CompiledFrom Installed resolvedOk resolvedError checkRequest checkedParsed
  compileResolved execute executeOk applyResolvedVersion)

def AllOrNothing (platform : Platform) (live : Live) (b : Bundle) (pools : List (String × Pool)) (o : BundleOutcome) :
    Prop :=
  match o.result with
  | .ok r => o.live.store.current = some r.snapshot ∧ ∃ raw cfg, b.configBytes platform = .ok raw ∧
      platform.parseJSON raw = .ok cfg ∧ CompiledFrom platform cfg r.snapshot.compiled
  | .error _ => o.live.store.current = live.store.current ∧ ∀ e ∈ pools, Held o.live.registries.registry.shape e

section
variable (platform : Platform) (m : Manager) (w : Stages) (live : Live) (b : Bundle) (sourceOverride : String)

def lockedCalls (t : Ticket) : List Call := callsAtReturn platform t.manager w.locked live t.lockedBytes b.version

structure Recovers (pools : List (String × Pool)) : Prop where
  away : (∀ t, ¬Admits platform m w live b sourceOverride t) → ∀ e ∈ pools, Held live.registries.registry.shape e
  refused : ∀ t e, Admits platform m w live b sourceOverride t →
    (lockedStage platform w live b sourceOverride t).result = .error e →
    ∀ e ∈ pools, Kept live.registries.registry.shape t.config (lockedCalls platform w live b t) e
  locked : ∀ t r, Admits platform m w live b sourceOverride t →
    (lockedStage platform w live b sourceOverride t).result = .ok r →
    bake m w = none ∧
    ((m.gates.check w.toFloat w.rolling = .ok () ∧ ∃ r', (fullStage platform w live b sourceOverride t).result = .ok r') ∨
      ((previousOf m live).isSome = true ∧ ∀ e ∈ pools, Covers t.config e))

end

section
variable {platform : Platform} {m : Manager} {w : Stages} {live : Live} {b : Bundle} {sourceOverride : String}
  {t : Ticket}

theorem lockedConfig (codec : RoundTrips platform) (admits : Admits platform m w live b sourceOverride t) {cfg : Config}
    (checked : checkRequest platform t.manager live t.lockedBytes = .ok cfg) :
    cfg.pools.entries.Perm t.config.pools.entries := by
  obtain ⟨back,parsed,same⟩ := codec _ _ admits.masked
  cases Except.ok.inj (parsed.symm.trans (checkedParsed checked))
  exact same.pools.symm

theorem fullConfig {l : Live} (admits : Admits platform m w live b sourceOverride t) {cfg : Config}
    (checked : checkRequest platform t.manager l t.raw = .ok cfg) : cfg.pools.entries.Perm t.config.pools.entries := by
  cases Except.ok.inj (admits.parsed.symm.trans (checkedParsed checked))
  exact .refl _

theorem stageHeld {manager : ApplyManager.Manager} {c : ApplyManager.Circumstance} {raw : Bytes} {source : String}
    {version : Bytes} {target : Config} (e : String × Pool)
    (alike : ∀ cfg, checkRequest platform manager live raw = .ok cfg → cfg.pools.entries.Perm target.pools.entries) :
    Held (applyResolvedVersion platform manager c live raw source version .apply).live.registries.registry.shape e ↔
      Kept live.registries.registry.shape target (callsAtReturn platform manager c live raw version) e := by
  rw [resolvedShape]
  apply heldAfter
  cases checked : checkRequest platform manager live raw with
  | error e =>
    have none : callsAtReturn platform manager c live raw version = [] := by
      simp [callsAtReturn,ApplyRejection.submitted,checked,reachedFrom,CallScript.through]
    rw [none]
    exact ⟨by simp [reconciled],by simp⟩
  | ok cfg => exact (callsWithin checked).alike (alike cfg checked)

theorem installedTouches {manager : ApplyManager.Manager} {c : ApplyManager.Circumstance} {raw : Bytes} {source : String}
    {version : Bytes} {r : Result} {cfg : Config} (done : Installed platform manager c live raw source version r cfg)
    (key : String) : Touched (callsAtReturn platform manager c live raw version) key := by
  obtain ⟨made,ran,-⟩ := done.compiled
  obtain ⟨built,replies,ok,answered,-⟩ := executeOk.mp ran
  have all : callsAtReturn platform manager c live raw version = (compileResolved platform c cfg).calls := by
    have quiet : ∀ call ∈ (compileResolved platform c cfg).calls,
        callFails platform.runes live.registries.traffic.assigned call = false := by
      have fails := @runFails platform.runes live.registries
        (ApplyManager.stamp c.clock (compileResolved platform c cfg).calls)
        (by rw [ApplyManager.stampCalls]; exact (ApplyRejection.compileResolvedTidy platform c cfg).routes)
      rw [answered,ApplyManager.stampCalls] at fails
      simpa [Except.toOption] using fails.symm
    rw [callsChecked done.checked,ApplyRejection.madeAtReturn,done.timely]
    dsimp only
    rw [List.take_length]
    exact CallScript.throughAll quiet
  rw [all]
  exact compiledTouches ok key

theorem lockedHeld (codec : RoundTrips platform) (admits : Admits platform m w live b sourceOverride t) {r : Result}
    (ok : (lockedStage platform w live b sourceOverride t).result = .ok r) (e : String × Pool) :
    Held (lockedStage platform w live b sourceOverride t).live.registries.registry.shape e ↔ Covers t.config e := by
  obtain ⟨cfg,done⟩ := resolvedOk ok
  have touched := installedTouches done e.1
  unfold lockedStage
  rw [stageHeld e (fun _ checked => lockedConfig codec admits checked)]
  exact ⟨fun kept => kept.1 touched,fun covers => ⟨fun _ => covers,fun no => absurd touched no⟩⟩

theorem fullHeld (codec : RoundTrips platform) (admits : Admits platform m w live b sourceOverride t) {r : Result}
    (ok : (lockedStage platform w live b sourceOverride t).result = .ok r) (e : String × Pool) :
    Held (fullStage platform w live b sourceOverride t).live.registries.registry.shape e ↔ Covers t.config e := by
  have before := lockedHeld codec admits ok e
  unfold fullStage
  rw [stageHeld e (fun _ checked => fullConfig admits checked),Kept,before]
  exact ⟨fun kept => (Classical.em _).elim kept.1 kept.2,fun covers => ⟨fun _ => covers,fun _ => covers⟩⟩

theorem lockedCurrent {r : Result} (ok : (lockedStage platform w live b sourceOverride t).result = .ok r) :
    (lockedStage platform w live b sourceOverride t).live.store.current = some r.snapshot ∧
    r.snapshot.id = w.locked.snapshotID := by
  obtain ⟨cfg,done⟩ := resolvedOk ok
  exact ⟨done.current,done.id⟩

theorem rollbackRegistries (previous : Option Snapshot) (now : Int) (l : Live) :
    (rollback m previous now l).2.registries = l.registries := by
  unfold rollback
  cases previous with
  | none => rfl
  | some s => cases stored : m.hasStore <;> rfl

theorem rollbackCurrent {l : Live} {s : Snapshot} (now : Int) (current : l.store.current = some s)
    (other : live.store.current ≠ some s) :
    (rollback m (previousOf m live) now l).2.store.current = live.store.current ↔ (previousOf m live).isSome = true := by
  have stays : l.store.current ≠ live.store.current := fun same => other (same.symm.trans current)
  unfold rollback previousOf
  cases stored : m.hasStore with
  | false => simpa using stays
  | true =>
    cases previous : live.store.current with
    | none => simpa [previous] using stays
    | some p => simp

theorem rollbackKeeps {l : Live} {s : Snapshot} (m : Manager) (pools : List (String × Pool)) (now : Int)
    (current : l.store.current = some s) (other : live.store.current ≠ some s)
    (held : ∀ e, Held l.registries.registry.shape e ↔ Covers t.config e) :
    ((rollback m (previousOf m live) now l).2.store.current = live.store.current ∧
      ∀ e ∈ pools, Held (rollback m (previousOf m live) now l).2.registries.registry.shape e) ↔
    (previousOf m live).isSome = true ∧ ∀ e ∈ pools, Covers t.config e := by
  rw [rollbackCurrent now current other,rollbackRegistries]
  simp only [held]

theorem recoversLocked {r : Result} {pools : List (String × Pool)}
    (admits : Admits platform m w live b sourceOverride t)
    (ok : (lockedStage platform w live b sourceOverride t).result = .ok r) :
    Recovers platform m w live b sourceOverride pools ↔ bake m w = none ∧
      ((m.gates.check w.toFloat w.rolling = .ok () ∧ ∃ r', (fullStage platform w live b sourceOverride t).result = .ok r') ∨
        ((previousOf m live).isSome = true ∧ ∀ e ∈ pools, Covers t.config e)) := by
  constructor
  · intro recovers
    exact recovers.locked t r admits ok
  · intro rest
    refine ⟨fun never => absurd admits (never t),?_,?_⟩
    · intro u e also refused
      cases admitsUnique admits also
      cases ok.symm.trans refused
    · intro u _ also _
      cases admitsUnique admits also
      exact rest

end

theorem bundleAllOrNothing {platform : Platform} {m : Manager} {w : Stages} {live : Live} {b : Bundle}
    {sourceOverride : String} {pools : List (String × Pool)} (codec : RoundTrips platform)
    (fresh : ∀ s, live.store.current = some s → s.id ≠ w.locked.snapshotID) :
    AllOrNothing platform live b pools (applyBundle platform m w live b sourceOverride) ↔
      Recovers platform m w live b sourceOverride pools := by
  have other : ∀ {t r}, (lockedStage platform w live b sourceOverride t).result = .ok r →
      live.store.current ≠ some r.snapshot :=
    fun locked same => fresh _ same (lockedCurrent locked).2
  generalize outcome : applyBundle platform m w live b sourceOverride = o
  have exit : Course platform m w live b sourceOverride o := outcome ▸ course
  cases exit with
  | turnedAway e never =>
    constructor
    · intro kept
      exact ⟨fun _ => kept.2,fun t _ admits => absurd admits (never t),fun t _ admits => absurd admits (never t)⟩
    · intro recovers
      exact ⟨rfl,recovers.away never⟩
  | rejected admits refused =>
    rename_i t e
    have held := fun x => @stageHeld platform live t.manager w.locked t.lockedBytes (sourceOf b sourceOverride) b.version
      t.config x (fun _ checked => lockedConfig codec admits checked)
    constructor
    · intro kept
      refine ⟨fun never => absurd admits (never t),?_,?_⟩
      · intro u _ also _ x member
        cases admitsUnique admits also
        exact (held x).mp (kept.2 x member)
      · intro u r also locked
        cases admitsUnique admits also
        cases refused.symm.trans locked
    · intro recovers
      have current := congrArg Store.current (resolvedError refused)
      exact ⟨current,fun x member => (held x).mpr (recovers.refused t e admits refused x member)⟩
  | cancelled admits locked ended =>
    rw [recoversLocked admits locked]
    constructor
    · intro kept
      exact absurd (kept.1.symm.trans (lockedCurrent locked).1) (other locked)
    · intro recovers
      cases ended.symm.trans recovers.1
  | gated admits locked baked shut same =>
    rw [recoversLocked admits locked]
    subst same
    have keeps := rollbackKeeps m pools w.rollbackTime (lockedCurrent locked).1 (other locked)
      (lockedHeld codec admits locked)
    constructor
    · intro kept
      exact ⟨baked,.inr (keeps.mp kept)⟩
    · rintro ⟨-,⟨passed,-⟩ | covered⟩
      · cases shut.symm.trans passed
      · exact keeps.mpr covered
  | failed admits locked baked passed refused same =>
    rw [recoversLocked admits locked]
    subst same
    have current := (congrArg Store.current (resolvedError refused)).trans (lockedCurrent locked).1
    have keeps := rollbackKeeps m pools w.rollbackTime current (other locked)
      (fullHeld codec admits locked)
    constructor
    · intro kept
      exact ⟨baked,.inr (keeps.mp kept)⟩
    · rintro ⟨-,⟨-,r',full⟩ | covered⟩
      · cases refused.symm.trans full
      · exact keeps.mpr covered
  | done admits locked baked passed full =>
    rw [recoversLocked admits locked]
    rename_i t r r'
    obtain ⟨cfg,done⟩ := resolvedOk full
    exact ⟨fun _ => ⟨baked,.inl ⟨passed,r',full⟩⟩,
      fun _ => ⟨done.current,t.raw,cfg,admits.decoded,checkedParsed done.checked,done.from_⟩⟩

def serving : Live :=
  (applyResolvedVersion (codec (onePool "old")) {} ApplyManager.calm {} ApplyManager.document "boot" [] .apply).live

def replacing : Bundle := ⟨[],"bundle",encoded⟩

def tardy : Stages :=
  { quiet with full := { ApplyManager.calm with snapshotID := 3, timing := .late ApplyManager.errCompileTimeout .loading } }

theorem bundleLeavesHalfway :
    ¬AllOrNothing (codec (onePool "old")) serving replacing (onePool "old").pools.entries
      (applyBundle (codec (onePool "old")) {} { quiet with cancelled := some (newError "context canceled") }
        serving replacing "") ∧
    ¬AllOrNothing (codec (onePool "new")) serving replacing (onePool "old").pools.entries
      (applyBundle (codec (onePool "new")) {} tardy serving replacing "") := by
  constructor
  · rintro ⟨same,-⟩
    have id : some 2 = some 1 := congrArg (Option.map Snapshot.id) same
    cases id
  · rintro ⟨-,held⟩
    obtain ⟨shape,found,-⟩ := held _ List.mem_cons_self
    have gone : none = some shape := found
    cases gone

theorem coveredBundleRecovers :
    AllOrNothing (codec (onePool "old")) serving replacing (onePool "old").pools.entries
      (applyBundle (codec (onePool "old")) {} tardy serving replacing "") := by
  let ticket : Ticket := ⟨{},ApplyManager.document,onePool "old",32 :: ApplyManager.document⟩
  have admits : Admits (codec (onePool "old")) {} tardy serving replacing "" ticket := ⟨rfl,rfl,⟨_,rfl⟩,rfl,rfl⟩
  have locked : ∃ r, (lockedStage (codec (onePool "old")) tardy serving replacing "" ticket).result = .ok r := ⟨_,rfl⟩
  obtain ⟨r,ok⟩ := locked
  refine (bundleAllOrNothing (codecRoundTrips _) ?_).mpr ((recoversLocked admits ok).mpr ⟨rfl,.inr ⟨rfl,?_⟩⟩)
  · intro s current
    cases current
    decide
  · intro e member
    exact ⟨e.2,member,fun addr inside => inside⟩

end ReverseProxy.RolloutRecovery
