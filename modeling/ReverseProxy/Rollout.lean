import ReverseProxy.ApplyRejection

/-! Package rollout: Manager.ApplyBundle. A bundle is validated, applied with its
plugins and canaries masked, left to bake, gated on the error rate and then applied
in full; a failed gate or full apply puts the previous snapshot back. The outcome
keeps the live state of every phase, since each is what requests meet meanwhile. -/
namespace ReverseProxy.Rollout
open GoValues ConfigData SnapshotStore
open ApplyManager (Live Result Outcome Circumstance applyResolvedVersion)

/- bundle.Bundle without hash and signature, which are verified by the callers. -/
structure Bundle where
  version : Bytes
  source : String
  configBytesB64 : String

def Bundle.configBytes (platform : Platform) (b : Bundle) : Except Message Bytes :=
  if b.configBytesB64 = "" then .ok [] else platform.decodeBase64 b.configBytesB64

structure Gates where
  hasMetrics : Bool := true
  errorRateWindow : Duration := 0
  errorRatePercent : Rat := 0

def errGateFailed : Message := newError "rollout gate failed"

/- `rolling` counts the requests of a window and the 5xx answers among them;
`toFloat` rounds to a float64. -/
def Gates.check (g : Gates) (toFloat : Rat → Rat) (rolling : Duration → Nat × Nat) : Except Message Unit :=
  if g.hasMetrics then
    let window := if g.errorRateWindow ≤ 0 then 10 * second else g.errorRateWindow
    let percent := if g.errorRatePercent ≤ 0 then 1 else g.errorRatePercent
    let (total,errors) := rolling window
    if total = 0 then .ok ()
    else
      let rate := toFloat (toFloat (toFloat errors / toFloat total) * 100)
      if percent < rate then .error (errorf "%w: error rate %.2f%%" [errGateFailed.format,toString rate])
      else .ok ()
  else .ok ()

structure Manager where
  apply : Option ApplyManager.Manager := some {}
  hasStore : Bool := true
  lockedBake : Duration := minute
  gates : Gates := {}

def newManager (apply : Option ApplyManager.Manager) (hasStore : Bool) (lockedBake : Duration) (gates : Gates) :
    Manager :=
  ⟨apply,hasStore,if lockedBake ≤ 0 then minute else lockedBake,gates⟩

/- What a rollout does not control: the surroundings of its three applies, an end
of the context before the bake timer fires, and the metrics at the gate. -/
structure Stages where
  validate : Circumstance
  locked : Circumstance
  full : Circumstance
  cancelled : Option Message
  rolling : Duration → Nat × Nat
  toFloat : Rat → Rat
  rollbackTime : Int

inductive Phase where
  | before
  | locked
  | full
  | rolledBack
  deriving DecidableEq, Repr

structure BundleOutcome where
  result : Except Message Result
  live : Live
  seen : List (Phase × Live)

def maskRoute (route : Route) : Route :=
  let traffic := route.policy.traffic
  { route with policy := { route.policy with
      plugins := ⟨false,none⟩
      traffic := if traffic.enabled then
        { traffic with
          canaryWeight := 0
          stableWeight := if traffic.stableWeight = 0 then 100 else traffic.stableWeight }
      else traffic } }

def maskLockedConfig (cfg : Config) : Config := { cfg with routes := cfg.routes.map (List.map maskRoute) }

def lockConfigBytes (platform : Platform) (raw : Bytes) : Except Message Bytes := do
  let cfg ← platform.parseJSON raw
  platform.marshalJSON (maskLockedConfig cfg)

def bake (m : Manager) (w : Stages) : Option Message := if 0 < m.lockedBake then w.cancelled else none

/- Without a store or a previous snapshot the masked one stays. -/
def rollback (m : Manager) (previous : Option Snapshot) (now : Int) (live : Live) : Phase × Live :=
  match previous with
  | none => (.locked,live)
  | some snapshot =>
    if m.hasStore then (.rolledBack,{ live with store := live.store.swap (some snapshot) now }) else (.locked,live)

def previousOf (m : Manager) (live : Live) : Option Snapshot := if m.hasStore then live.store.current else none

def sourceOf (b : Bundle) (sourceOverride : String) : String :=
  if sourceOverride ≠ "" then sourceOverride else b.source

def applyBundle (platform : Platform) (m : Manager) (w : Stages) (live : Live) (b : Bundle)
    (sourceOverride : String) : BundleOutcome :=
  let stop := fun e => BundleOutcome.mk (.error e) live [(.before,live)]
  match m.apply with
  | none => stop (newError "rollout manager unavailable")
  | some manager =>
    match b.configBytes platform with
    | .error e => stop e
    | .ok raw =>
      let source := sourceOf b sourceOverride
      let previous := previousOf m live
      match (applyResolvedVersion platform manager w.validate live raw source b.version .validate).result with
      | .error e => stop e
      | .ok _ =>
        match lockConfigBytes platform raw with
        | .error e => stop e
        | .ok lockedBytes =>
          let locked := applyResolvedVersion platform manager w.locked live lockedBytes source b.version .apply
          match locked.result with
          | .error e => ⟨.error e,locked.live,[(.before,live),(.before,locked.live)]⟩
          | .ok _ =>
            match bake m w with
            | some e => ⟨.error e,locked.live,[(.before,live),(.locked,locked.live)]⟩
            | none =>
              match m.gates.check w.toFloat w.rolling with
              | .error e =>
                let back := rollback m previous w.rollbackTime locked.live
                ⟨.error e,back.2,[(.before,live),(.locked,locked.live),back]⟩
              | .ok _ =>
                let full := applyResolvedVersion platform manager w.full locked.live raw source b.version .apply
                match full.result with
                | .error e =>
                  let back := rollback m previous w.rollbackTime full.live
                  ⟨.error e,back.2,[(.before,live),(.locked,locked.live),(.locked,full.live),back]⟩
                | .ok r => ⟨.ok r,full.live,[(.before,live),(.locked,locked.live),(.full,full.live)]⟩

structure Ticket where
  manager : ApplyManager.Manager
  raw : Bytes
  config : Config
  lockedBytes : Bytes

section
variable (platform : Platform) (m : Manager) (w : Stages) (live : Live) (b : Bundle) (sourceOverride : String)

structure Admits (t : Ticket) : Prop where
  available : m.apply = some t.manager
  decoded : b.configBytes platform = .ok t.raw
  valid : ∃ r, (applyResolvedVersion platform t.manager w.validate live t.raw (sourceOf b sourceOverride) b.version
    .validate).result = .ok r
  parsed : platform.parseJSON t.raw = .ok t.config
  masked : platform.marshalJSON (maskLockedConfig t.config) = .ok t.lockedBytes

def lockedStage (t : Ticket) : Outcome :=
  applyResolvedVersion platform t.manager w.locked live t.lockedBytes (sourceOf b sourceOverride) b.version .apply

def fullStage (t : Ticket) : Outcome :=
  applyResolvedVersion platform t.manager w.full (lockedStage platform w live b sourceOverride t).live t.raw
    (sourceOf b sourceOverride) b.version .apply

inductive Course : BundleOutcome → Prop where
  | turnedAway (e : Message) (never : ∀ t, ¬Admits platform m w live b sourceOverride t) :
      Course ⟨.error e,live,[(.before,live)]⟩
  | rejected {t e} (admits : Admits platform m w live b sourceOverride t)
      (refused : (lockedStage platform w live b sourceOverride t).result = .error e) :
      Course ⟨.error e,(lockedStage platform w live b sourceOverride t).live,
        [(.before,live),(.before,(lockedStage platform w live b sourceOverride t).live)]⟩
  | cancelled {t r e} (admits : Admits platform m w live b sourceOverride t)
      (locked : (lockedStage platform w live b sourceOverride t).result = .ok r) (ended : bake m w = some e) :
      Course ⟨.error e,(lockedStage platform w live b sourceOverride t).live,
        [(.before,live),(.locked,(lockedStage platform w live b sourceOverride t).live)]⟩
  | gated {t r e back} (admits : Admits platform m w live b sourceOverride t)
      (locked : (lockedStage platform w live b sourceOverride t).result = .ok r) (baked : bake m w = none)
      (shut : m.gates.check w.toFloat w.rolling = .error e)
      (same : back = rollback m (previousOf m live) w.rollbackTime (lockedStage platform w live b sourceOverride t).live) :
      Course ⟨.error e,back.2,[(.before,live),(.locked,(lockedStage platform w live b sourceOverride t).live),back]⟩
  | failed {t r e back} (admits : Admits platform m w live b sourceOverride t)
      (locked : (lockedStage platform w live b sourceOverride t).result = .ok r) (baked : bake m w = none)
      (passed : m.gates.check w.toFloat w.rolling = .ok ())
      (refused : (fullStage platform w live b sourceOverride t).result = .error e)
      (same : back = rollback m (previousOf m live) w.rollbackTime (fullStage platform w live b sourceOverride t).live) :
      Course ⟨.error e,back.2,[(.before,live),(.locked,(lockedStage platform w live b sourceOverride t).live),
        (.locked,(fullStage platform w live b sourceOverride t).live),back]⟩
  | done {t r r'} (admits : Admits platform m w live b sourceOverride t)
      (locked : (lockedStage platform w live b sourceOverride t).result = .ok r) (baked : bake m w = none)
      (passed : m.gates.check w.toFloat w.rolling = .ok ())
      (full : (fullStage platform w live b sourceOverride t).result = .ok r') :
      Course ⟨.ok r',(fullStage platform w live b sourceOverride t).live,
        [(.before,live),(.locked,(lockedStage platform w live b sourceOverride t).live),
          (.full,(fullStage platform w live b sourceOverride t).live)]⟩

end

section
variable {platform : Platform} {m : Manager} {w : Stages} {live : Live} {b : Bundle} {sourceOverride : String}

theorem lockConfigBytesOk {raw lockedBytes : Bytes} (ok : lockConfigBytes platform raw = .ok lockedBytes) :
    ∃ cfg, platform.parseJSON raw = .ok cfg ∧ platform.marshalJSON (maskLockedConfig cfg) = .ok lockedBytes := by
  unfold lockConfigBytes at ok
  cases parsed : platform.parseJSON raw with
  | error e =>
    rw [parsed] at ok
    cases ok
  | ok cfg =>
    rw [parsed] at ok
    exact ⟨cfg,rfl,ok⟩

theorem lockConfigBytesMasked {t : Ticket} (admits : Admits platform m w live b sourceOverride t) :
    lockConfigBytes platform t.raw = .ok t.lockedBytes := by
  unfold lockConfigBytes
  rw [admits.parsed]
  exact admits.masked

theorem admitsUnique {t u : Ticket} (first : Admits platform m w live b sourceOverride t)
    (second : Admits platform m w live b sourceOverride u) : t = u := by
  obtain ⟨manager,raw,config,lockedBytes⟩ := t
  obtain ⟨manager',raw',config',lockedBytes'⟩ := u
  cases Option.some.inj (first.available.symm.trans second.available)
  cases Except.ok.inj (first.decoded.symm.trans second.decoded)
  cases Except.ok.inj (first.parsed.symm.trans second.parsed)
  cases Except.ok.inj (first.masked.symm.trans second.masked)
  rfl

theorem course : Course platform m w live b sourceOverride (applyBundle platform m w live b sourceOverride) := by
  unfold applyBundle
  cases available : m.apply with
  | none => exact .turnedAway _ fun t admits => nomatch available.symm.trans admits.available
  | some manager =>
    dsimp only
    cases decoded : b.configBytes platform with
    | error e => exact .turnedAway _ fun t admits => nomatch decoded.symm.trans admits.decoded
    | ok raw =>
      dsimp only
      cases valid : (applyResolvedVersion platform manager w.validate live raw (sourceOf b sourceOverride) b.version
          .validate).result with
      | error e =>
        refine .turnedAway _ fun t admits => ?_
        cases Option.some.inj (available.symm.trans admits.available)
        cases Except.ok.inj (decoded.symm.trans admits.decoded)
        obtain ⟨r,ok⟩ := admits.valid
        cases valid.symm.trans ok
      | ok checked =>
        dsimp only
        cases masked : lockConfigBytes platform raw with
        | error e =>
          refine .turnedAway _ fun t admits => ?_
          cases Except.ok.inj (decoded.symm.trans admits.decoded)
          cases masked.symm.trans (lockConfigBytesMasked admits)
        | ok lockedBytes =>
          obtain ⟨cfg,parsed,written⟩ := lockConfigBytesOk masked
          have admits : Admits platform m w live b sourceOverride ⟨manager,raw,cfg,lockedBytes⟩ :=
            ⟨available,decoded,⟨checked,valid⟩,parsed,written⟩
          have first : applyResolvedVersion platform manager w.locked live lockedBytes (sourceOf b sourceOverride) b.version
              .apply = lockedStage platform w live b sourceOverride ⟨manager,raw,cfg,lockedBytes⟩ := rfl
          have second : applyResolvedVersion platform manager w.full
              (lockedStage platform w live b sourceOverride ⟨manager,raw,cfg,lockedBytes⟩).live raw
              (sourceOf b sourceOverride) b.version .apply =
                fullStage platform w live b sourceOverride ⟨manager,raw,cfg,lockedBytes⟩ := rfl
          dsimp only
          rw [first,second]
          cases locked : (lockedStage platform w live b sourceOverride ⟨manager,raw,cfg,lockedBytes⟩).result with
          | error e => exact .rejected admits locked
          | ok r =>
            dsimp only
            cases baked : bake m w with
            | some e => exact .cancelled admits locked baked
            | none =>
              dsimp only
              cases passed : m.gates.check w.toFloat w.rolling with
              | error e => exact .gated admits locked baked passed rfl
              | ok _ =>
                dsimp only
                cases full : (fullStage platform w live b sourceOverride ⟨manager,raw,cfg,lockedBytes⟩).result with
                | error e => exact .failed admits locked baked passed full rfl
                | ok r' => exact .done admits locked baked passed full

end

structure SameDocument (a b : Config) : Prop where
  sections : { b with pools := a.pools } = a
  pools : a.pools.entries.Perm b.pools.entries

def RoundTrips (platform : Platform) : Prop :=
  ∀ cfg bytes, platform.marshalJSON cfg = .ok bytes →
    ∃ back, platform.parseJSON bytes = .ok back ∧ SameDocument cfg back

def codec (cfg : Config) : Platform :=
  { ApplyManager.decoding cfg with
    parseJSON := fun raw => if raw = 32 :: ApplyManager.document then .ok (maskLockedConfig cfg)
      else (ApplyManager.decoding cfg).parseJSON raw
    marshalJSON := fun c => if c = maskLockedConfig cfg then .ok (32 :: ApplyManager.document)
      else .error (newError "unsupported value") }

def encoded : String := "eyJwb29scyI6eyJwIjp7ImVuZHBvaW50cyI6WyIxMC4wLjAuMTo4MCJdfX19"

theorem codecRoundTrips (cfg : Config) : RoundTrips (codec cfg) := by
  intro c bytes written
  by_cases known : c = maskLockedConfig cfg
  · have first : bytes = 32 :: ApplyManager.document := by simpa [codec,known] using written.symm
    subst first known
    exact ⟨maskLockedConfig cfg,by simp [codec],rfl,.refl _⟩
  · simp [codec,known] at written

def quiet : Stages :=
  { validate := ApplyManager.calm
    locked := { ApplyManager.calm with snapshotID := 2 }
    full := { ApplyManager.calm with snapshotID := 3 }
    cancelled := none
    rolling := fun _ => (0,0)
    toFloat := id
    rollbackTime := 0 }

end ReverseProxy.Rollout
