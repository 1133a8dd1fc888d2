import ReverseProxy.BundleSigning
import ReverseProxy.RolloutRecovery
import ReverseProxy.Transition

/-! Package pull: the latest bundle of a distributor is fetched, verified and rolled out. The
answer to a fetch is arbitrary; `decode` is json.Decoder on a new Bundle, which reads one value
and leaves what follows it. The client itself with the request it
sends, the ticker and the jitter are left out. -/
namespace ReverseProxy.BundlePull
open GoValues ConfigData SnapshotStore RolloutRecovery Transition
open Rollout hiding Bundle
open ApplyManager (Live CompiledFrom resolvedOk resolvedError checkedParsed)
open SignedBundle (Bundle Library errBadHash verifyBundle)

structure Reply where
  status : Nat
  body : Bytes

structure Puller where
  enabled : Bool := true
  baseURL : String := ""
  publicKey : Bytes
  rollout : Option Rollout.Manager := some {}
  hasStore : Bool := true

inductive Pulled where
  | unread
  | current
  | refused (result : String)
  | unmanaged
  | rolled (b : Bundle) (outcome : BundleOutcome)

namespace Pulled

def live (before : Live) : Pulled → Live
  | .rolled _ outcome => outcome.live
  | _ => before

def met (before : Live) : Pulled → List Live
  | .rolled _ outcome => outcome.seen.map Prod.snd
  | _ => [before]

end Pulled

namespace Puller

def currentVersion (p : Puller) (live : Live) : Bytes :=
  if p.hasStore then (live.store.current.map Snapshot.version).getD [] else []

def hand (p : Puller) (platform : Platform) (w : Stages) (live : Live) (b : Bundle) : Pulled :=
  match p.rollout with
  | none => .unmanaged
  | some m => .rolled b (applyBundle platform m w live b.rolled "")

section
variable (p : Puller) (platform : Platform) (lib : Library) (decode : Bytes → Option Bundle)

def consider (w : Stages) (live : Live) (b : Bundle) : Pulled :=
  if b.info.version = "" then .unread
  else if p.currentVersion live = encodeText b.info.version then .current
  else match verifyBundle platform lib b p.publicKey with
    | .error e => .refused (if e = errBadHash then "bad_hash" else "bad_sig")
    | .ok _ => p.hand platform w live b

/- Without a reply the request could not be made or sent. -/
def pullOnce (w : Stages) (live : Live) : Option Reply → Pulled
  | none => .unread
  | some reply =>
    if reply.status ≠ 200 then .unread
    else match decode reply.body with
      | none => .unread
      | some b => p.consider platform lib w live b

/- Puller.Run: the pulls of its loop until the context ends. -/
def pulls (live : Live) : List (Option Reply × Stages) → List Pulled × Live
  | [] => ([],live)
  | (reply,w) :: rest =>
    let pulled := p.pullOnce platform lib decode w live reply
    let (more,after) := pulls (pulled.live live) rest
    (pulled :: more,after)

def run (live : Live) (turns : List (Option Reply × Stages)) : List Pulled × Live :=
  if p.enabled = false ∨ p.baseURL = "" then ([],live) else p.pulls platform lib decode live turns

end
end Puller

section
variable {p : Puller} {platform : Platform} {lib : Library} {decode : Bytes → Option Bundle}
  {m : Rollout.Manager} {w : Stages} {live : Live} {b : Bundle} {key : Bytes} {t : Ticket} {old : Snapshot} {reply : Reply}

theorem considerRolled {b' : Bundle} {o : BundleOutcome} (rolled : p.consider platform lib w live b = .rolled b' o) :
    b' = b ∧ b.info.version ≠ "" ∧ verifyBundle platform lib b p.publicKey = .ok () ∧
      ∃ m, p.rollout = some m ∧ o = applyBundle platform m w live b.rolled "" := by
  unfold Puller.consider at rolled
  split at rolled
  · cases rolled
  · rename_i named
    split at rolled
    · cases rolled
    · split at rolled
      · cases rolled
      · rename_i verified
        unfold Puller.hand at rolled
        split at rolled
        · cases rolled
        · rename_i manager there
          cases rolled
          exact ⟨rfl,named,verified,manager,there,rfl⟩

theorem pullRolled {reply : Option Reply} {o : BundleOutcome} (rolled : p.pullOnce platform lib decode w live reply = .rolled b o) :
    b.info.version ≠ "" ∧ verifyBundle platform lib b p.publicKey = .ok () ∧
      ∃ m, p.rollout = some m ∧ o = applyBundle platform m w live b.rolled "" := by
  unfold Puller.pullOnce at rolled
  split at rolled
  · cases rolled
  · split at rolled
    · cases rolled
    · split at rolled
      · cases rolled
      · obtain ⟨rfl,rest⟩ := considerRolled rolled
        exact rest

structure Vouched (platform : Platform) (lib : Library) (key : Bytes) (snapshot : Snapshot) (b : Bundle) (raw : Bytes)
    (cfg own : Config) : Prop where
  verified : verifyBundle platform lib b key = .ok ()
  bytes : b.configBytes platform = .ok raw
  parsed : platform.parseJSON raw = .ok cfg
  form : own = cfg ∨ SameDocument (maskLockedConfig cfg) own
  compiled : CompiledFrom platform own snapshot.compiled
  named : b.info.version ≠ ""
  version : snapshot.version = encodeText b.info.version

def IsVouched (platform : Platform) (lib : Library) (key : Bytes) (snapshot : Snapshot) : Prop :=
  ∃ b raw cfg own, Vouched platform lib key snapshot b raw cfg own

theorem installedVersion {manager : ApplyManager.Manager} {c : ApplyManager.Circumstance} {raw : Bytes} {source : String}
    {version : Bytes} {r : ApplyManager.Result} {cfg : Config}
    (done : ApplyManager.Installed platform manager c live raw source version r cfg) (named : version ≠ []) :
    r.snapshot.version = version := by
  obtain ⟨made,-,rfl⟩ := done.compiled
  exact if_neg named

theorem rolledNamed (named : b.info.version ≠ "") : b.rolled.version ≠ [] :=
  fun none_ => named (BundleSigning.encodeTextEmpty.mp none_)

theorem lockedVouched (round : RoundTrips platform) (named : b.info.version ≠ "")
    (verified : verifyBundle platform lib b key = .ok ()) (admits : Admits platform m w live b.rolled "" t) {r : ApplyManager.Result}
    (ok : (lockedStage platform w live b.rolled "" t).result = .ok r) : IsVouched platform lib key r.snapshot := by
  obtain ⟨own,done⟩ := resolvedOk ok
  obtain ⟨back,parsed,same⟩ := round _ _ admits.masked
  cases Except.ok.inj (parsed.symm.trans (checkedParsed done.checked))
  exact ⟨b,t.raw,t.config,own,verified,admits.decoded,admits.parsed,.inr same,done.from_,named,
    installedVersion done (rolledNamed named)⟩

theorem fullVouched (named : b.info.version ≠ "") (verified : verifyBundle platform lib b key = .ok ())
    (admits : Admits platform m w live b.rolled "" t)
    {r : ApplyManager.Result} (ok : (fullStage platform w live b.rolled "" t).result = .ok r) :
    IsVouched platform lib key r.snapshot := by
  obtain ⟨cfg,done⟩ := resolvedOk ok
  exact ⟨b,t.raw,cfg,cfg,verified,admits.decoded,checkedParsed done.checked,.inl rfl,done.from_,named,
    installedVersion done (rolledNamed named)⟩

def Backed (platform : Platform) (lib : Library) (key : Bytes) (before after : Live) : Prop :=
  after.store.current = before.store.current ∨ ∃ s, after.store.current = some s ∧ IsVouched platform lib key s

theorem rollbackBacked (m : Rollout.Manager) {l : Live} (now : Int) (backed : Backed platform lib key live l) :
    Backed platform lib key live (rollback m (previousOf m live) now l).2 := by
  unfold rollback previousOf
  cases m.hasStore with
  | false => exact backed
  | true =>
    cases current : live.store.current with
    | none => exact backed
    | some s => exact .inl ((Store.swapCurrent _ _ _).trans current.symm)

theorem rolloutBacked (m : Rollout.Manager) (w : Stages) (live : Live) (round : RoundTrips platform)
    (named : b.info.version ≠ "") (verified : verifyBundle platform lib b key = .ok ()) :
    Backed platform lib key live (applyBundle platform m w live b.rolled "").live ∧
    ∀ e ∈ (applyBundle platform m w live b.rolled "").seen, Backed platform lib key live e.2 := by
  have start : Backed platform lib key live live := .inl rfl
  have lockedBacked {t : Ticket} (admits : Admits platform m w live b.rolled "" t) {r : ApplyManager.Result}
      (ok : (lockedStage platform w live b.rolled "" t).result = .ok r) :
      Backed platform lib key live (lockedStage platform w live b.rolled "" t).live :=
    .inr ⟨r.snapshot,(lockedCurrent ok).1,lockedVouched round named verified admits ok⟩
  generalize outcome : applyBundle platform m w live b.rolled "" = o
  have exit : Course platform m w live b.rolled "" o := outcome ▸ course
  cases exit with
  | turnedAway e never => exact ⟨start,by simpa using start⟩
  | rejected admits refused =>
    have kept : Backed platform lib key live (lockedStage platform w live b.rolled "" _).live :=
      .inl (congrArg Store.current (resolvedError refused))
    exact ⟨kept,by simpa using ⟨start,kept⟩⟩
  | cancelled admits locked ended =>
    have masked := lockedBacked admits locked
    exact ⟨masked,by simpa using ⟨start,masked⟩⟩
  | gated admits locked baked shut same =>
    subst same
    have masked := lockedBacked admits locked
    have back := rollbackBacked m w.rollbackTime masked
    exact ⟨back,by simpa using ⟨start,masked,back⟩⟩
  | failed admits locked baked passed refused same =>
    subst same
    have masked := lockedBacked admits locked
    have stays : Backed platform lib key live (fullStage platform w live b.rolled "" _).live :=
      .inr ⟨_,(congrArg Store.current (resolvedError refused)).trans (lockedCurrent locked).1,
        lockedVouched round named verified admits locked⟩
    have back := rollbackBacked m w.rollbackTime stays
    exact ⟨back,by simpa using ⟨start,masked,stays,back⟩⟩
  | done admits locked baked passed full =>
    have masked := lockedBacked admits locked
    obtain ⟨cfg,done⟩ := resolvedOk full
    have whole : Backed platform lib key live (fullStage platform w live b.rolled "" _).live :=
      .inr ⟨_,done.current,fullVouched named verified admits full⟩
    exact ⟨whole,by simpa using ⟨start,masked,whole⟩⟩

theorem pullBacked (p : Puller) (lib : Library) (decode : Bytes → Option Bundle) (w : Stages) (live : Live)
    (round : RoundTrips platform) (reply : Option Reply) :
    Backed platform lib p.publicKey live ((p.pullOnce platform lib decode w live reply).live live) ∧
    ∀ l ∈ (p.pullOnce platform lib decode w live reply).met live, Backed platform lib p.publicKey live l := by
  have start : Backed platform lib p.publicKey live live := .inl rfl
  cases pulled : p.pullOnce platform lib decode w live reply with
  | rolled b o =>
    obtain ⟨named,verified,m,-,rfl⟩ := pullRolled pulled
    obtain ⟨last,all⟩ := rolloutBacked m w live round named verified
    refine ⟨last,fun l inside => ?_⟩
    obtain ⟨e,member,rfl⟩ := List.mem_map.mp inside
    exact all e member
  | _ => exact ⟨start,fun l inside => List.mem_singleton.mp inside ▸ start⟩

/- Pulls with whatever a distributor answers, and changes that others make in between; `shown`
are the snapshots that requests have met, `foreign` those that no pull brought. -/
structure State where
  live : Live
  shown : List Snapshot
  foreign : List Snapshot

inductive Action where
  | pull (reply : Option Reply) (w : Stages)
  | elsewhere (live : Live)

def currents (states : List Live) : List Snapshot := states.filterMap (fun l => l.store.current)

def begin_ (live : Live) : State := ⟨live,currents [live],currents [live]⟩

def step (p : Puller) (platform : Platform) (lib : Library) (decode : Bytes → Option Bundle) (s : State) :
    Action → Option State
  | .pull reply w =>
    let pulled := p.pullOnce platform lib decode w s.live reply
    some { s with live := pulled.live s.live, shown := s.shown ++ currents (pulled.met s.live) }
  | .elsewhere live => some ⟨live,s.shown ++ currents [live],s.foreign ++ currents [live]⟩

structure Sound (platform : Platform) (lib : Library) (key : Bytes) (s : State) : Prop where
  shown : ∀ snapshot ∈ s.shown, snapshot ∈ s.foreign ∨ IsVouched platform lib key snapshot
  current : ∀ snapshot, s.live.store.current = some snapshot → snapshot ∈ s.foreign ∨ IsVouched platform lib key snapshot

theorem backedSound {s : State} (sound : Sound platform lib key s) {l : Live} (backed : Backed platform lib key s.live l)
    (snapshot : Snapshot) (current : l.store.current = some snapshot) : snapshot ∈ s.foreign ∨ IsVouched platform lib key snapshot := by
  rcases backed with same | ⟨own,is,vouched⟩
  · exact sound.current snapshot (same.symm.trans current)
  · cases Option.some.inj (is.symm.trans current)
    exact .inr vouched

theorem soundStep (round : RoundTrips platform) {s t : State} {a : Action} (sound : Sound platform lib p.publicKey s)
    (taken : step p platform lib decode s a = some t) : Sound platform lib p.publicKey t := by
  cases a with
  | pull reply w =>
    cases taken
    obtain ⟨last,all⟩ := pullBacked p lib decode w s.live round reply
    refine ⟨fun snapshot inside => ?_,backedSound sound last⟩
    rcases List.mem_append.mp inside with old | new
    · exact sound.shown snapshot old
    · obtain ⟨l,met,current⟩ := List.mem_filterMap.mp new
      exact backedSound sound (all l met) snapshot current
  | elsewhere live =>
    cases taken
    have own (snapshot : Snapshot) (current : live.store.current = some snapshot) : snapshot ∈ s.foreign ++ currents [live] :=
      List.mem_append_right _ (List.mem_filterMap.mpr ⟨live,List.mem_singleton.mpr rfl,current⟩)
    refine ⟨fun snapshot inside => ?_,fun snapshot current => .inl (own snapshot current)⟩
    rcases List.mem_append.mp inside with old | new
    · exact (sound.shown snapshot old).imp_left (List.mem_append_left _)
    · exact .inl (List.mem_append_right _ new)

theorem shownVouched (round : RoundTrips platform) {live : Live} {as : List Action} {s : State}
    (run : Runs (step p platform lib decode) anyStep (begin_ live) as s) :
    ∀ snapshot ∈ s.shown, snapshot ∈ s.foreign ∨ IsVouched platform lib p.publicKey snapshot := by
  have start : Sound platform lib p.publicKey (begin_ live) := by
    refine ⟨fun snapshot inside => .inl inside,fun snapshot current => .inl ?_⟩
    exact List.mem_filterMap.mpr ⟨live,List.mem_singleton.mpr rfl,current⟩
  exact (run.preserve (Sound platform lib p.publicKey) (fun _ _ _ kept _ taken => soundStep round kept taken) start).shown

def samplePlatform : Platform :=
  { codec (ApplyManager.onePool "new") with
    decodeBase64 := fun text => .ok (if text = encoded then ApplyManager.document else encodeText text) }

def sampleLibrary : Library :=
  { marshalMeta := fun info => .ok (encodeText info.version)
    unmarshalBundle := fun _ => .ok {}
    rollbackVersion := fun _ => .ok ""
    encodeBase64 := fun _ => ""
    verify := fun _ _ sig => decide (sig = encodeText "c2ln") }

def sampleBundle : Bundle :=
  { info := { version := "v2", createdAt := "2026-01-01T00:00:00Z" }, configBytesB64 := encoded, signatureB64 := "c2ln" }

def samplePuller : Puller := { baseURL := "http://bundles", publicKey := BundleSigning.zeros 32 }

def sampleReply : Reply := ⟨200,encodeText "v2"⟩

def forgedReply : Reply := ⟨200,encodeText "v3"⟩

def sampleDecode (body : Bytes) : Option Bundle :=
  some (if body = sampleReply.body then sampleBundle
    else { sampleBundle with info := { version := "v3" }, signatureB64 := "Zm9yZ2Vk" })

theorem sampleShown : ∃ s, Runs (step samplePuller samplePlatform sampleLibrary sampleDecode) anyStep (begin_ serving)
    [.pull (some sampleReply) quiet,.pull (some forgedReply) quiet] s ∧
    s.live.store.current.map Snapshot.version = some (encodeText "v2") ∧
    ∀ snapshot ∈ s.shown, snapshot ∈ s.foreign ∨ IsVouched samplePlatform sampleLibrary (BundleSigning.zeros 32) snapshot := by
  have run : Runs (step samplePuller samplePlatform sampleLibrary sampleDecode) anyStep (begin_ serving)
      [.pull (some sampleReply) quiet,.pull (some forgedReply) quiet] _ := .cons trivial rfl (.cons trivial rfl (.nil _))
  have round : RoundTrips samplePlatform := codecRoundTrips (ApplyManager.onePool "new")
  exact ⟨_,run,by decide +kernel,shownVouched round run⟩

structure Offers (decode : Bytes → Option Bundle) (reply : Reply) (b : Bundle) : Prop where
  status : reply.status = 200
  decoded : decode reply.body = some b
  named : b.info.version ≠ ""

inductive Settles (b : Bundle) (old : Snapshot) : List Pulled → Live → Prop where
  | waiting {after : Live} (same : after.store.current = some old) : Settles b old [] after
  | again {o : BundleOutcome} {e : Message} {rest : List Pulled} {after : Live} (failed : o.result = .error e)
      (back : o.live.store.current = some old) (later : Settles b old rest after) : Settles b old (.rolled b o :: rest) after
  | reached {o : BundleOutcome} {s : Snapshot} {rest : List Pulled} (current : o.live.store.current = some s)
      (version : s.version = encodeText b.info.version)
      (last : (∃ r, o.result = .ok r) ∨ ((∃ e, o.result = .error e) ∧ o.seen.getLast? = some (.locked,o.live)))
      (later : ∀ r ∈ rest, r = .current) : Settles b old (.rolled b o :: rest) o.live

theorem rollbackOld {l : Live} (stored : m.hasStore = true) (current : live.store.current = some old) (now : Int) :
    (rollback m (previousOf m live) now l).2.store.current = some old := by
  unfold rollback previousOf
  rw [stored, current]
  exact Store.swapCurrent _ _ _

theorem rolloutEnds (w : Stages) (stored : m.hasStore = true) (current : live.store.current = some old)
    (named : b.rolled.version ≠ []) {o : BundleOutcome} (outcome : applyBundle platform m w live b.rolled "" = o) :
    (∃ e, o.result = .error e ∧ o.live.store.current = some old) ∨
    ∃ s, o.live.store.current = some s ∧ s.version = b.rolled.version ∧
      ((∃ r, o.result = .ok r) ∨ ((∃ e, o.result = .error e) ∧ o.seen.getLast? = some (.locked,o.live))) := by
  have exit : Course platform m w live b.rolled "" o := outcome ▸ course
  cases exit with
  | turnedAway e never => exact .inl ⟨e,rfl,current⟩
  | rejected admits refused => exact .inl ⟨_,rfl,(congrArg Store.current (resolvedError refused)).trans current⟩
  | cancelled admits locked ended =>
    obtain ⟨cfg,done⟩ := resolvedOk locked
    exact .inr ⟨_,done.current,installedVersion done named,.inr ⟨⟨_,rfl⟩,rfl⟩⟩
  | gated admits locked baked shut same => exact .inl ⟨_,rfl,same ▸ rollbackOld stored current _⟩
  | failed admits locked baked passed refused same => exact .inl ⟨_,rfl,same ▸ rollbackOld stored current _⟩
  | done admits locked baked passed full =>
    obtain ⟨cfg,done⟩ := resolvedOk full
    exact .inr ⟨_,done.current,installedVersion done named,.inl ⟨_,rfl⟩⟩

theorem pullOffered (w : Stages) (offers : Offers decode reply b) (verified : verifyBundle platform lib b p.publicKey = .ok ()) :
    p.pullOnce platform lib decode w live (some reply) =
      if p.currentVersion live = encodeText b.info.version then .current else p.hand platform w live b := by
  unfold Puller.pullOnce Puller.consider
  dsimp only
  rw [if_neg (not_not_intro offers.status), offers.decoded]
  dsimp only
  rw [if_neg offers.named, verified]

theorem currentVersionStored {s : Snapshot} (stored : p.hasStore = true) (current : live.store.current = some s) :
    p.currentVersion live = s.version := by
  unfold Puller.currentVersion
  rw [stored, current]
  rfl

theorem pullsIdle (offers : Offers decode reply b) (verified : verifyBundle platform lib b p.publicKey = .ok ())
    (same : p.currentVersion live = encodeText b.info.version) (ws : List Stages) :
    (∀ r ∈ (p.pulls platform lib decode live (ws.map (some reply,·))).1, r = .current) ∧
    (p.pulls platform lib decode live (ws.map (some reply,·))).2 = live := by
  induction ws with
  | nil => exact ⟨fun r inside => absurd inside List.not_mem_nil,rfl⟩
  | cons w rest ih =>
    rw [List.map_cons, Puller.pulls, pullOffered w offers verified, if_pos same]
    refine ⟨fun r inside => ?_,ih.2⟩
    rcases List.mem_cons.mp inside with first | later
    · exact first
    · exact ih.1 r later

theorem pullsSettle (active : p.enabled = true ∧ p.baseURL ≠ "") (manager : p.rollout = some m) (reads : p.hasStore = true)
    (stored : m.hasStore = true) (offers : Offers decode reply b) (verified : verifyBundle platform lib b p.publicKey = .ok ())
    (current : live.store.current = some old) (other : old.version ≠ encodeText b.info.version) (ws : List Stages) :
    Settles b old (p.run platform lib decode live (ws.map (some reply,·))).1
      (p.run platform lib decode live (ws.map (some reply,·))).2 := by
  unfold Puller.run
  rw [if_neg (by simp [active.1, active.2])]
  induction ws generalizing live with
  | nil => exact .waiting current
  | cons w rest ih =>
    have differs : p.currentVersion live ≠ encodeText b.info.version := currentVersionStored reads current ▸ other
    rw [List.map_cons, Puller.pulls, pullOffered w offers verified, if_neg differs]
    unfold Puller.hand
    rw [manager]
    dsimp only [Pulled.live]
    generalize outcome : applyBundle platform m w live b.rolled "" = o
    rcases rolloutEnds w stored current (rolledNamed offers.named) outcome with ⟨e,failed,back⟩ | ⟨s,now,version,last⟩
    · exact .again failed back (ih back)
    · obtain ⟨idle,kept⟩ := pullsIdle offers verified ((currentVersionStored reads now).trans version) rest
      rw [kept]
      exact .reached now version last idle

theorem sampleSettles : ∃ old, serving.store.current = some old ∧
    Settles sampleBundle old
      (samplePuller.run samplePlatform sampleLibrary sampleDecode serving ([quiet,quiet].map (some sampleReply,·))).1
      (samplePuller.run samplePlatform sampleLibrary sampleDecode serving ([quiet,quiet].map (some sampleReply,·))).2 :=
  ⟨_,rfl,pullsSettle ⟨rfl,by decide⟩ rfl rfl rfl ⟨rfl,rfl,by decide⟩ (by decide +kernel) rfl (by decide +kernel) [quiet,quiet]⟩

end
end ReverseProxy.BundlePull
