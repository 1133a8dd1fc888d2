import ReverseProxy.AdminHistory
import ReverseProxy.Crew
import ReverseProxy.Transition

/-! Package admin: the handler behind the control-plane listener. A request is answered
at once or works on a bundle, one step for each thing ApplyBundle does to shared
state; meanwhile the process may change as it likes. `accepted` and `compiled` are
kept for the statements: the bundles VerifyBundle has accepted, and the configs that
were compiled in ModeApply. -/
namespace ReverseProxy.AdminApi
open GoValues ConfigData ConfigValidation SnapshotStore SignedBundle
open ApplyManager (Circumstance Live Outcome Result apply applyResolvedVersion buildProviders checkRequest checkedParsed)
open ProviderMerge (merge)
open Rollout (SameDocument RoundTrips maskLockedConfig lockConfigBytes lockConfigBytesOk)
open Transition (Runs anyStep runAll runAllRuns)

inductive Endpoint where
  | validate
  | config
  | bundle
  | rollback
  | snapshot
  deriving DecidableEq, Repr

def endpointOf (path : String) : Option Endpoint :=
  if path = "/admin/validate" then some .validate
  else if path = "/admin/config" then some .config
  else if path = "/admin/bundle" then some .bundle
  else if path = "/admin/rollback" then some .rollback
  else if path = "/admin/snapshot" then some .snapshot
  else none

/- `allowed` is the rate limiter's answer and `denied` Authenticate's error; `body` is
none when reading it fails. -/
structure Request where
  allowed : Bool := true
  denied : Option (Nat × String) := none
  path : String
  method : String
  body : Option Bytes
  time : String := ""

inductive Reply where
  | error (status : Nat) (e : Message)
  | valid (warnings : List Message)
  | applied (version : Bytes) (warnings : List Message)
  | rolledBack (version : Bytes)
  | snapshot (current : Snapshot)

structure Handler where
  apply : Option ApplyManager.Manager := some {}
  rollout : Option Rollout.Manager := some {}
  hasStore : Bool := true
  hasLimiter : Bool := true
  hasAuth : Bool := true
  keepsHistory : Bool := true
  publicKey : Bytes := []
  allowUnsigned : Bool := false

inductive Stage where
  | validating
  | locking (lockedBytes : Bytes)
  | baking
  | filling
  | rollingBack (e : Message)
  | direct
  | succeeded (r : Result)

structure Job where
  bundle : Bundle
  sourceOverride : String
  raw : Bytes
  previous : Option Snapshot := none
  stage : Stage

inductive Exchange where
  | working (j : Job)
  | answered (r : Reply)

structure State where
  live : Live := {}
  history : AdminHistory.Store := {}
  exchanges : List Exchange := []
  accepted : List Bundle := []
  compiled : List Config := []

inductive Action where
  | request (r : Request) (around : Circumstance)
  | advance (i : Nat) (around : Circumstance)
  | baked (i : Nat) (cancelled : Option Message) (toFloat : Rat → Rat) (rolling : Duration → Nat × Nat)
  | putBack (i : Nat) (now : Int)
  | record (i : Nat)
  | world (live : Live)

def answer (s : State) (r : Reply) : State := { s with exchanges := s.exchanges ++ [.answered r] }

def refuse (s : State) (status : Nat) (text : String) : State := answer s (.error status (newError text))

def applyErrorStatus (e : Message) : Nat :=
  if e = ApplyManager.errConfigTooLarge then 413
  else if e = ApplyManager.errCompileTimeout then 429
  else if e = ApplyManager.errPressure then 429
  else 400

def asciiText (raw : Bytes) : String := String.ofList (raw.map (fun b => Char.ofNat b.toNat))

section
variable (platform : Platform) (lib : Library) (h : Handler)

/- What ApplyResolvedVersion gives to its compile goroutine. -/
def resolvedConfig (m : ApplyManager.Manager) (live : Live) (raw : Bytes) : List Config :=
  (checkRequest platform m live raw).toOption.toList

/- What Apply's goroutine merges; one that has been given up on before it read the admin
provider finds the previous config there. -/
def pushedConfig (m : ApplyManager.Manager) (c : Circumstance) (live : Live) (raw : Bytes) : List Config :=
  match checkRequest platform m live raw with
  | .error _ => []
  | .ok cfg =>
    match validateMetrics platform cfg.metrics with
    | .error _ => []
    | .ok _ =>
      let pushed := if m.hasAdmin then some cfg else live.admin
      let held := match c.timing with
        | .late _ .loading => live.admin
        | _ => pushed
      (merge c.mergeRanges (buildProviders m held cfg)).toOption.toList

def handleValidate (c : Circumstance) (s : State) (r : Request) : State :=
  if r.method ≠ "POST" then refuse s 405 "method not allowed"
  else match r.body with
    | none => refuse s 400 "invalid body"
    | some body =>
      match h.apply with
      | none => refuse s 503 "apply unavailable"
      | some m =>
        let outcome := apply platform m c s.live body "admin" .validate
        match outcome.result with
        | .error e => answer { s with live := outcome.live } (.error (applyErrorStatus e) e)
        | .ok result => answer { s with live := outcome.live } (.valid result.warnings)

def unsignedBundle (r : Request) (body version : Bytes) : Bundle :=
  { info := { version := asciiText version, createdAt := r.time, source := "admin" }
    configBytesB64 := lib.encodeBase64 body
    configSHA256 := asciiText (hashConfig platform body).1 }

def handleApply (c : Circumstance) (s : State) (r : Request) : State :=
  if r.method ≠ "POST" then refuse s 405 "method not allowed"
  else if h.publicKey.length = publicKeySize ∧ h.allowUnsigned = false then refuse s 403 "unsigned apply disabled"
  else match r.body with
    | none => refuse s 400 "invalid body"
    | some body =>
      match h.apply with
      | none => refuse s 503 "apply unavailable"
      | some m =>
        let outcome := apply platform m c s.live body "admin" .apply
        let s := { s with live := outcome.live, compiled := s.compiled ++ pushedConfig platform m c s.live body }
        match outcome.result with
        | .error e => answer s (.error (applyErrorStatus e) e)
        | .ok result =>
          let history := if h.keepsHistory then s.history.record (unsignedBundle platform lib r body result.version) else s.history
          answer { s with history := history } (.applied result.version result.warnings)

def workOn (s : State) (b : Bundle) (sourceOverride : String) (previous : Option Snapshot) (stage : Stage) : State :=
  match b.configBytes platform with
  | .error e => answer s (.error 400 e)
  | .ok raw => { s with exchanges := s.exchanges ++ [.working ⟨b,sourceOverride,raw,previous,stage⟩] }

def startBundle (s : State) (b : Bundle) (sourceOverride : String) : State :=
  match h.rollout with
  | some rm =>
    match rm.apply with
    | none => refuse s 400 "rollout manager unavailable"
    | some _ => workOn platform s b sourceOverride (Rollout.previousOf rm s.live) .validating
  | none =>
    match h.apply with
    | none => refuse s 400 "apply unavailable"
    | some _ => workOn platform s b sourceOverride none .direct

def handleBundle (s : State) (r : Request) : State :=
  if r.method ≠ "POST" then refuse s 405 "method not allowed"
  else if h.publicKey.length ≠ publicKeySize then refuse s 503 "public key missing"
  else match r.body with
    | none => refuse s 400 "invalid body"
    | some body =>
      match lib.unmarshalBundle body with
      | .error _ => refuse s 400 "invalid bundle"
      | .ok b =>
        match verifyBundle platform lib b h.publicKey with
        | .error _ => refuse s 400 "invalid signature"
        | .ok _ => startBundle platform h { s with accepted := s.accepted ++ [b] } b ""

def handleRollback (s : State) (r : Request) : State :=
  if r.method ≠ "POST" then refuse s 405 "method not allowed"
  else if h.keepsHistory = false then refuse s 503 "history unavailable"
  else
    let version : Except Unit String :=
      match r.body with
      | none => .error ()
      | some body =>
        match lib.rollbackVersion body with
        | .ok version => .ok version
        | .error none => .ok ""
        | .error (some _) => .error ()
    match version with
    | .error _ => refuse s 400 "invalid body"
    | .ok version =>
      match (if version ≠ "" then s.history.get version else s.history.previous) with
      | none => refuse s 404 "bundle not found"
      | some b => startBundle platform h s b "rollback"

def handleSnapshot (s : State) (r : Request) : State :=
  if r.method ≠ "GET" then refuse s 405 "method not allowed"
  else if h.hasStore = false then refuse s 503 "snapshot unavailable"
  else match s.live.store.current with
    | none => refuse s 404 "snapshot missing"
    | some current => answer s (.snapshot current)

def serveHTTP (c : Circumstance) (s : State) (r : Request) : State :=
  if h.hasLimiter && !r.allowed then refuse s 429 "rate_limited"
  else if h.hasAuth = false then refuse s 401 "auth unavailable"
  else match r.denied with
    | some (status,text) => refuse s status text
    | none =>
      match endpointOf r.path with
      | none => refuse s 404 "404 page not found"
      | some .validate => handleValidate platform h c s r
      | some .config => handleApply platform lib h c s r
      | some .bundle => handleBundle platform lib h s r
      | some .rollback => handleRollback platform lib h s r
      | some .snapshot => handleSnapshot h s r

def managerOf : Option ApplyManager.Manager :=
  match h.rollout with
  | some rm => rm.apply
  | none => h.apply

def setExchange (s : State) (i : Nat) (x : Exchange) : State := { s with exchanges := s.exchanges.set i x }

def setStage (s : State) (i : Nat) (j : Job) (stage : Stage) : State := setExchange s i (.working { j with stage := stage })

def fail (s : State) (i : Nat) (e : Message) : State := setExchange s i (.answered (.error 400 e))

def resolve (m : ApplyManager.Manager) (c : Circumstance) (live : Live) (j : Job) (raw : Bytes) (mode : ApplyManager.Mode) : Outcome :=
  applyResolvedVersion platform m c live raw (Rollout.sourceOf j.bundle.rolled j.sourceOverride) j.bundle.rolled.version mode

def logCompile (m : ApplyManager.Manager) (c : Circumstance) (s : State) (j : Job) (raw : Bytes) : State :=
  { s with
    live := (resolve platform m c s.live j raw .apply).live
    compiled := s.compiled ++ resolvedConfig platform m s.live raw }

def compileStep (m : ApplyManager.Manager) (c : Circumstance) (s : State) (i : Nat) (j : Job) (raw : Bytes)
    (failed : Message → State → State) (done : Result → Stage) : State :=
  match (resolve platform m c s.live j raw .apply).result with
  | .error e => failed e (logCompile platform m c s j raw)
  | .ok r => setStage (logCompile platform m c s j raw) i j (done r)

def advanceJob (m : ApplyManager.Manager) (c : Circumstance) (s : State) (i : Nat) (j : Job) : Option State :=
  match j.stage with
  | .validating =>
    match (resolve platform m c s.live j j.raw .validate).result,lockConfigBytes platform j.raw with
    | .error e,_ => some (fail s i e)
    | .ok _,.error e => some (fail s i e)
    | .ok _,.ok lockedBytes => some (setStage s i j (.locking lockedBytes))
  | .locking lockedBytes => some (compileStep platform m c s i j lockedBytes (fun e s => fail s i e) (fun _ => .baking))
  | .filling => some (compileStep platform m c s i j j.raw (fun e s => setStage s i j (.rollingBack e)) .succeeded)
  | .direct => some (compileStep platform m c s i j j.raw (fun e s => fail s i e) .succeeded)
  | _ => none

def bakeJob (rm : Rollout.Manager) (s : State) (i : Nat) (j : Job) (cancelled : Option Message) (toFloat : Rat → Rat)
    (rolling : Duration → Nat × Nat) : State :=
  match (if 0 < rm.lockedBake then cancelled else none) with
  | some e => fail s i e
  | none =>
    match rm.gates.check toFloat rolling with
    | .error e => setStage s i j (.rollingBack e)
    | .ok _ => setStage s i j .filling

def replyOf (sourceOverride : String) : Except Message Result → Reply
  | .error e => .error 400 e
  | .ok r => if sourceOverride = "" then .applied r.version [] else .rolledBack r.version

def recordJob (s : State) (i : Nat) (j : Job) (r : Result) : State :=
  let history := if h.keepsHistory then s.history.record j.bundle else s.history
  setExchange { s with history := history } i (.answered (replyOf j.sourceOverride (.ok r)))

def jobAt (s : State) (i : Nat) : Option Job :=
  match s.exchanges[i]? with
  | some (.working j) => some j
  | _ => none

def step (s : State) : Action → Option State
  | .request r c => some (serveHTTP platform lib h c s r)
  | .advance i c => (jobAt s i).bind fun j => (managerOf h).bind fun m => advanceJob platform m c s i j
  | .baked i cancelled toFloat rolling =>
    (jobAt s i).bind fun j => h.rollout.bind fun rm =>
      match j.stage with
      | .baking => some (bakeJob rm s i j cancelled toFloat rolling)
      | _ => none
  | .putBack i now =>
    (jobAt s i).bind fun j => h.rollout.bind fun rm =>
      match j.stage with
      | .rollingBack e => some (fail { s with live := (Rollout.rollback rm j.previous now s.live).2 } i e)
      | _ => none
  | .record i =>
    (jobAt s i).bind fun j =>
      match j.stage with
      | .succeeded r => some (recordJob h s i j r)
      | _ => none
  | .world live => some { s with live := live }

end

def Signed (platform : Platform) (accepted : List Bundle) (cfg : Config) : Prop :=
  ∃ b ∈ accepted, ∃ raw own, b.configBytes platform = .ok raw ∧ platform.parseJSON raw = .ok own ∧
    (cfg = own ∨ SameDocument (maskLockedConfig own) cfg)

structure Backed (platform : Platform) (accepted : List Bundle) (j : Job) : Prop where
  member : j.bundle ∈ accepted
  decoded : j.bundle.configBytes platform = .ok j.raw
  locked : ∀ lockedBytes, j.stage = .locking lockedBytes → lockConfigBytes platform j.raw = .ok lockedBytes

structure Vouched (platform : Platform) (lib : Library) (h : Handler) (s : State) : Prop where
  verified : ∀ b ∈ s.accepted, verifyBundle platform lib b h.publicKey = .ok ()
  stored : ∀ version b, s.history.bundles.get version = some b → b ∈ s.accepted
  jobs : ∀ j, .working j ∈ s.exchanges → Backed platform s.accepted j
  compiled : ∀ cfg ∈ s.compiled, Signed platform s.accepted cfg

section
variable {platform : Platform} {lib : Library} {h : Handler} {s : State} {j : Job} {b : Bundle} {i : Nat}

theorem Backed.move (backed : Backed platform s.accepted j) {stage : Stage}
    (unlocked : ∀ lockedBytes, stage = .locking lockedBytes → lockConfigBytes platform j.raw = .ok lockedBytes) :
    Backed platform s.accepted { j with stage := stage } := ⟨backed.member,backed.decoded,unlocked⟩

theorem Backed.signsOwn (backed : Backed platform s.accepted j) (m : ApplyManager.Manager) (live : Live) :
    ∀ cfg ∈ resolvedConfig platform m live j.raw, Signed platform s.accepted cfg := by
  intro cfg inside
  cases checked : checkRequest platform m live j.raw with
  | error e => simp [resolvedConfig,checked,Except.toOption] at inside
  | ok own =>
    have same : cfg = own := by simpa [resolvedConfig,checked,Except.toOption] using inside
    exact ⟨j.bundle,backed.member,j.raw,own,backed.decoded,checkedParsed checked,.inl same⟩

theorem Backed.signsLocked (trips : RoundTrips platform) (backed : Backed platform s.accepted j) {lockedBytes : Bytes}
    (stage : j.stage = .locking lockedBytes) (m : ApplyManager.Manager) (live : Live) :
    ∀ cfg ∈ resolvedConfig platform m live lockedBytes, Signed platform s.accepted cfg := by
  intro cfg inside
  obtain ⟨own,parsed,written⟩ := lockConfigBytesOk (backed.locked _ stage)
  obtain ⟨back,read,same⟩ := trips _ _ written
  cases checked : checkRequest platform m live lockedBytes with
  | error e => simp [resolvedConfig,checked,Except.toOption] at inside
  | ok masked =>
    have first : cfg = masked := by simpa [resolvedConfig,checked,Except.toOption] using inside
    have second : masked = back := Except.ok.inj ((checkedParsed checked).symm.trans read)
    exact ⟨j.bundle,backed.member,j.raw,own,backed.decoded,parsed,.inr (by rw [first,second]; exact same)⟩

theorem Vouched.lives (vouched : Vouched platform lib h s) (live : Live) : Vouched platform lib h { s with live := live } :=
  ⟨vouched.verified,vouched.stored,vouched.jobs,vouched.compiled⟩

theorem Vouched.answers (vouched : Vouched platform lib h s) (r : Reply) : Vouched platform lib h (answer s r) where
  verified := vouched.verified
  stored := vouched.stored
  jobs j inside := by
    rcases List.mem_append.mp inside with early | last
    · exact vouched.jobs j early
    · cases List.mem_singleton.mp last
  compiled := vouched.compiled

theorem Vouched.place (vouched : Vouched platform lib h s) {x : Exchange}
    (fits : ∀ j, x = .working j → Backed platform s.accepted j) : Vouched platform lib h (setExchange s i x) where
  verified := vouched.verified
  stored := vouched.stored
  jobs j inside := by
    rcases List.mem_or_eq_of_mem_set inside with early | same
    · exact vouched.jobs j early
    · exact fits j same.symm
  compiled := vouched.compiled

theorem Vouched.fails (vouched : Vouched platform lib h s) (e : Message) : Vouched platform lib h (fail s i e) :=
  vouched.place fun _ same => nomatch same

theorem Vouched.moves (vouched : Vouched platform lib h s) (backed : Backed platform s.accepted j) {stage : Stage}
    (unlocked : ∀ lockedBytes, stage = .locking lockedBytes → lockConfigBytes platform j.raw = .ok lockedBytes) :
    Vouched platform lib h (setStage s i j stage) := by
  refine vouched.place fun _ same => ?_
  cases same
  exact backed.move unlocked

theorem Vouched.records (vouched : Vouched platform lib h s) (inside : b ∈ s.accepted) :
    Vouched platform lib h { s with history := if h.keepsHistory then s.history.record b else s.history } := by
  refine ⟨vouched.verified,?_,vouched.jobs,vouched.compiled⟩
  intro version found there
  dsimp only at there
  split at there
  · rcases AdminHistory.Store.recordGet there with same | early
    · exact same ▸ inside
    · exact vouched.stored version found early
  · exact vouched.stored version found there

theorem Vouched.accepts (vouched : Vouched platform lib h s) (ok : verifyBundle platform lib b h.publicKey = .ok ()) :
    Vouched platform lib h { s with accepted := s.accepted ++ [b] } where
  verified other inside := by
    rcases List.mem_append.mp inside with early | last
    · exact vouched.verified other early
    · rw [List.mem_singleton.mp last]
      exact ok
  stored version found there := List.mem_append_left _ (vouched.stored version found there)
  jobs j inside :=
    have backed := vouched.jobs j inside
    ⟨List.mem_append_left _ backed.member,backed.decoded,backed.locked⟩
  compiled cfg inside := by
    obtain ⟨b,member,signed⟩ := vouched.compiled cfg inside
    exact ⟨b,List.mem_append_left _ member,signed⟩

theorem Vouched.compiles (vouched : Vouched platform lib h s) (live : Live) {more : List Config}
    (signed : ∀ cfg ∈ more, Signed platform s.accepted cfg) :
    Vouched platform lib h { s with live := live, compiled := s.compiled ++ more } := by
  refine ⟨vouched.verified,vouched.stored,vouched.jobs,fun cfg inside => ?_⟩
  rcases List.mem_append.mp inside with early | late
  · exact vouched.compiled cfg early
  · exact signed cfg late

theorem Vouched.works (vouched : Vouched platform lib h s) (inside : b ∈ s.accepted) (sourceOverride : String)
    (previous : Option Snapshot) {stage : Stage} (fresh : ∀ lockedBytes, stage ≠ .locking lockedBytes) :
    Vouched platform lib h (workOn platform s b sourceOverride previous stage) := by
  unfold workOn
  split
  · exact vouched.answers _
  · rename_i raw decoded
    refine ⟨vouched.verified,vouched.stored,fun j there => ?_,vouched.compiled⟩
    rcases List.mem_append.mp there with early | last
    · exact vouched.jobs j early
    · cases List.mem_singleton.mp last
      exact ⟨inside,decoded,fun lockedBytes same => absurd same (fresh lockedBytes)⟩

theorem Vouched.starts (vouched : Vouched platform lib h s) (inside : b ∈ s.accepted) (sourceOverride : String) :
    Vouched platform lib h (startBundle platform h s b sourceOverride) := by
  unfold startBundle
  split
  · split
    · exact vouched.answers _
    · exact vouched.works inside sourceOverride _ (by simp)
  · split
    · exact vouched.answers _
    · exact vouched.works inside sourceOverride _ (by simp)

theorem Vouched.validates (vouched : Vouched platform lib h s) (c : Circumstance) (r : Request) :
    Vouched platform lib h (handleValidate platform h c s r) := by
  unfold handleValidate
  split
  · exact vouched.answers _
  split
  · exact vouched.answers _
  split
  · exact vouched.answers _
  dsimp only
  split
  · exact (vouched.lives _).answers _
  · exact (vouched.lives _).answers _

theorem Vouched.bundles (vouched : Vouched platform lib h s) (r : Request) :
    Vouched platform lib h (handleBundle platform lib h s r) := by
  unfold handleBundle
  split
  · exact vouched.answers _
  split
  · exact vouched.answers _
  split
  · exact vouched.answers _
  split
  · exact vouched.answers _
  split
  · exact vouched.answers _
  · rename_i ok
    exact (vouched.accepts ok).starts (List.mem_append_right _ List.mem_cons_self) ""

theorem Vouched.rollsBack (vouched : Vouched platform lib h s) (r : Request) :
    Vouched platform lib h (handleRollback platform lib h s r) := by
  unfold handleRollback
  dsimp only
  split
  · exact vouched.answers _
  split
  · exact vouched.answers _
  split
  · exact vouched.answers _
  · rename_i version _
    split
    · exact vouched.answers _
    · rename_i b found
      refine vouched.starts ?_ "rollback"
      split at found
      · exact vouched.stored version b found
      · obtain ⟨earlier,there⟩ := AdminHistory.Store.previousGet found
        exact vouched.stored earlier b there

theorem Vouched.shows (vouched : Vouched platform lib h s) (r : Request) :
    Vouched platform lib h (handleSnapshot h s r) := by
  unfold handleSnapshot
  repeat' split
  all_goals exact vouched.answers _

section
variable (keyed : h.publicKey.length = publicKeySize) (signedOnly : h.allowUnsigned = false)
include keyed signedOnly

theorem pushRefused (c : Circumstance) (r : Request) :
    ∃ status text, handleApply platform lib h c s r = refuse s status text := by
  unfold handleApply
  split
  · exact ⟨_,_,rfl⟩
  · rw [if_pos ⟨keyed,signedOnly⟩]
    exact ⟨_,_,rfl⟩

theorem Vouched.serves (vouched : Vouched platform lib h s) (c : Circumstance) (r : Request) :
    Vouched platform lib h (serveHTTP platform lib h c s r) := by
  unfold serveHTTP
  split
  · exact vouched.answers _
  split
  · exact vouched.answers _
  split
  · exact vouched.answers _
  split
  · exact vouched.answers _
  · exact vouched.validates c r
  · have refused : ∃ status text, handleApply platform lib h c s r = refuse s status text := pushRefused keyed signedOnly c r
    obtain ⟨status,text,same⟩ := refused
    rw [same]
    exact vouched.answers _
  · exact vouched.bundles r
  · exact vouched.rollsBack r
  · exact vouched.shows r

end

theorem Vouched.compileStep {m : ApplyManager.Manager} {c : Circumstance} {raw : Bytes} {failed : Message → State → State}
    {done : Result → Stage} (vouched : Vouched platform lib h s) (backed : Backed platform s.accepted j)
    (signed : ∀ cfg ∈ resolvedConfig platform m s.live raw, Signed platform s.accepted cfg)
    (fails : ∀ e t, t.accepted = s.accepted → Vouched platform lib h t → Vouched platform lib h (failed e t))
    (moves : ∀ r lockedBytes, done r ≠ .locking lockedBytes) :
    Vouched platform lib h (compileStep platform m c s i j raw failed done) := by
  unfold AdminApi.compileStep
  have logged := vouched.compiles (resolve platform m c s.live j raw .apply).live signed
  split
  · exact fails _ _ rfl logged
  · exact logged.moves backed fun lockedBytes same => absurd same (moves _ lockedBytes)

theorem Vouched.advances {m : ApplyManager.Manager} {c : Circumstance} {t : State} (trips : RoundTrips platform)
    (vouched : Vouched platform lib h s) (backed : Backed platform s.accepted j)
    (taken : advanceJob platform m c s i j = some t) : Vouched platform lib h t := by
  have ended : ∀ e (t : State), t.accepted = s.accepted → Vouched platform lib h t → Vouched platform lib h (fail t i e) :=
    fun e t _ vouched => vouched.fails e
  unfold advanceJob at taken
  cases stage : j.stage with
  | validating =>
    rw [stage] at taken
    dsimp only at taken
    split at taken
    · cases taken
      exact vouched.fails _
    · cases taken
      exact vouched.fails _
    · rename_i masked
      cases taken
      refine vouched.moves backed fun lockedBytes same => ?_
      cases same
      exact masked
  | locking lockedBytes =>
    rw [stage] at taken
    cases taken
    exact vouched.compileStep backed (backed.signsLocked trips stage m s.live) ended (by simp)
  | filling =>
    rw [stage] at taken
    cases taken
    refine vouched.compileStep backed (backed.signsOwn m s.live) (fun e t same logged => ?_) (by simp)
    exact logged.moves (same ▸ backed) (by simp)
  | direct =>
    rw [stage] at taken
    cases taken
    exact vouched.compileStep backed (backed.signsOwn m s.live) ended (by simp)
  | baking =>
    rw [stage] at taken
    cases taken
  | rollingBack e =>
    rw [stage] at taken
    cases taken
  | succeeded r =>
    rw [stage] at taken
    cases taken

theorem Vouched.bakes {rm : Rollout.Manager} {cancelled : Option Message} {toFloat : Rat → Rat}
    {rolling : Duration → Nat × Nat} (vouched : Vouched platform lib h s) (backed : Backed platform s.accepted j) :
    Vouched platform lib h (bakeJob rm s i j cancelled toFloat rolling) := by
  unfold bakeJob
  split
  · exact vouched.fails _
  split
  · exact vouched.moves backed (by simp)
  · exact vouched.moves backed (by simp)

theorem jobAtMember (found : jobAt s i = some j) : .working j ∈ s.exchanges := by
  unfold jobAt at found
  split at found
  · cases found
    exact Crew.member ‹_›
  · cases found

theorem stepVouched (keyed : h.publicKey.length = publicKeySize) (signedOnly : h.allowUnsigned = false)
    (trips : RoundTrips platform) {a : Action} {t : State} (vouched : Vouched platform lib h s)
    (taken : step platform lib h s a = some t) : Vouched platform lib h t := by
  cases a with
  | request r c =>
    cases taken
    exact vouched.serves keyed signedOnly c r
  | advance i c =>
    obtain ⟨j,found,taken⟩ := Option.bind_eq_some_iff.mp taken
    obtain ⟨m,-,taken⟩ := Option.bind_eq_some_iff.mp taken
    exact vouched.advances trips (vouched.jobs j (jobAtMember found)) taken
  | baked i cancelled toFloat rolling =>
    obtain ⟨j,found,taken⟩ := Option.bind_eq_some_iff.mp taken
    obtain ⟨rm,-,taken⟩ := Option.bind_eq_some_iff.mp taken
    split at taken
    · cases taken
      exact vouched.bakes (vouched.jobs j (jobAtMember found))
    · cases taken
  | putBack i now =>
    obtain ⟨j,found,taken⟩ := Option.bind_eq_some_iff.mp taken
    obtain ⟨rm,-,taken⟩ := Option.bind_eq_some_iff.mp taken
    split at taken
    · cases taken
      exact (vouched.lives _).fails _
    · cases taken
  | record i =>
    obtain ⟨j,found,taken⟩ := Option.bind_eq_some_iff.mp taken
    split at taken
    · cases taken
      exact (vouched.records (vouched.jobs j (jobAtMember found)).member).place fun _ same => nomatch same
    · cases taken
  | world live =>
    cases taken
    exact vouched.lives live

end

theorem onlySignedCompiled {platform : Platform} {lib : Library} {h : Handler} {live : Live} {actions : List Action} {s : State}
    (keyed : h.publicKey.length = publicKeySize) (signedOnly : h.allowUnsigned = false) (trips : RoundTrips platform)
    (run : Runs (step platform lib h) anyStep { live := live } actions s) :
    ∀ cfg ∈ s.compiled, ∃ b ∈ s.accepted, verifyBundle platform lib b h.publicKey = .ok () ∧
      ∃ raw own, b.configBytes platform = .ok raw ∧ platform.parseJSON raw = .ok own ∧
        (cfg = own ∨ SameDocument (maskLockedConfig own) cfg) := by
  have start : Vouched platform lib h { live := live } :=
    ⟨by simp,fun _ _ found => (nomatch found),by simp,by simp⟩
  have vouched := run.preserve (Vouched platform lib h) (fun s a t held _ taken => stepVouched keyed signedOnly trips held taken)
    start
  intro cfg inside
  obtain ⟨b,member,signed⟩ := vouched.compiled cfg inside
  exact ⟨b,member,vouched.verified b member,signed⟩

def signer : Platform := { Rollout.codec (ApplyManager.onePool "p") with decodeBase64 := fun text => .ok (encodeText text) }

def genuine : Bundle := { info := { version := "v1" }, configBytesB64 := "p", signatureB64 := "s" }

def keyring : Library where
  marshalMeta _ := .ok []
  unmarshalBundle body := .ok (if body = [1] then genuine else { genuine with signatureB64 := "forged" })
  rollbackVersion _ := .ok "v1"
  encodeBase64 _ := ""
  verify _ _ sig := sig = encodeText "s"

def locked : Handler := { publicKey := List.replicate 32 0 }

def post (path : String) (body : Bytes) : Action := .request { path := path, method := "POST", body := some body } ApplyManager.calm

def rolledOut (i : Nat) : List Action :=
  [.advance i ApplyManager.calm,.advance i ApplyManager.calm,.baked i none id (fun _ => (0,0)),.advance i ApplyManager.calm,
    .record i]

def session : List Action :=
  [post "/admin/config" [],post "/admin/bundle" [2],post "/admin/bundle" [1]] ++ rolledOut 2 ++
    post "/admin/rollback" [] :: rolledOut 3

theorem sessionSigned : ∃ s, Runs (step signer keyring locked) anyStep {} session s ∧ s.compiled.length = 4 ∧
    s.accepted = [genuine] ∧ ∀ cfg ∈ s.compiled, ∃ b ∈ s.accepted, verifyBundle signer keyring b locked.publicKey = .ok () := by
  obtain ⟨s,ran,four,one⟩ : ∃ s, runAll (step signer keyring locked) anyStep {} session = some s ∧
      s.compiled.length = 4 ∧ s.accepted = [genuine] := ⟨_,rfl,rfl,rfl⟩
  have run := runAllRuns ran
  have trips : RoundTrips signer := Rollout.codecRoundTrips (ApplyManager.onePool "p")
  refine ⟨s,run,four,one,fun cfg inside => ?_⟩
  obtain ⟨b,member,verified,-⟩ := onlySignedCompiled rfl rfl trips run cfg inside
  exact ⟨b,member,verified⟩

end ReverseProxy.AdminApi
