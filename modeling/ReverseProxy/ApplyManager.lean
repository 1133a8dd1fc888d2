import ReverseProxy.ProviderMerge
import ReverseProxy.RegistryEffect
import ReverseProxy.SnapshotStore

/-! Package apply: Manager.Apply and Manager.ApplyResolvedVersion as one call on the
live state. What the call does not control is an argument: map enumerations, clock
readings, the next snapshot ID, and whether the compile goroutine beats the context.
A call that gives up returns while its goroutine goes on, so an outcome lists the
live states that goroutine still produces. -/
namespace ReverseProxy.ApplyManager
open GoValues CallScript ConfigData ConfigValidation ProviderMerge SnapshotBuild SnapshotStore
open RegistryEffect (View view)

inductive Mode where
  | apply
  | validate
  deriving DecidableEq, Repr

inductive ProviderRef where
  | admin
  | other (p : Provider)

structure Manager where
  maxConfigBytes : Int := 0
  checksPressure : Bool := true
  hasAdmin : Bool := true
  providers : List ProviderRef := []

structure Live where
  store : Store := {}
  registries : Registries := {}
  admin : Option Config := none

/- Where the goroutine stands when its call gives up: the admin provider is not
yet read, or it is and some registry calls are made. -/
inductive Progress where
  | loading
  | calls (made : Nat)
  deriving DecidableEq, Repr

inductive Timing where
  | inTime
  | late (cause : Message) (progress : Progress)
  deriving DecidableEq, Repr

structure Circumstance where
  mergeRanges : Nat → (m : PoolMap) → m.Range
  validateRange : (m : PoolMap) → m.Range
  buildRange : (m : PoolMap) → m.Range
  clock : Nat → Int
  swapTime : Int
  snapshotID : Nat
  timing : Timing

structure Result where
  snapshot : Snapshot
  version : Bytes
  config : Config
  warnings : List Message

/- `temporary` are the registries of a validation before they are closed. -/
structure Outcome where
  result : Except Message Result
  live : Live
  later : List Live := []
  temporary : Registries := {}

def errConfigTooLarge : Message := newError "config too large"
def errCompileTimeout : Message := newError "compile timeout"
def errPressure : Message := newError "config_pressure"

def defaultMaxConfigBytes : Int := 10 * 1024 * 1024

def configVersion (platform : Platform) (raw : Bytes) : Bytes := hexEncode (platform.sha256 raw)

structure CompileResult where
  compiled : Compiled
  config : Config
  warnings : List Message

def compileResolved (platform : Platform) (c : Circumstance) (cfg : Config) : Build CompileResult := do
  let warnings ← Script.check (validate platform cfg (c.validateRange cfg.pools))
  let compiled ← buildSnapshot platform cfg (c.buildRange cfg.pools)
  pure ⟨compiled,cfg,warnings⟩

def compile (platform : Platform) (c : Circumstance) (providers : List Provider) : Build CompileResult := do
  let cfg ← Script.check (merge c.mergeRanges providers)
  compileResolved platform c cfg

def adminProvider (held : Option Config) : Provider := ⟨"admin",adminPriority,.ok held⟩

def ProviderRef.resolve (held : Option Config) : ProviderRef → Provider
  | .admin => adminProvider held
  | .other p => p

def ProviderRef.isAdmin : ProviderRef → Bool
  | .admin => true
  | .other _ => false

/- With an admin provider its content decides; without one the pushed config is
a static provider of the same name. -/
def buildProviders (m : Manager) (held : Option Config) (cfg : Config) : List Provider :=
  let listed := m.providers.map (ProviderRef.resolve held)
  if m.hasAdmin then
    if m.providers.any ProviderRef.isAdmin then listed else listed ++ [adminProvider held]
  else listed ++ [adminProvider (some cfg)]

def stamp (clock : Nat → Int) (calls : List Call) : List (Int × Call) :=
  calls.zipIdx.map (fun (call,i) => (clock i,call))

@[simp] theorem stampCalls (clock : Nat → Int) (calls : List Call) : (stamp clock calls).map (·.2) = calls := by
  rw [stamp, List.map_map]
  exact List.zipIdx_map_fst ..

def progressed (platform : Platform) (c : Circumstance) (s : Registries) (script : Build CompileResult)
    (made : Nat) : Registries :=
  (run (perform platform.runes) s ((stamp c.clock script.calls).take made)).2

def execute (platform : Platform) (c : Circumstance) (s : Registries) (script : Build CompileResult) :
    Except Message CompileResult × Registries :=
  match run (perform platform.runes) s (stamp c.clock script.calls) with
  | (.error e,t) => (.error e,t)
  | (.ok replies,t) => (script.result.map (fun r => { r with compiled := linkPlans replies r.compiled }),t)

theorem compileResolvedOk {platform : Platform} {c : Circumstance} {cfg : Config} {r : CompileResult} :
    (compileResolved platform c cfg).result = .ok r ↔
      validate platform cfg (c.validateRange cfg.pools) = .ok r.warnings ∧
      Builds platform cfg (c.buildRange cfg.pools).order r.compiled ∧ r.config = cfg := by
  unfold compileResolved
  rw [← buildSnapshotOk]
  cases validated : validate platform cfg (c.validateRange cfg.pools) with
  | error e =>
    rw [Script.bindError (Script.checkResult _)]
    exact ⟨fun ok => (nomatch ok),fun h => (nomatch h.1)⟩
  | ok warnings =>
    rw [Script.bindOk (Script.checkResult _)]
    cases built : (buildSnapshot platform cfg (c.buildRange cfg.pools)).result with
    | error e =>
      rw [Script.bindError built]
      exact ⟨fun ok => (nomatch ok),fun h => (nomatch h.2.1)⟩
    | ok compiled =>
      rw [Script.bindOk built]
      constructor
      · intro ok
        cases ok
        exact ⟨rfl,rfl,rfl⟩
      · obtain ⟨made,config,warned⟩ := r
        rintro ⟨same,also,rfl⟩
        cases same
        cases also
        rfl

theorem compileInvalid {platform : Platform} {c : Circumstance} {cfg : Config} {e : Message}
    (bad : validate platform cfg (c.validateRange cfg.pools) = .error e) : (compileResolved platform c cfg).calls = [] := by
  unfold compileResolved
  rw [bad,Script.bindError (Script.checkResult _)]
  rfl

theorem compileValidated {platform : Platform} {c : Circumstance} {cfg : Config} {warnings : List Message}
    (ok : validate platform cfg (c.validateRange cfg.pools) = .ok warnings) :
    (compileResolved platform c cfg).calls = (buildSnapshot platform cfg (c.buildRange cfg.pools)).calls := by
  unfold compileResolved
  rw [ok,Script.bindOk (Script.checkResult _)]
  cases built : (buildSnapshot platform cfg (c.buildRange cfg.pools)).result with
  | error e => simp [Script.bindError built]
  | ok compiled => simp [Script.bindOk built]

theorem compileResolvedBuild (platform : Platform) (c : Circumstance) (cfg : Config) :
    (compileResolved platform c cfg).calls = [] ∨
    (compileResolved platform c cfg).calls = (buildSnapshot platform cfg (c.buildRange cfg.pools)).calls := by
  cases validated : validate platform cfg (c.validateRange cfg.pools) with
  | error e => exact .inl (compileInvalid validated)
  | ok warnings => exact .inr (compileValidated validated)

theorem compileMerged {platform : Platform} {c : Circumstance} {providers : List Provider} {out : Config}
    (merged : merge c.mergeRanges providers = .ok out) :
    compile platform c providers = compileResolved platform c out := by
  unfold compile
  rw [merged,Script.bindOk (Script.checkResult _)]
  rfl

theorem compileCases (platform : Platform) (c : Circumstance) (providers : List Provider) :
    (∃ e, compile platform c providers = ⟨[],.error e⟩) ∨
    ∃ cfg, merge c.mergeRanges providers = .ok cfg ∧ compile platform c providers = compileResolved platform c cfg := by
  cases merged : merge c.mergeRanges providers with
  | error e =>
    left
    unfold compile
    rw [merged,Script.bindError (Script.checkResult _)]
    exact ⟨e,rfl⟩
  | ok cfg => exact .inr ⟨cfg,rfl,compileMerged merged⟩

theorem compileResolvedCalls {platform : Platform} {c : Circumstance} {cfg : Config} {r : CompileResult}
    (ok : (compileResolved platform c cfg).result = .ok r) :
    (compileResolved platform c cfg).calls = (c.buildRange cfg.pools).order.map poolCall ++
      .prune ((c.buildRange cfg.pools).order.map (·.1)) ::
        (buildRoutes platform.runes cfg.pools [] [] (items cfg.routes)).calls := by
  obtain ⟨validated,builds,_⟩ := compileResolvedOk.mp ok
  rw [compileValidated validated,buildSnapshotCalls builds]

theorem executeOk {platform : Platform} {c : Circumstance} {s : Registries} {script : Build CompileResult}
    {r : CompileResult} :
    (execute platform c s script).1 = .ok r ↔ ∃ made replies, script.result = .ok made ∧
      (run (perform platform.runes) s (stamp c.clock script.calls)).1 = .ok replies ∧
      r = { made with compiled := linkPlans replies made.compiled } := by
  unfold execute
  cases ran : run (perform platform.runes) s (stamp c.clock script.calls) with
  | mk answer t =>
    cases answer with
    | error e => exact ⟨fun ok => (nomatch ok),fun ⟨_,_,_,ok,_⟩ => (nomatch ok)⟩
    | ok replies =>
      cases result : script.result with
      | error e => exact ⟨fun ok => (nomatch ok),fun ⟨_,_,ok,_,_⟩ => (nomatch ok)⟩
      | ok made =>
        constructor
        · intro ok
          cases ok
          exact ⟨made,replies,rfl,rfl,rfl⟩
        · rintro ⟨_,_,first,second,rfl⟩
          cases first
          cases second
          rfl

theorem executeRun (platform : Platform) (c : Circumstance) (s : Registries) (script : Build CompileResult) :
    (execute platform c s script).2 = (run (perform platform.runes) s (stamp c.clock script.calls)).2 := by
  unfold execute
  cases run (perform platform.runes) s (stamp c.clock script.calls) with
  | mk answer t => cases answer <;> rfl

def checkRequest (platform : Platform) (m : Manager) (live : Live) (raw : Bytes) : Except Message Config :=
  let maxBytes := if m.maxConfigBytes ≤ 0 then defaultMaxConfigBytes else m.maxConfigBytes
  if maxBytes < raw.length then .error errConfigTooLarge
  else if m.checksPressure && live.store.underPressure then .error errPressure
  else platform.parseJSON raw

def abandoned (platform : Platform) (c : Circumstance) (live : Live) (cause : Message)
    (script : Build CompileResult) (made : Nat) : Outcome :=
  let at_ := fun n => { live with registries := progressed platform c live.registries script n }
  { result := .error cause
    live := at_ made
    later := (List.range' (made + 1) (script.calls.length - made)).map at_ }

def publish (c : Circumstance) (live : Live) (mode : Mode) (source : String) (version : Bytes)
    (r : CompileResult) : Result × Live :=
  let snapshot : Snapshot := ⟨c.snapshotID,version,source,r.compiled⟩
  (⟨snapshot,version,r.config,r.warnings⟩,
    if mode = .apply then { live with store := live.store.swap (some snapshot) c.swapTime } else live)

def applyResolvedVersion (platform : Platform) (m : Manager) (c : Circumstance) (live : Live) (raw : Bytes)
    (source : String) (version : Bytes) (mode : Mode) : Outcome :=
  match checkRequest platform m live raw with
  | .error e => { result := .error e, live := live }
  | .ok cfg =>
    let version := if version = [] then configVersion platform raw else version
    let script := compileResolved platform c cfg
    match mode,c.timing with
    | .validate,.late cause _ => { result := .error cause, live := live }
    | .validate,.inTime =>
      match execute platform c {} script with
      | (.error e,t) => { result := .error e, live := live, temporary := t }
      | (.ok r,t) => { result := .ok (publish c live mode source version r).1, live := live, temporary := t }
    | .apply,.late cause .loading => abandoned platform c live cause script 0
    | .apply,.late cause (.calls made) => abandoned platform c live cause script made
    | .apply,.inTime =>
      match execute platform c live.registries script with
      | (.error e,t) => { result := .error e, live := { live with registries := t } }
      | (.ok r,t) =>
        let done := publish c { live with registries := t } mode source version r
        { result := .ok done.1, live := done.2 }

/- On an error, and always when validating, the admin provider gets its previous
config back; a goroutine that reads it after that merges the previous config. -/
def apply (platform : Platform) (m : Manager) (c : Circumstance) (live : Live) (raw : Bytes)
    (source : String) (mode : Mode) : Outcome :=
  match checkRequest platform m live raw with
  | .error e => { result := .error e, live := live }
  | .ok cfg =>
    match validateMetrics platform cfg.metrics with
    | .error e => { result := .error e, live := live }
    | .ok _ =>
      let version := configVersion platform raw
      let pushed := if m.hasAdmin then some cfg else live.admin
      let script := compile platform c (buildProviders m pushed cfg)
      match mode,c.timing with
      | .validate,.late cause _ => { result := .error cause, live := live }
      | .validate,.inTime =>
        match execute platform c {} script with
        | (.error e,t) => { result := .error e, live := live, temporary := t }
        | (.ok r,t) => { result := .ok (publish c live mode source version r).1, live := live, temporary := t }
      | .apply,.late cause .loading =>
        abandoned platform c live cause (compile platform c (buildProviders m live.admin cfg)) 0
      | .apply,.late cause (.calls made) => abandoned platform c live cause script made
      | .apply,.inTime =>
        match execute platform c live.registries script with
        | (.error e,t) => { result := .error e, live := { live with registries := t } }
        | (.ok r,t) =>
          let done := publish c { live with registries := t, admin := pushed } mode source version r
          { result := .ok done.1, live := done.2 }

section
variable {platform : Platform} {m : Manager} {c : Circumstance} {live : Live} {raw : Bytes} {source : String}
  {version : Bytes} {cfg : Config}

theorem checkedParsed (checked : checkRequest platform m live raw = .ok cfg) : platform.parseJSON raw = .ok cfg := by
  unfold checkRequest at checked
  generalize (if m.maxConfigBytes ≤ 0 then defaultMaxConfigBytes else m.maxConfigBytes) = maxBytes at checked
  dsimp only at checked
  split at checked
  · cases checked
  · split at checked
    · cases checked
    · exact checked

def published (c : Circumstance) (source : String) (version : Bytes) (r : CompileResult) : Result :=
  ⟨⟨c.snapshotID,version,source,r.compiled⟩,version,r.config,r.warnings⟩

def CompiledFrom (platform : Platform) (cfg : Config) (compiled : Compiled) : Prop :=
  ∃ (range : cfg.pools.Range) (made : Compiled) (replies : List Reply),
    Builds platform cfg range.order made ∧ compiled = linkPlans replies made

theorem executedFrom {s : Registries} {r : CompileResult}
    (done : (execute platform c s (compileResolved platform c cfg)).1 = .ok r) : CompiledFrom platform cfg r.compiled := by
  obtain ⟨made,replies,built,-,rfl⟩ := executeOk.mp done
  exact ⟨_,_,replies,(compileResolvedOk.mp built).2.1,rfl⟩

structure Installed (platform : Platform) (m : Manager) (c : Circumstance) (live : Live) (raw : Bytes) (source : String)
    (version : Bytes) (r : Result) (cfg : Config) : Prop where
  checked : checkRequest platform m live raw = .ok cfg
  timely : c.timing = .inTime
  compiled : ∃ made, (execute platform c live.registries (compileResolved platform c cfg)).1 = .ok made ∧
    r = published c source (if version = [] then configVersion platform raw else version) made
  stored : (applyResolvedVersion platform m c live raw source version .apply).live.store =
    live.store.swap (some r.snapshot) c.swapTime

theorem resolvedOk {r : Result} (ok : (applyResolvedVersion platform m c live raw source version .apply).result = .ok r) :
    ∃ cfg, Installed platform m c live raw source version r cfg := by
  cases checked : checkRequest platform m live raw with
  | error e => simp [applyResolvedVersion,checked] at ok
  | ok cfg =>
    cases timely : c.timing with
    | late cause progress =>
      cases progress <;> simp [applyResolvedVersion,checked,timely,abandoned] at ok
    | inTime =>
      cases ran : execute platform c live.registries (compileResolved platform c cfg) with
      | mk answer t =>
        cases answer with
        | error e => simp [applyResolvedVersion,checked,timely,ran] at ok
        | ok made =>
          have same : r = published c source (if version = [] then configVersion platform raw else version) made := by
            simpa [applyResolvedVersion,checked,timely,ran,publish,published] using ok.symm
          refine ⟨cfg,checked,timely,⟨made,by rw [ran],same⟩,?_⟩
          rw [same]
          simp [applyResolvedVersion,checked,timely,ran,publish,published]

theorem Installed.from_ {r : Result} (done : Installed platform m c live raw source version r cfg) :
    CompiledFrom platform cfg r.snapshot.compiled := by
  obtain ⟨made,ran,rfl⟩ := done.compiled
  exact executedFrom ran

theorem Installed.current {r : Result} (done : Installed platform m c live raw source version r cfg) :
    (applyResolvedVersion platform m c live raw source version .apply).live.store.current = some r.snapshot := by
  rw [done.stored,Store.swapCurrent]

theorem Installed.id {r : Result} (done : Installed platform m c live raw source version r cfg) :
    r.snapshot.id = c.snapshotID := by
  obtain ⟨made,-,rfl⟩ := done.compiled
  rfl

theorem resolvedError {e : Message}
    (bad : (applyResolvedVersion platform m c live raw source version .apply).result = .error e) :
    (applyResolvedVersion platform m c live raw source version .apply).live.store = live.store := by
  cases checked : checkRequest platform m live raw with
  | error e => simp [applyResolvedVersion,checked]
  | ok cfg =>
    cases timely : c.timing with
    | late cause progress => cases progress <;> simp [applyResolvedVersion,checked,timely,abandoned]
    | inTime =>
      cases ran : execute platform c live.registries (compileResolved platform c cfg) with
      | mk answer t =>
        cases answer with
        | error e => simp [applyResolvedVersion,checked,timely,ran]
        | ok made => simp [applyResolvedVersion,checked,timely,ran] at bad

end

/- Surroundings for concrete runs: nothing is late, maps are visited in the order
they were filled, and a decoder that answers with one configuration. -/
def calm : Circumstance :=
  { mergeRanges := fun _ m => m.inOrder
    validateRange := PoolMap.inOrder
    buildRange := PoolMap.inOrder
    clock := fun _ => 0
    swapTime := 0
    snapshotID := 1
    timing := .inTime }

/- {"pools":{"p":{"endpoints":["10.0.0.1:80"]}}} -/
def document : Bytes :=
  [123,34,112,111,111,108,115,34,58,123,34,112,34,58,123,34,101,110,100,112,111,105,
    110,116,115,34,58,91,34,49,48,46,48,46,48,46,49,58,56,48,34,93,125,125,125]

def decoding (cfg : Config) : Platform :=
  { runes := RuneTables.ascii
    sha256 := fun _ => []
    parseJSON := fun raw => if raw = [] then .error (newError "unexpected end of JSON input") else .ok cfg
    marshalJSON := fun _ => .ok document
    decodeBase64 := fun _ => .ok document
    getenv := fun _ => ""
    loadX509KeyPair := fun _ _ => .error (newError "no such file")
    readFile := fun _ => .error (newError "no such file")
    appendCertsFromPEM := fun _ => none
    cipherSuites := [] }

def onePool (name : String) : Config :=
  { pools := .single name { endpoints := some ["10.0.0.1:80"] } }

end ReverseProxy.ApplyManager
