import ReverseProxy.ApplyManager

/-! When a rejected configuration leaves the live state alone. A call makes its
registry calls before it knows that it will be rejected, and a goroutine that
missed its deadline goes on making them; nothing undoes either. The live state is
therefore kept exactly when those calls are idle from the return of the call on. -/
namespace ReverseProxy.ApplyRejection
open GoValues CallScript ConfigData ConfigValidation ProviderMerge SnapshotBuild SnapshotStore
open ApplyManager RegistryEffect

structure LiveView where
  current : Option Snapshot
  registries : View
  admin : Option Config

def liveView (l : Live) : LiveView := ⟨l.store.current,view l.registries,l.admin⟩

def Unchanged (before : Live) (o : Outcome) : Prop :=
  liveView o.live = liveView before ∧ ∀ l ∈ o.later, liveView l = liveView before

inductive Entry where
  | apply
  | resolved (version : Bytes)
  deriving DecidableEq, Repr

def push (platform : Platform) (m : Manager) (c : Circumstance) (live : Live) (raw : Bytes) (source : String) :
    Entry → Outcome
  | .apply => ApplyManager.apply platform m c live raw source .apply
  | .resolved version => applyResolvedVersion platform m c live raw source version .apply

def loadedAdmin (m : Manager) (c : Circumstance) (live : Live) (cfg : Config) : Option Config :=
  match c.timing with
  | .late _ .loading => live.admin
  | _ => if m.hasAdmin then some cfg else live.admin

def submitted (platform : Platform) (m : Manager) (c : Circumstance) (live : Live) (raw : Bytes)
    (entry : Entry) : List Call :=
  match checkRequest platform m live raw with
  | .error _ => []
  | .ok cfg =>
    match entry with
    | .resolved _ => (compileResolved platform c cfg).calls
    | .apply =>
      match validateMetrics platform cfg.metrics with
      | .error _ => []
      | .ok _ => (compile platform c (buildProviders m (loadedAdmin m c live cfg) cfg)).calls

def madeAtReturn (c : Circumstance) (calls : List Call) : Nat :=
  match c.timing with
  | .inTime => calls.length
  | .late _ .loading => 0
  | .late _ (.calls made) => made

theorem idleNil (runes : RuneTables) (v : View) : Idle runes v (reachedFrom runes v []) where
  pools := ⟨by simp [reachedFrom,through,reconciled],by simp [reachedFrom,through]⟩
  plans := by simp [reachedFrom,through,planned]
  watched := by intro key v last; simp [reachedFrom,through,FiniteMap.Map.lastWrite] at last

theorem compileResolvedTidy (platform : Platform) (c : Circumstance) (cfg : Config) :
    Tidy (compileResolved platform c cfg).calls := by
  have tidy := buildTidy platform cfg (c.buildRange cfg.pools)
  rcases compileResolvedBuild platform c cfg with none | build
  · rw [none]
    exact tidy.sublist (List.nil_sublist _)
  · rw [build]
    exact tidy

theorem compileTidy (platform : Platform) (c : Circumstance) (providers : List Provider) :
    Tidy (compile platform c providers).calls := by
  rcases compileCases platform c providers with ⟨e,failed⟩ | ⟨cfg,-,same⟩
  · rw [failed]
    exact (compileResolvedTidy platform c {}).sublist (List.nil_sublist _)
  · rw [same]
    exact compileResolvedTidy platform c cfg

section
variable {platform : Platform} {m : Manager} {c : Circumstance} {live : Live} {script : Build CompileResult}

theorem progressedUnchanged (tidy : Tidy script.calls) (made : Nat) :
    view (progressed platform c live.registries script made) = view live.registries ↔
      Idle platform.runes (view live.registries)
        (reachedFrom platform.runes (view live.registries) (script.calls.take made)) := by
  have calls : ((stamp c.clock script.calls).take made).map (·.2) = script.calls.take made := by
    rw [List.map_take, stampCalls]
  rw [progressed, ← calls]
  exact unchangedIff (by rw [calls]; exact tidy.sublist (List.take_sublist ..))

theorem executeState : (execute platform c live.registries script).2 =
    progressed platform c live.registries script script.calls.length := by
  have whole : (stamp c.clock script.calls).take script.calls.length = stamp c.clock script.calls := by
    apply List.take_of_length_le
    simp [stamp]
  rw [progressed, whole, executeRun]

theorem registriesUnchanged {t : Registries} :
    liveView { live with registries := t } = liveView live ↔ view t = view live.registries := by
  simp [liveView]

theorem abandonedUnchanged {cause : Message} {made : Nat} :
    Unchanged live (abandoned platform c live cause script made) ↔
      ∀ n, made ≤ n → view (progressed platform c live.registries script n) = view live.registries := by
  -- past its end a script makes no further calls
  have finished : ∀ n, script.calls.length ≤ n → progressed platform c live.registries script n =
      progressed platform c live.registries script script.calls.length := by
    intro n long
    have length : (stamp c.clock script.calls).length = script.calls.length := by simp [stamp]
    rw [progressed, progressed, List.take_of_length_le (by omega), List.take_of_length_le (by omega)]
  unfold Unchanged abandoned
  simp only [List.mem_map, List.mem_range'_1, registriesUnchanged]
  constructor
  · rintro ⟨atReturn,after⟩ n from_
    have step : ∀ k, made ≤ k → k ≤ script.calls.length →
        view (progressed platform c live.registries script k) = view live.registries := by
      intro k low high
      rcases Nat.eq_or_lt_of_le low with same | further
      · rw [← same]
        exact atReturn
      · exact registriesUnchanged.mp (after _ ⟨k,⟨by omega,by omega⟩,rfl⟩)
    by_cases short : n ≤ script.calls.length
    · exact step n from_ short
    · rw [finished n (by omega)]
      by_cases room : made ≤ script.calls.length
      · exact step _ room (Nat.le_refl _)
      · rw [← finished made (by omega)]
        exact atReturn
  · intro all
    refine ⟨all made (Nat.le_refl _),?_⟩
    rintro l ⟨n,range,rfl⟩
    exact registriesUnchanged.mpr (all n (by omega))

theorem finishedUnchanged {result : Except Message Result} {t : Registries} (tidy : Tidy script.calls)
    (state : (execute platform c live.registries script).2 = t) :
    Unchanged live { result := result, live := { live with registries := t } } ↔
      ∀ n, script.calls.length ≤ n → Idle platform.runes (view live.registries)
        (reachedFrom platform.runes (view live.registries) (script.calls.take n)) := by
  have atEnd := @progressedUnchanged platform c live script tidy script.calls.length
  rw [← executeState, state] at atEnd
  unfold Unchanged
  simp only [List.not_mem_nil, false_implies, implies_true, and_true, registriesUnchanged]
  rw [atEnd]
  constructor
  · intro idle n long
    rwa [List.take_of_length_le long, ← List.take_length (l := script.calls)]
  · intro all
    exact all _ (Nat.le_refl _)

theorem turnedAway {result : Except Message Result} {made : Nat} :
    Unchanged live { result := result, live := live } ↔
      ∀ n, made ≤ n → Idle platform.runes (view live.registries)
        (reachedFrom platform.runes (view live.registries) (([] : List Call).take n)) := by
  refine ⟨fun _ n _ => ?_,fun _ => ⟨rfl,by simp⟩⟩
  rw [List.take_nil]
  exact idleNil _ _

theorem rejectedPushUnchanged {raw : Bytes} {source : String} {entry : Entry} {e : Message}
    (rejected : (push platform m c live raw source entry).result = .error e) :
    Unchanged live (push platform m c live raw source entry) ↔
      ∀ n, madeAtReturn c (submitted platform m c live raw entry) ≤ n →
        Idle platform.runes (view live.registries)
          (reachedFrom platform.runes (view live.registries)
            ((submitted platform m c live raw entry).take n)) := by
  have late : ∀ (script : Build CompileResult) (cause : Message) (made : Nat), Tidy script.calls →
      (Unchanged live (abandoned platform c live cause script made) ↔
        ∀ n, made ≤ n → Idle platform.runes (view live.registries)
          (reachedFrom platform.runes (view live.registries) (script.calls.take n))) := by
    intro script cause made tidy
    rw [abandonedUnchanged]
    exact forall_congr' (fun n => imp_congr_right (fun _ => progressedUnchanged tidy n))
  cases entry with
  | resolved version =>
    simp only [push, applyResolvedVersion] at rejected ⊢
    unfold submitted
    cases checked : checkRequest platform m live raw with
    | error e => exact turnedAway
    | ok cfg =>
      have tidy := compileResolvedTidy platform c cfg
      simp only [checked] at rejected ⊢
      unfold madeAtReturn
      cases timing : c.timing with
      | late cause progress =>
        cases progress with
        | loading => exact late _ cause 0 tidy
        | calls made => exact late _ cause made tidy
      | inTime =>
        simp only [timing] at rejected ⊢
        cases ran : execute platform c live.registries (compileResolved platform c cfg) with
        | mk answer t =>
          cases answer with
          | ok r => simp [ran] at rejected
          | error e => exact finishedUnchanged tidy (by rw [ran])
  | apply =>
    simp only [push, ApplyManager.apply] at rejected ⊢
    unfold submitted
    cases checked : checkRequest platform m live raw with
    | error e => exact turnedAway
    | ok cfg =>
      simp only [checked] at rejected ⊢
      cases token : validateMetrics platform cfg.metrics with
      | error e => exact turnedAway
      | ok _ =>
        simp only [token] at rejected ⊢
        unfold madeAtReturn loadedAdmin
        cases timing : c.timing with
        | late cause progress =>
          cases progress with
          | loading => exact late _ cause 0 (compileTidy ..)
          | calls made => exact late _ cause made (compileTidy ..)
        | inTime =>
          simp only [timing] at rejected ⊢
          cases ran : execute platform c live.registries
              (compile platform c (buildProviders m (if m.hasAdmin then some cfg else live.admin) cfg)) with
          | mk answer t =>
            cases answer with
            | ok r => simp [ran] at rejected
            | error e => exact finishedUnchanged (compileTidy ..) (by rw [ran])

end

def strayRoute (pool : String) : Config :=
  { routes := some [{ id := "r", host := "h", pathPrefix := "/", pool := "missing" }]
    pools := .single pool { endpoints := some ["10.0.0.1:80"] } }

def standingPools : PoolRegistry.Registry :=
  ({} : PoolRegistry.Registry).reconcile "old" ["10.0.0.1:80"] (PolicyBuild.healthFromConfig {}) 0

def standing : Live := { registries := { registry := standingPools } }

theorem rejectedRouteDropsPool :
    (push (decoding (strayRoute "new")) {} calm standing document "api" (.resolved [])).result =
      .error (errorf "route %q references missing pool %q" ["r","missing"]) ∧
    ¬Unchanged standing (push (decoding (strayRoute "new")) {} calm standing document "api" (.resolved [])) := by
  refine ⟨rfl,?_⟩
  rintro ⟨same,-⟩
  have pool : false = true := congrArg (fun v => (v.registries.pools.get "old").isSome) same
  cases pool

theorem knownPoolsSurviveRejection :
    (push (decoding (strayRoute "old")) {} calm standing document "api" (.resolved [])).result =
      .error (errorf "route %q references missing pool %q" ["r","missing"]) ∧
    Unchanged standing (push (decoding (strayRoute "old")) {} calm standing document "api" (.resolved [])) := by
  have shape : standingPools.shape = _ := PoolRegistry.Registry.reconciled {} "old" ["10.0.0.1:80"] _ 0
  refine ⟨rfl,(rejectedPushUnchanged rfl).mpr ?_⟩
  intro n all
  rw [List.take_of_length_le all]
  refine ⟨⟨?_,?_⟩,?_,?_⟩
  · intro p member
    cases List.mem_singleton.mp member
    exact ⟨_,(congrArg (fun m => m.get "old") shape).trans (FiniteMap.Map.getInsertSame ..),
      PoolRegistry.reconcileSettles _ _⟩
  · intro desired member key present
    have only : key = "old" := by
      apply Decidable.byContradiction
      intro other
      change (standingPools.shape.get key).isSome = true at present
      rw [shape, FiniteMap.Map.getInsertOther _ _ other] at present
      cases present
    have pruned : desired = ["old"] := by
      rcases List.mem_cons.mp member with first | later
      · cases first
      · cases List.mem_singleton.mp later
        rfl
    simp [only,pruned]
  · intro p member
    cases member
  · intro key v last
    cases last

end ReverseProxy.ApplyRejection
