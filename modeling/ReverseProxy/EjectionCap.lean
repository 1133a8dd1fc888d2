import ReverseProxy.OutlierDetection
import ReverseProxy.Transition

/-! How many endpoints of a pool are ejected at one time, against the percentage its
configuration names. Results and latency verdicts are steps of their own: an evaluation
is one verdict after another, and results of other requests may come between them. -/
namespace ReverseProxy.EjectionCap
open FiniteMap OutlierRegistry OutlierDetection
open PolicyBuild (Outlier)
open Transition (Runs anyStep runAllRuns)

structure State where
  config : Outlier
  endpoints : Map String EndpointState
  clock : Int

def ofEntry (p : PoolEntry) (clock : Int) : State := ⟨p.config,p.endpoints,clock⟩

inductive Action where
  | result (addr : String) (success : Bool) (latency now : Int)
  | verdict (addr : String) (bad : Bool) (now : Int)

def Action.addr : Action → String
  | .result addr _ _ _ => addr
  | .verdict addr _ _ => addr

def Action.now : Action → Int
  | .result _ _ _ now => now
  | .verdict _ _ now => now

def answer (cfg : Outlier) (a : Action) (e : EndpointState) : Option String × EndpointState :=
  match a with
  | .result _ success latency now => told cfg success latency now e
  | .verdict _ bad now => observeLatency e cfg bad now

def after (s : State) (a : Action) : State where
  config := s.config
  endpoints := s.endpoints.adjust a.addr (fun e => (answer s.config a e).2)
  clock := a.now

def step (s : State) (a : Action) : Option State := some (after s a)

def isEjected (s : State) (now : Int) (addr : String) : Bool :=
  s.config.enabled && (s.endpoints.get addr).any (fun e => e.isEjected now)

def ejected (addrs : List String) (s : State) (now : Int) : Nat := addrs.countP (isEjected s now)

def Capped (addrs : List String) (s : State) : Prop :=
  ∀ now, s.clock ≤ now → 100 * (ejected addrs s now : Int) ≤ s.config.maxEjectPercent * addrs.length

def due (cfg : Outlier) (a : Action) (e : EndpointState) : Bool :=
  match a with
  | .result _ success latency now =>
    let counts := counted (if success then recordLatency e latency else e) cfg success now
    streakDue cfg success counts || rateDue cfg counts
  | .verdict _ bad _ => cfg.latencyEnabled && latencyDue cfg bad e

/- Whether a detector comes due for the endpoint, by the results reported for it and the
latency verdicts on it; what happens to others does not matter. -/
def comesDue (cfg : Outlier) (addr : String) : EndpointState → List Action → Bool
  | _,[] => false
  | e,a :: rest =>
    if a.addr = addr then due cfg a e || comesDue cfg addr (answer cfg a e).2 rest else comesDue cfg addr e rest

def troubled (s : State) (actions : List Action) (addr : String) : Bool :=
  (s.endpoints.get addr).any (fun e => comesDue s.config addr e actions)

def opened (cfg : Outlier) (addrs : List String) (now : Int) : State := ⟨cfg,reconciled cfg addrs Map.empty,now⟩

section
variable {s : State} {a : Action}

theorem countedUntil (e : EndpointState) (cfg : Outlier) (success : Bool) (now : Int) :
    (counted e cfg success now).ejectUntil = e.ejectUntil := by
  unfold counted rotateWindow
  generalize (if cfg.errorRateWindow ≤ 0 then GoValues.second else cfg.errorRateWindow) = window
  dsimp only
  split <;> rfl

theorem answerQuiet {cfg : Outlier} {e : EndpointState} (enabled : cfg.enabled = true) (low : due cfg a e = false) :
    (answer cfg a e).2.ejectUntil = e.ejectUntil := by
  cases a with
  | result addr success latency now =>
    have recorded := recordRecorded (if success then recordLatency e latency else e) enabled success now
    obtain ⟨short,few⟩ := Bool.or_eq_false_iff.mp low
    unfold answer told
    dsimp only
    generalize recordResult (if success then recordLatency e latency else e) cfg success now = result at recorded
    cases recorded with
    | streak due => simp [short] at due
    | rate _ due => simp [few] at due
    | quiet _ _ =>
      rw [countedUntil]
      cases success <;> rfl
  | verdict addr bad now =>
    have observed := observeObserved e cfg bad now
    unfold answer
    dsimp only
    generalize observeLatency e cfg bad now = result at observed
    cases observed with
    | ejected on hit => simp [due,on,hit] at low
    | quiet intervals => rfl

theorem untroubledUntil {actions : List Action} {t : State} (enabled : s.config.enabled = true)
    (run : Runs step anyStep s actions t) (addr : String) (calm : troubled s actions addr = false) :
    (t.endpoints.get addr).map (·.ejectUntil) = (s.endpoints.get addr).map (·.ejectUntil) := by
  induction run with
  | nil => rfl
  | @cons s u t a rest allowed taken tail ih =>
    cases Option.some.inj taken
    have here : (after s a).endpoints.get addr =
        if addr = a.addr then (s.endpoints.get addr).map (fun e => (answer s.config a e).2) else s.endpoints.get addr := rfl
    unfold troubled at calm
    cases found : s.endpoints.get addr with
    | none =>
      have missing : (after s a).endpoints.get addr = none := by
        rw [here, found]
        split <;> rfl
      rw [ih enabled (by unfold troubled; rw [missing]; rfl), missing]
    | some e =>
      rw [found, Option.any_some, comesDue] at calm
      by_cases own : a.addr = addr
      · rw [if_pos own] at calm
        obtain ⟨quiet,later⟩ := Bool.or_eq_false_iff.mp calm
        have moved : (after s a).endpoints.get addr = some (answer s.config a e).2 := by
          rw [here, if_pos own.symm, found]
          rfl
        rw [ih enabled (by unfold troubled; rw [moved]; exact later), moved]
        exact congrArg some (answerQuiet enabled quiet)
      · rw [if_neg own] at calm
        have stays : (after s a).endpoints.get addr = some e := by
          rw [here, if_neg (Ne.symm own), found]
        rw [ih enabled (by unfold troubled; rw [stays]; exact calm), stays]

end

structure Blank (e : EndpointState) : Prop where
  ejectUntil : e.ejectUntil = 0
  windowFail : e.windowFail = 0

section
variable (cfg : Outlier)

theorem admittedBlank (addrs : List String) (m : Map String EndpointState) (blank : ∀ addr e, m.get addr = some e → Blank e)
    {addr : String} {e : EndpointState} (found : (addrs.foldl (admitState cfg) m).get addr = some e) : Blank e := by
  induction addrs generalizing m with
  | nil => exact blank addr e found
  | cons head rest ih =>
    refine ih (admitState cfg m head) (fun other state there => ?_) found
    by_cases here : other = head
    · subst here
      unfold admitState at there
      split at there
      · rw [Map.getInsertSame] at there
        rw [← Option.some.inj there, newBlank]
        exact ⟨rfl,rfl⟩
      · rename_i old known
        have was := blank other old known
        rw [Map.getInsertSame] at there
        rw [← Option.some.inj there]
        unfold EndpointState.updateConfig
        split
        · split <;> exact ⟨was.ejectUntil,was.windowFail⟩
        · exact ⟨was.ejectUntil,was.windowFail⟩
    · rw [admitOther cfg m here] at there
      exact blank other state there

theorem openedBlank {addrs : List String} {now : Int} {addr : String} {e : EndpointState}
    (found : (opened cfg addrs now).endpoints.get addr = some e) : Blank e := by
  unfold opened reconciled at found
  rw [Map.getKeep] at found
  split at found
  · exact admittedBlank cfg addrs Map.empty (fun _ _ there => nomatch there) found
  · cases found

end

/- Successes and good verdicts alone bring no detector due. -/
def Action.fine : Action → Bool
  | .result _ success _ _ => success
  | .verdict _ bad _ => !bad

theorem fineQuiet {cfg : Outlier} (enabled : cfg.enabled = true) {a : Action} {e : EndpointState} (fine : a.fine = true)
    (none_ : e.windowFail = 0) : due cfg a e = false ∧ (answer cfg a e).2.windowFail = 0 := by
  cases a with
  | result addr success latency now =>
    cases (show success = true from fine)
    have zero : (counted (recordLatency e latency) cfg true now).windowFail = 0 := by
      unfold counted rotateWindow
      generalize (if cfg.errorRateWindow ≤ 0 then GoValues.second else cfg.errorRateWindow) = window
      dsimp only
      rw [if_pos rfl]
      split
      · rfl
      · exact none_
    have low : rateDue cfg (counted (recordLatency e latency) cfg true now) = false := by
      unfold rateDue
      rw [zero, Int.zero_mul, Int.zero_tdiv]
      simp only [Bool.and_eq_false_iff, decide_eq_false_iff_not]
      omega
    have recorded := recordRecorded (recordLatency e latency) enabled true now
    refine ⟨low,?_⟩
    change (recordResult (recordLatency e latency) cfg true now).2.windowFail = 0
    generalize recordResult (recordLatency e latency) cfg true now = result at recorded
    cases recorded with
    | streak due => cases due
    | rate _ due => cases low.symm.trans due
    | quiet => exact zero
  | verdict addr bad now =>
    cases bad with
    | true => cases fine
    | false =>
      have off : latencyDue cfg false e = false := rfl
      have observed := observeObserved e cfg false now
      refine ⟨by simp [due,off],?_⟩
      change (observeLatency e cfg false now).2.windowFail = 0
      generalize observeLatency e cfg false now = result at observed
      cases observed with
      | ejected _ due => cases due
      | quiet => exact none_

theorem fineUntroubled {cfg : Outlier} (enabled : cfg.enabled = true) {addrs : List String} {now : Int} {actions : List Action}
    {addr : String} (fine : ∀ a ∈ actions, a.addr = addr → a.fine = true) : troubled (opened cfg addrs now) actions addr = false := by
  have never (e : EndpointState) (none_ : e.windowFail = 0) : comesDue cfg addr e actions = false := by
    induction actions generalizing e with
    | nil => rfl
    | cons a rest ih =>
      have later := ih fun b inside => fine b (List.mem_cons_of_mem _ inside)
      unfold comesDue
      split
      · rename_i own
        obtain ⟨quiet,still⟩ := fineQuiet enabled (fine a List.mem_cons_self own) none_
        rw [quiet, later _ still]
        rfl
      · exact later e none_
  unfold troubled
  cases found : (opened cfg addrs now).endpoints.get addr with
  | none => rfl
  | some e => exact never e (openedBlank cfg found).windowFail

theorem capKept (cfg : Outlier) (enabled : cfg.enabled = true) (addrs : List String) (now : Int) {actions : List Action}
    {s : State} (run : Runs step anyStep (opened cfg addrs now) actions s)
    (few : 100 ≤ cfg.maxEjectPercent ∨
      100 * (addrs.countP (troubled (opened cfg addrs now) actions) : Int) ≤ cfg.maxEjectPercent * addrs.length) :
    Capped addrs s := by
  have config : s.config = cfg := run.preserve (fun s => s.config = cfg) (fun s a t same _ taken => by
    cases Option.some.inj taken
    exact same) rfl
  intro later _
  rw [config]
  rcases few with all | few
  · have most : ejected addrs s later ≤ addrs.length := List.countP_le_length
    have bound : 100 * (addrs.length : Int) ≤ cfg.maxEjectPercent * addrs.length :=
      Int.mul_le_mul_of_nonneg_right all (Int.natCast_nonneg _)
    omega
  · have fewer : ejected addrs s later ≤ addrs.countP (troubled (opened cfg addrs now) actions) := by
      refine List.countP_mono_left (fun addr _ out => ?_)
      by_contra calm
      have until_ := untroubledUntil (s := opened cfg addrs now) enabled run addr (by simpa using calm)
      unfold isEjected at out
      cases found : s.endpoints.get addr with
      | none => simp [found] at out
      | some e =>
        rw [found] at until_
        obtain ⟨old,there,same⟩ := Option.map_eq_some_iff.mp until_.symm
        have zero : e.ejectUntil = 0 := same.symm.trans (openedBlank cfg there).ejectUntil
        simp [found,EndpointState.isEjected,zero] at out
    omega

def touchy : Outlier := ⟨true,1,0,10,1,30,600,50,false,0,0,0,0,0⟩

def firstFails : Action := .result "a:1" false 0 1000

def secondFails : Action := .result "b:1" false 0 1010

def oneInThree : Outlier :=
  { touchy with consecutiveFailures := 2, maxEjectPercent := 34, latencyEnabled := true, latencyConsecutiveIntervals := 2 }

def firstKeepsFailing : List Action :=
  [.result "a:1" false 0 1000,.result "b:1" true 5 1001,.result "a:1" false 0 1002,.verdict "b:1" true 1003,
    .verdict "c:1" false 1003,.result "a:1" false 0 1040,.verdict "b:1" false 1041,.result "a:1" false 0 1042]

theorem oneOfThreeOut : ∃ s, Runs step anyStep (opened oneInThree ["a:1","b:1","c:1"] 1000) firstKeepsFailing s ∧
    ejected ["a:1","b:1","c:1"] s 1042 = 1 ∧ Capped ["a:1","b:1","c:1"] s := by
  have run : Runs step anyStep (opened oneInThree ["a:1","b:1","c:1"] 1000) firstKeepsFailing _ :=
    runAllRuns (t := firstKeepsFailing.foldl after (opened oneInThree ["a:1","b:1","c:1"] 1000)) rfl
  exact ⟨_,run,by decide,capKept oneInThree rfl _ 1000 run (.inr (by decide))⟩

theorem allOut : Runs step (fun s a => s.clock ≤ a.now) (opened touchy ["a:1","b:1"] 1000) [firstFails,secondFails]
      (after (after (opened touchy ["a:1","b:1"] 1000) firstFails) secondFails) ∧
    ¬Capped ["a:1","b:1"] (after (after (opened touchy ["a:1","b:1"] 1000) firstFails) secondFails) := by
  refine ⟨.cons (by decide) rfl (.cons (by decide) rfl (.nil _)),fun capped => ?_⟩
  exact absurd (capped 1010 (by decide)) (by decide)

section
variable {r : Registry} {key : String} {p : PoolEntry} (found : r.pools.get key = some p)
include found

theorem recordSteps (named : key ≠ "") (on : p.config.enabled = true) {addr : String} (addressed : addr ≠ "") (success : Bool)
    (latency clock now : Int) : ∃ q, (record r key addr success latency now).2.pools.get key = some q ∧ q.config = p.config ∧
      q.endpoints = (after (ofEntry p clock) (.result addr success latency now)).endpoints := by
  have touched : (touch r key now).pools.get key = some { p with lastSeen := now } := by
    simp [touch,Map.getAdjust,found]
  unfold record
  rw [if_neg (by simp [named,addressed])]
  dsimp only
  rw [touched]
  dsimp only
  cases there : p.endpoints.get addr with
  | none =>
    refine ⟨_,touched,rfl,?_⟩
    apply Map.ext
    intro x
    unfold after ofEntry Action.addr
    dsimp only
    rw [Map.getAdjust]
    split
    · rename_i here
      rw [here, there]
      rfl
    · rfl
  | some e =>
    dsimp only
    rw [if_neg (by simp [on])]
    exact ⟨_,Map.getInsertSame _ _ _,rfl,rfl⟩

theorem isEjectedPool (named : key ≠ "") {addr : String} (addressed : addr ≠ "") (clock now : Int) :
    r.isEjected key addr now = isEjected (ofEntry p clock) now addr := by
  unfold Registry.isEjected
  rw [if_neg (by simp [named,addressed]), found]
  rfl

omit found in
theorem judgeSteps (now baseline : Int) (samples : List (String × List Int)) (p : PoolEntry) (clock : Int) :
    ∃ actions s, Runs step (fun _ a => a.now = now) (ofEntry p clock) actions s ∧
      s = ofEntry (samples.foldl (judge now baseline) p) s.clock := by
  induction samples generalizing p clock with
  | nil => exact ⟨[],_,.nil _,rfl⟩
  | cons sample rest ih =>
    obtain ⟨actions,s,run,same⟩ := ih (judge now baseline p sample) now
    exact ⟨.verdict sample.1 _ now :: actions,s,.cons rfl rfl run,same⟩

theorem evaluateSteps (order : List String) (clock now : Int) :
    ∃ actions s q, Runs step (fun _ a => a.now = now) (ofEntry p clock) actions s ∧
      (evaluateLatency r key order now).pools.get key = some q ∧ s = ofEntry q s.clock := by
  have evaluated := evaluateEvaluated r key order now
  generalize evaluateLatency r key order now = t at evaluated ⊢
  cases evaluated with
  | quiet => exact ⟨[],_,p,.nil _,found,rfl⟩
  | judged own baseline samples =>
    cases Option.some.inj (own.symm.trans found)
    obtain ⟨actions,s,run,same⟩ := judgeSteps now baseline samples p clock
    exact ⟨actions,s,_,run,Map.getInsertSame _ _ _,same⟩

end
end ReverseProxy.EjectionCap
