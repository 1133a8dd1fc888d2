import ReverseProxy.Crew
import ReverseProxy.RequestFlow
import ReverseProxy.Transition

/-! Package plugin: the breaker of one filter, and the turns of the filter loops that use
it. A turn takes the breaker with the filter's configuration, asks it, and if it is let
in makes its call and reports once, whatever came of the call. Each operation of the
breaker holds its mutex and is one step. -/
namespace ReverseProxy.PluginBreaker
open GoValues RequestFlow
open PolicyBuild (PluginBreaker Filter)
open Transition (Runs anyStep runAll runAllRuns)

inductive BreakerState where
  | closed
  | opened
  | halfOpen
  deriving DecidableEq, Repr

/- `openUntil` is none where the code has the zero time. -/
structure Breaker where
  config : PluginBreaker
  state : BreakerState := .closed
  consecutiveFails : Int := 0
  openUntil : Option Int := none
  halfOpenInFlight : Int := 0
  halfOpenSuccess : Int := 0
  deriving DecidableEq, Repr

namespace Breaker

def new (cfg : PluginBreaker) : Breaker := { config := cfg }

def updateConfig (b : Breaker) (cfg : PluginBreaker) : Breaker :=
  let b := { b with config := cfg }
  if !cfg.enabled then
    { b with
      state := .closed
      consecutiveFails := 0
      halfOpenInFlight := 0
      halfOpenSuccess := 0
      openUntil := none }
  else b

def maxProbes (b : Breaker) : Int := if b.config.halfOpenProbes ≤ 0 then 1 else b.config.halfOpenProbes

def probe (b : Breaker) : (BreakerState × Bool) × Breaker :=
  if b.maxProbes ≤ b.halfOpenInFlight then ((.halfOpen,false),b)
  else ((.halfOpen,true),{ b with halfOpenInFlight := wrap64 (b.halfOpenInFlight + 1) })

def early (b : Breaker) (now : Int) : Bool := b.openUntil.any (fun until_ => decide (now < until_))

def allow (b : Breaker) (now : Int) : (BreakerState × Bool) × Breaker :=
  if !b.config.enabled then ((.closed,true),b)
  else match b.state with
    | .closed => ((.closed,true),b)
    | .opened =>
      if b.early now then ((.opened,false),b)
      else probe { b with state := .halfOpen, halfOpenInFlight := 0, halfOpenSuccess := 0 }
    | .halfOpen => b.probe

def openEnd (b : Breaker) (now : Int) : Option Int :=
  some (now + (if b.config.openDuration ≤ 0 then second else b.config.openDuration))

def threshold (b : Breaker) : Int := if b.config.consecutiveFailures ≤ 0 then 1 else b.config.consecutiveFailures

def reportClosed (b : Breaker) (success : Bool) (now : Int) : Breaker :=
  if success then { b with consecutiveFails := 0 }
  else
    let b := { b with consecutiveFails := wrap64 (b.consecutiveFails + 1) }
    if b.threshold ≤ b.consecutiveFails then
      { b with state := .opened, openUntil := b.openEnd now, halfOpenInFlight := 0, halfOpenSuccess := 0 }
    else b

/- A failed probe opens the breaker and leaves the slots as they are. -/
def reportHalfOpen (b : Breaker) (success : Bool) (now : Int) : Breaker :=
  let b := if 0 < b.halfOpenInFlight then { b with halfOpenInFlight := b.halfOpenInFlight - 1 } else b
  if !success then
    { b with state := .opened, openUntil := b.openEnd now, consecutiveFails := 0, halfOpenSuccess := 0 }
  else
    let b := { b with halfOpenSuccess := wrap64 (b.halfOpenSuccess + 1) }
    if b.maxProbes ≤ b.halfOpenSuccess ∧ b.halfOpenInFlight = 0 then
      { b with state := .closed, consecutiveFails := 0, halfOpenSuccess := 0, openUntil := none }
    else b

def report (b : Breaker) (success : Bool) (now : Int) : BreakerState × Breaker :=
  if !b.config.enabled then (.closed,b)
  else
    let b := match b.state with
      | .closed => b.reportClosed success now
      | .halfOpen => b.reportHalfOpen success now
      | .opened => b
    (b.state,b)

end Breaker

inductive Allowed (b : Breaker) (now : Int) : BreakerState × Bool → Breaker → Prop where
  | passed : Allowed b now (.closed,true) b
  | refused (state : b.state = .opened) : Allowed b now (.opened,false) b
  | entered (state : b.state = .opened) (enabled : b.config.enabled = true) :
      Allowed b now (.halfOpen,true) { b with state := .halfOpen, halfOpenInFlight := 1, halfOpenSuccess := 0 }
  | probed (state : b.state = .halfOpen) (room : b.halfOpenInFlight < b.maxProbes) :
      Allowed b now (.halfOpen,true) { b with halfOpenInFlight := wrap64 (b.halfOpenInFlight + 1) }
  | held (state : b.state = .halfOpen) (full : b.maxProbes ≤ b.halfOpenInFlight) : Allowed b now (.halfOpen,false) b

theorem maxProbesPositive (b : Breaker) : 1 ≤ b.maxProbes := by
  unfold Breaker.maxProbes
  split <;> omega

theorem allowAllowed (b : Breaker) (now : Int) : Allowed b now (b.allow now).1 (b.allow now).2 := by
  unfold Breaker.allow
  split
  · exact .passed
  · rename_i disabled
    have enabled : b.config.enabled = true := by simpa using disabled
    cases state : b.state with
    | closed => exact .passed
    | opened =>
      dsimp only
      split
      · exact .refused state
      · have room := maxProbesPositive { b with state := .halfOpen, halfOpenInFlight := 0, halfOpenSuccess := 0 }
        unfold Breaker.probe
        rw [if_neg (by dsimp only; omega)]
        exact .entered state enabled
    | halfOpen =>
      dsimp only
      unfold Breaker.probe
      split
      · exact .held state (by assumption)
      · exact .probed state (by omega)

def released (b : Breaker) : Int := if 0 < b.halfOpenInFlight then b.halfOpenInFlight - 1 else b.halfOpenInFlight

inductive Reported (b : Breaker) : Bool → Breaker → Prop where
  | ignored {success} (idle : b.config.enabled = false ∨ b.state = .opened) : Reported b success b
  | counted {success b'} (state : b.state = .closed) (leaves : b'.state ≠ .halfOpen) (config : b'.config = b.config)
      (slots : b'.halfOpenInFlight = b.halfOpenInFlight ∨ b'.halfOpenInFlight = 0) : Reported b success b'
  | failed {b'} (state : b.state = .halfOpen) (opens : b'.state = .opened) (config : b'.config = b.config)
      (slots : b'.halfOpenInFlight = released b) : Reported b false b'
  | succeeded {b'} (state : b.state = .halfOpen) (half : b'.state = .halfOpen) (config : b'.config = b.config)
      (slots : b'.halfOpenInFlight = released b) : Reported b true b'
  | shut {b'} (state : b.state = .halfOpen) (closes : b'.state = .closed) (config : b'.config = b.config)
      (slots : b'.halfOpenInFlight = 0) : Reported b true b'

theorem closedReported {b : Breaker} (state : b.state = .closed) (success : Bool) (now : Int) :
    Reported b success (b.reportClosed success now) := by
  unfold Breaker.reportClosed
  split
  · exact .counted state (by rw [state]; decide) rfl (.inl rfl)
  · dsimp only
    split
    · exact .counted state BreakerState.noConfusion rfl (.inr rfl)
    · exact .counted state (by rw [state]; decide) rfl (.inl rfl)

theorem halfOpenReported {b : Breaker} (state : b.state = .halfOpen) (success : Bool) (now : Int) :
    Reported b success (b.reportHalfOpen success now) := by
  have freed : (if 0 < b.halfOpenInFlight then { b with halfOpenInFlight := b.halfOpenInFlight - 1 } else b) =
      { b with halfOpenInFlight := released b } := by
    unfold released
    split <;> rfl
  unfold Breaker.reportHalfOpen
  rw [freed]
  cases success with
  | false => exact .failed state rfl rfl rfl
  | true =>
    dsimp only
    split
    · cases ‹(!true) = true›
    · split
      · rename_i enough
        exact .shut state rfl rfl enough.2
      · exact .succeeded state state rfl rfl

theorem reportReported (b : Breaker) (success : Bool) (now : Int) : Reported b success (b.report success now).2 := by
  unfold Breaker.report
  split
  · rename_i disabled
    exact .ignored (.inl (by simpa using disabled))
  · cases state : b.state with
    | closed => exact closedReported state success now
    | halfOpen => exact halfOpenReported state success now
    | opened => exact .ignored (.inr state)

/- A breaker with the calls it let in that have not reported. `failed` is kept for the
statements: a failure was reported since half-open was last entered. -/
structure State where
  breaker : Breaker
  outstanding : Nat := 0
  failed : Bool := false

inductive Operation where
  | updateConfig (cfg : PluginBreaker)
  | allow (now : Int)
  | report (success : Bool) (now : Int)

def initial (cfg : PluginBreaker) : State := { breaker := .new cfg }

def step (s : State) : Operation → Option State
  | .updateConfig cfg => some { s with breaker := s.breaker.updateConfig cfg }
  | .allow now =>
    let answer := s.breaker.allow now
    some {
      breaker := answer.2
      outstanding := if answer.1.2 then s.outstanding + 1 else s.outstanding
      failed := if s.breaker.state = .opened ∧ answer.2.state = .halfOpen then false else s.failed }
  | .report success now =>
    if s.outstanding = 0 then none
    else some {
      breaker := (s.breaker.report success now).2
      outstanding := s.outstanding - 1
      failed := s.failed || !success }

structure Accounted (s : State) : Prop where
  range : -(2^63) ≤ s.breaker.halfOpenInFlight
  slots : s.breaker.state = .halfOpen → s.breaker.halfOpenInFlight ≤ s.outstanding
  enabled : s.breaker.state = .halfOpen → s.breaker.config.enabled = true
  spotless : s.breaker.state = .halfOpen → s.failed = false

theorem outsideAccounted {s : State} (range : -(2^63) ≤ s.breaker.halfOpenInFlight)
    (outside : s.breaker.state ≠ .halfOpen) : Accounted s :=
  ⟨range,fun half => absurd half outside,fun half => absurd half outside,fun half => absurd half outside⟩

theorem initialAccounted (cfg : PluginBreaker) : Accounted (initial cfg) :=
  outsideAccounted (by change -(2^63) ≤ (0 : Int); omega) BreakerState.noConfusion

section
variable {s : State} (accounted : Accounted s)

include accounted

theorem updateAccounted (cfg : PluginBreaker) : Accounted { s with breaker := s.breaker.updateConfig cfg } := by
  unfold Breaker.updateConfig
  cases enabled : cfg.enabled with
  | false => exact outsideAccounted (by change -(2^63) ≤ (0 : Int); omega) BreakerState.noConfusion
  | true => exact ⟨accounted.range,accounted.slots,fun _ => enabled,accounted.spotless⟩

theorem allowAccounted {now : Int} {answer : BreakerState × Bool} {b' : Breaker}
    (allowed : Allowed s.breaker now answer b') : Accounted {
      breaker := b'
      outstanding := if answer.2 then s.outstanding + 1 else s.outstanding
      failed := if s.breaker.state = .opened ∧ b'.state = .halfOpen then false else s.failed } := by
  have late : s.breaker.state = .halfOpen → ¬(s.breaker.state = .opened ∧ s.breaker.state = .halfOpen) := by
    rintro half ⟨opened,_⟩
    cases half.symm.trans opened
  cases allowed with
  | passed =>
    refine ⟨accounted.range,fun half => ?_,accounted.enabled,fun half => ?_⟩
    · have slots := accounted.slots half
      change s.breaker.halfOpenInFlight ≤ ((s.outstanding + 1 : Nat) : Int)
      omega
    · exact (if_neg (late half)).trans (accounted.spotless half)
  | refused opened =>
    exact outsideAccounted accounted.range (by rw [opened]; decide)
  | entered opened enabled =>
    refine ⟨?_,fun _ => ?_,fun _ => enabled,fun half => if_pos ⟨opened,half⟩⟩
    · change -(2^63) ≤ (1 : Int)
      omega
    · change (1 : Int) ≤ ((s.outstanding + 1 : Nat) : Int)
      omega
  | probed half room =>
    have slots := accounted.slots half
    refine ⟨wrap64Range _,fun _ => ?_,accounted.enabled,fun _ => ?_⟩
    · have range := accounted.range
      have grown := wrap64Le (n := s.breaker.halfOpenInFlight + 1) (by omega)
      change wrap64 (s.breaker.halfOpenInFlight + 1) ≤ ((s.outstanding + 1 : Nat) : Int)
      omega
    · exact (if_neg (late half)).trans (accounted.spotless half)
  | held half full =>
    exact ⟨accounted.range,accounted.slots,accounted.enabled,
      fun half => (if_neg (late half)).trans (accounted.spotless half)⟩

theorem reportAccounted {success : Bool} {b' : Breaker} (reported : Reported s.breaker success b') :
    Accounted { breaker := b', outstanding := s.outstanding - 1, failed := s.failed || !success } := by
  have range := accounted.range
  have range' : -(2^63) ≤ released s.breaker := by
    unfold released
    split <;> omega
  cases reported with
  | ignored idle =>
    refine outsideAccounted range (fun half => ?_)
    rcases idle with disabled | opened
    · cases (accounted.enabled half).symm.trans disabled
    · cases half.symm.trans opened
  | counted closed leaves config slots => exact outsideAccounted (by dsimp only; omega) leaves
  | failed half opens config slots => exact outsideAccounted (by dsimp only; omega) (by rw [opens]; decide)
  | succeeded half still config slots =>
    refine ⟨by dsimp only; omega,fun _ => ?_,fun _ => ?_,fun _ => ?_⟩
    · have before := accounted.slots half
      dsimp only
      rw [slots]
      unfold released
      split <;> omega
    · rw [config]
      exact accounted.enabled half
    · rw [Bool.not_true, Bool.or_false]
      exact accounted.spotless half
  | shut half closes config slots => exact outsideAccounted (by dsimp only; omega) (by rw [closes]; decide)

end

theorem stepAccounted {s t : State} {op : Operation} (accounted : Accounted s) (taken : step s op = some t) :
    Accounted t := by
  cases op with
  | updateConfig cfg =>
    cases taken
    exact updateAccounted accounted cfg
  | allow now =>
    cases taken
    exact allowAccounted accounted (allowAllowed s.breaker now)
  | report success now =>
    unfold step at taken
    dsimp only at taken
    split at taken
    · cases taken
    · cases taken
      exact reportAccounted accounted (reportReported s.breaker success now)

theorem runAccounted {cfg : PluginBreaker} {ops : List Operation} {s : State}
    (run : Runs step anyStep (initial cfg) ops s) : Accounted s :=
  run.preserve Accounted (fun _ _ _ accounted _ taken => stepAccounted accounted taken) (initialAccounted cfg)

theorem idleAdmits {s : State} (accounted : Accounted s) (half : s.breaker.state = .halfOpen)
    (idle : s.outstanding = 0) (now : Int) : (s.breaker.allow now).1.2 = true := by
  have allowed := allowAllowed s.breaker now
  have slots := accounted.slots half
  have positive := maxProbesPositive s.breaker
  generalize s.breaker.allow now = answer at allowed
  obtain ⟨answer,b'⟩ := answer
  cases allowed with
  | passed => rfl
  | refused opened => cases half.symm.trans opened
  | entered opened => rfl
  | probed half room => rfl
  | held half full => omega

theorem closesClean {s : State} (accounted : Accounted s) (half : s.breaker.state = .halfOpen) {success : Bool}
    {now : Int} (closes : (s.breaker.report success now).2.state = .closed) :
    (s.breaker.report success now).2.halfOpenInFlight = 0 ∧ success = true ∧ s.failed = false := by
  have reported := reportReported s.breaker success now
  generalize (s.breaker.report success now).2 = b' at reported closes
  cases reported with
  | ignored idle => cases half.symm.trans closes
  | counted closed => cases half.symm.trans closed
  | failed _ opens => cases opens.symm.trans closes
  | succeeded _ still => cases still.symm.trans closes
  | shut _ _ _ slots => exact ⟨slots,rfl,accounted.spotless half⟩

/- What a turn of the loops tells the breaker of the reply its call got; the two replies
without a call tell it nothing. -/
def requestReport : FilterReply → Option Bool
  | .expired => none
  | .breakerOpen => none
  | .clientError => some false
  | .callError _ => some false
  | .nilReply => some false
  | .proceed _ => some true
  | .respond status => some (!decide (status ≤ 0))
  | .unknownAction => some false

def responseReport : ResponseReply → Option Bool
  | .expired => none
  | .breakerOpen => none
  | .clientError => some false
  | .callError _ => some false
  | .nilReply => some false
  | .done _ => some true

inductive Reply where
  | request (reply : FilterReply)
  | response (reply : ResponseReply)

def Reply.report : Reply → Option Bool
  | .request reply => requestReport reply
  | .response reply => responseReport reply

/- A turn between its steps: before GetBreaker, before Allow, during the call, over. -/
inductive Turn where
  | entering
  | asking
  | calling
  | over
  deriving DecidableEq, Repr

def Turn.isCalling (t : Turn) : Bool := decide (t = .calling)

structure Desk where
  breaker : Option Breaker := none
  turns : List Turn := []

inductive TurnStep where
  | arrive
  | getBreaker (i : Nat) (cfg : PluginBreaker)
  | ask (i : Nat) (now : Int)
  | answer (i : Nat) (reply : Reply) (now : Int)

def getBreaker (d : Desk) (cfg : PluginBreaker) : Breaker :=
  match d.breaker with
  | none => .new cfg
  | some b => b.updateConfig cfg

def turnStep (d : Desk) : TurnStep → Option Desk
  | .arrive => some { d with turns := d.turns ++ [.entering] }
  | .getBreaker i cfg =>
    if d.turns[i]? = some .entering then some { breaker := some (getBreaker d cfg), turns := d.turns.set i .asking }
    else none
  | .ask i now =>
    if d.turns[i]? = some .asking then
      d.breaker.map (fun b =>
        let answer := b.allow now
        { breaker := some answer.2, turns := d.turns.set i (if answer.1.2 then .calling else .over) })
    else none
  | .answer i reply now =>
    if d.turns[i]? = some .calling then
      match d.breaker, reply.report with
      | some b, some success => some { breaker := some (b.report success now).2, turns := d.turns.set i .over }
      | _, _ => none
    else none

def Desk.calls (d : Desk) : Nat := d.turns.countP Turn.isCalling

inductive Serves (cfg : PluginBreaker) : Desk → State → Prop where
  | fresh {d} (breaker : d.breaker = none) (calls : d.calls = 0) : Serves cfg d (initial cfg)
  | used {d s} (breaker : d.breaker = some s.breaker) (calls : d.calls = s.outstanding) : Serves cfg d s

theorem Serves.inUse {cfg : PluginBreaker} {d : Desk} {s : State} (serves : Serves cfg d s) {b : Breaker}
    (there : d.breaker = some b) : b = s.breaker ∧ d.calls = s.outstanding := by
  cases serves with
  | fresh none_ => cases none_.symm.trans there
  | used breaker calls => exact ⟨Option.some.inj (there.symm.trans breaker),calls⟩

theorem arriveServes {cfg : PluginBreaker} {d : Desk} {s : State} (serves : Serves cfg d s) :
    Serves cfg { d with turns := d.turns ++ [.entering] } s := by
  have same : Desk.calls { d with turns := d.turns ++ [.entering] } = d.calls := Crew.countJoin _ _ _
  cases serves with
  | fresh breaker calls => exact .fresh breaker (same.trans calls)
  | used breaker calls => exact .used breaker (same.trans calls)

theorem getBreakerServes {cfg cfg' : PluginBreaker} {d : Desk} {s : State} {i : Nat} (serves : Serves cfg d s)
    (found : d.turns[i]? = some .entering) :
    Serves cfg { breaker := some (getBreaker d cfg'), turns := d.turns.set i .asking }
      { s with breaker := s.breaker.updateConfig cfg' } := by
  have same : (d.turns.set i .asking).countP Turn.isCalling = d.calls := Crew.countSame _ found rfl
  unfold getBreaker
  cases serves with
  | fresh breaker calls =>
    rw [breaker]
    -- a breaker no turn has used is made anew by an update
    have anew : (Breaker.new cfg).updateConfig cfg' = .new cfg' := by
      unfold Breaker.updateConfig
      split <;> rfl
    exact .used (congrArg some anew.symm) (same.trans calls)
  | used breaker calls =>
    rw [breaker]
    exact .used rfl (same.trans calls)

theorem askServes {cfg : PluginBreaker} {d : Desk} {s : State} {i : Nat} {now : Int}
    (calls : d.calls = s.outstanding) (found : d.turns[i]? = some .asking) {failed : Bool} :
    Serves cfg { breaker := some (s.breaker.allow now).2,
                 turns := d.turns.set i (if (s.breaker.allow now).1.2 then .calling else .over) }
      { breaker := (s.breaker.allow now).2,
        outstanding := if (s.breaker.allow now).1.2 then s.outstanding + 1 else s.outstanding, failed := failed } := by
  refine .used rfl ?_
  have moved := Crew.countMove Turn.isCalling found (if (s.breaker.allow now).1.2 then .calling else .over)
  unfold Desk.calls at calls ⊢
  rw [calls] at moved
  cases admitted : (s.breaker.allow now).1.2 <;> rw [admitted] at moved <;> exact moved

theorem answerServes {cfg : PluginBreaker} {d : Desk} {s : State} {i : Nat} (calls : d.calls = s.outstanding)
    (found : d.turns[i]? = some .calling) (success : Bool) (now : Int) {failed : Bool} :
    s.outstanding ≠ 0 ∧
    Serves cfg { breaker := some (s.breaker.report success now).2, turns := d.turns.set i .over }
      { breaker := (s.breaker.report success now).2, outstanding := s.outstanding - 1, failed := failed } := by
  have moved := Crew.countMove Turn.isCalling found .over
  unfold Desk.calls at calls
  rw [calls] at moved
  change _ + 1 = s.outstanding + 0 at moved
  refine ⟨by omega,.used rfl ?_⟩
  unfold Desk.calls
  dsimp only
  omega

theorem turnServes {cfg : PluginBreaker} {d d' : Desk} {s : State} {act : TurnStep} (serves : Serves cfg d s)
    (taken : turnStep d act = some d') : ∃ ops s', Runs step anyStep s ops s' ∧ Serves cfg d' s' := by
  cases act with
  | arrive =>
    cases taken
    exact ⟨[],s,.nil s,arriveServes serves⟩
  | getBreaker i cfg' =>
    unfold turnStep at taken
    dsimp only at taken
    split at taken
    · rename_i found
      cases taken
      exact ⟨[.updateConfig cfg'],_,.cons trivial rfl (.nil _),getBreakerServes serves found⟩
    · cases taken
  | ask i now =>
    unfold turnStep at taken
    dsimp only at taken
    split at taken
    · rename_i found
      obtain ⟨b,there,same⟩ := Option.map_eq_some_iff.mp taken
      cases same
      obtain ⟨rfl,calls⟩ := serves.inUse there
      exact ⟨[.allow now],_,.cons trivial rfl (.nil _),askServes calls found⟩
    · cases taken
  | answer i reply now =>
    unfold turnStep at taken
    dsimp only at taken
    split at taken
    · rename_i found
      split at taken
      · rename_i b success there told
        cases taken
        obtain ⟨rfl,calls⟩ := serves.inUse there
        obtain ⟨waiting,kept⟩ := answerServes calls found success now
        exact ⟨[.report success now],_,.cons trivial (if_neg waiting) (.nil _),kept⟩
      · cases taken
    · cases taken

structure Sound (s : State) : Prop where
  slots : s.breaker.state = .halfOpen → s.breaker.halfOpenInFlight ≤ s.outstanding
  admits : s.breaker.state = .halfOpen → s.outstanding = 0 → ∀ now, (s.breaker.allow now).1.2 = true
  closes : s.breaker.state = .halfOpen → ∀ success now, (s.breaker.report success now).2.state = .closed →
    (s.breaker.report success now).2.halfOpenInFlight = 0 ∧ success = true ∧ s.failed = false

theorem halfOpenSlotsReport (cfg : PluginBreaker) :
    (∀ ops s, Runs step anyStep (initial cfg) ops s → Sound s) ∧
    (∀ acts d, Runs turnStep anyStep {} acts d → ∃ ops s, Runs step anyStep (initial cfg) ops s ∧ Serves cfg d s) := by
  refine ⟨fun ops s run => ?_,fun acts d run => ?_⟩
  · have accounted := runAccounted run
    exact ⟨accounted.slots,idleAdmits accounted,fun half success now => closesClean accounted half⟩
  · exact run.follow (Serves cfg) (fun _ _ _ _ serves _ taken => turnServes serves taken) (.fresh rfl rfl)

def twoProbes : PluginBreaker := ⟨true,1,10,2⟩

def probeTurns : List TurnStep :=
  [.arrive,.getBreaker 0 twoProbes,.ask 0 1,.answer 0 (.request .nilReply) 2,
   .arrive,.getBreaker 1 twoProbes,.ask 1 12,.answer 1 (.request (.proceed [])) 13]

def probeOperations : List Operation := [.allow 1,.report false 2,.allow 12,.report true 13]

theorem probedOnceAdmits :
    (∃ s, Runs step anyStep (initial twoProbes) probeOperations s ∧ s.breaker.state = .halfOpen ∧ s.outstanding = 0 ∧
      Sound s) ∧
    (∃ d ops s, Runs turnStep anyStep {} probeTurns d ∧ d.calls = 0 ∧ Runs step anyStep (initial twoProbes) ops s ∧
      Serves twoProbes d s) := by
  have run : Runs step anyStep (initial twoProbes) probeOperations _ := runAllRuns rfl
  have turns : Runs turnStep anyStep {} probeTurns _ := runAllRuns rfl
  obtain ⟨ops,s,operated,serves⟩ := (halfOpenSlotsReport twoProbes).2 _ _ turns
  exact ⟨⟨_,run,rfl,rfl,(halfOpenSlotsReport twoProbes).1 _ _ run⟩,⟨_,ops,s,turns,rfl,operated,serves⟩⟩

end ReverseProxy.PluginBreaker
