import Mathlib.Data.List.Chain
import ReverseProxy.EjectDurations
import ReverseProxy.Transition

/-! The ejections of one endpoint, one after the other. The count behind the doubling
starts over when the last ejection began more than five minutes ago, and an ejection
may itself last longer than that. `ejections` is kept for the statements, the latest
first. -/
namespace ReverseProxy.RepeatOffenders
open GoValues Doubling EjectDurations
open OutlierDetection (eject recordResult observeLatency Recorded Observed recordRecorded observeObserved counted)
open OutlierRegistry (EndpointState)
open PolicyBuild (Outlier)
open Transition (Runs anyStep runAllRuns)

structure Ejection where
  start : Int
  length : Duration
  deriving DecidableEq, Repr

structure State where
  endpoint : EndpointState
  clock : Int
  ejections : List Ejection := []

def initial (cfg : Outlier) (now : Int) : State := { endpoint := .new cfg, clock := now }

def ejection (cfg : Outlier) (e : EndpointState) (now : Int) : Ejection :=
  ⟨now,duration cfg.baseEjectDuration cfg.maxEjectDuration (eject e cfg now).ejectCount⟩

def step (cfg : Outlier) (s : State) (now : Int) : Option State :=
  some { endpoint := eject s.endpoint cfg now, clock := now, ejections := ejection cfg s.endpoint now :: s.ejections }

def NotShorter (next previous : Ejection) : Prop :=
  next.start ≤ previous.start + previous.length + 5 * minute → previous.length ≤ next.length

structure Sensible (cfg : Outlier) : Prop where
  positive : (0 : Int) < cfg.baseEjectDuration
  ordered : (cfg.baseEjectDuration : Int) ≤ cfg.maxEjectDuration
  range : (cfg.maxEjectDuration : Int) < 2^62

/- The count goes on: the last ejection began at most five minutes ago (or before
1970, which the code takes for never) and the counter has room for one more. -/
def Continues (s : State) (previous : Ejection) (now : Int) : Prop :=
  (previous.start ≤ 0 ∨ now - previous.start ≤ 5 * minute) ∧ s.endpoint.ejectCount < 2^31 - 1

structure Escalates (cfg : Outlier) (s : State) (now : Int) : Prop where
  clock : s.clock ≤ now
  repeats : ∀ previous ∈ s.ejections.head?, now ≤ previous.start + previous.length + 5 * minute →
    Continues s previous now ∨ previous.length = cfg.baseEjectDuration

instance (s : State) (previous : Ejection) (now : Int) : Decidable (Continues s previous now) :=
  inferInstanceAs (Decidable (_ ∧ _))

instance (cfg : Outlier) (s : State) (now : Int) : Decidable (Escalates cfg s now) :=
  decidable_of_iff (s.clock ≤ now ∧ ∀ previous ∈ s.ejections.head?, now ≤ previous.start + previous.length + 5 * minute →
      Continues s previous now ∨ previous.length = cfg.baseEjectDuration)
    ⟨fun ⟨clock,repeats⟩ => ⟨clock,repeats⟩,fun ⟨clock,repeats⟩ => ⟨clock,repeats⟩⟩

structure Tracked (cfg : Outlier) (s : State) : Prop where
  low : -(2^31) ≤ s.endpoint.ejectCount
  high : s.endpoint.ejectCount < 2^31
  last : ∀ previous ∈ s.ejections.head?, s.endpoint.lastEjectAt = previous.start ∧
    previous.length = capped cfg.maxEjectDuration cfg.baseEjectDuration (s.endpoint.ejectCount - 1).toNat

section
variable {cfg : Outlier} {s : State}

theorem Sensible.limited (sensible : Sensible cfg) : (0 : Int) < cfg.maxEjectDuration :=
  Int.lt_of_lt_of_le sensible.positive sensible.ordered

theorem reachesBelow {limit base : Int} (positive : 0 < base) (ordered : base ≤ limit) (range : limit < 2^62) {fuel : Nat}
    (least : limit ≤ base * 2^(fuel + 1)) : Reaches limit base := by
  induction fuel generalizing base with
  | zero =>
    rw [nextPower, Int.pow_zero, Int.mul_one] at least
    refine ⟨0,?_,?_⟩ <;> rw [nextPower, Int.pow_zero, Int.mul_one] <;> omega
  | succ fuel ih =>
    rw [nextPower] at least
    by_cases first : limit ≤ base * 2
    · refine ⟨0,?_,?_⟩ <;> rw [nextPower, Int.pow_zero, Int.mul_one] <;> omega
    · have next : Reaches limit (base * 2) := ih (by omega) (by omega) least
      exact next.before

theorem overAll {limit base : Int} (positive : 0 < base) (range : limit < 2^62) : limit ≤ base * 2^(62 + 1) := by
  omega

theorem Sensible.reaches (sensible : Sensible cfg) : Reaches cfg.maxEjectDuration cfg.baseEjectDuration :=
  reachesBelow sensible.positive sensible.ordered sensible.range (overAll sensible.positive sensible.range)

theorem Sensible.lasts (sensible : Sensible cfg) (e : EndpointState) (now : Int) : (ejection cfg e now).length =
    capped cfg.maxEjectDuration cfg.baseEjectDuration ((eject e cfg now).ejectCount - 1).toNat :=
  durationCapped sensible.positive sensible.limited sensible.reaches _

theorem initialTracked (cfg : Outlier) (now : Int) : Tracked cfg (initial cfg now) := by
  unfold initial
  rw [OutlierDetection.newBlank]
  exact ⟨show -(2^31) ≤ (0 : Int) by decide,show (0 : Int) < 2^31 by decide,fun _ none_ => nomatch none_⟩

theorem stepTracked (sensible : Sensible cfg) {now : Int} {t : State} (taken : step cfg s now = some t) : Tracked cfg t := by
  cases taken
  refine ⟨wrap32Range _,wrap32Lt _,fun previous latest => ?_⟩
  cases latest
  exact ⟨rfl,sensible.lasts s.endpoint now⟩

theorem countGoesOn (tracked : Tracked cfg s) {previous : Ejection} (latest : previous ∈ s.ejections.head?) {now : Int}
    (continues : Continues s previous now) : (eject s.endpoint cfg now).ejectCount = s.endpoint.ejectCount + 1 := by
  obtain ⟨recent,room⟩ := continues
  have low := tracked.low
  have same := (tracked.last previous latest).1
  unfold eject
  dsimp only
  have kept : ¬(0 < previous.start ∧ 5 * minute < now - previous.start) := by
    rintro ⟨after,late⟩
    rcases recent with early | soon
    · exact absurd after (Int.not_lt.mpr early)
    · exact absurd late (Int.not_lt.mpr soon)
  rw [same, if_neg kept, wrap32Same (by omega) (by omega)]

theorem countStartsOver (tracked : Tracked cfg s) {previous : Ejection} (latest : previous ∈ s.ejections.head?) {now : Int}
    (stops : ¬Continues s previous now) : ((eject s.endpoint cfg now).ejectCount - 1).toNat = 0 := by
  have high := tracked.high
  have same := (tracked.last previous latest).1
  unfold Continues at stops
  unfold eject
  dsimp only
  rw [same]
  split
  · rfl
  · rename_i recent
    have full : ¬s.endpoint.ejectCount < 2^31 - 1 := by
      intro room
      refine stops ⟨?_,room⟩
      by_cases after : 0 < previous.start
      · exact .inr (Int.not_lt.mp (fun late => recent ⟨after,late⟩))
      · exact .inl (Int.not_lt.mp after)
    have last : s.endpoint.ejectCount = 2^31 - 1 := by omega
    rw [last]
    rfl

theorem lengthIff (sensible : Sensible cfg) (tracked : Tracked cfg s) {previous : Ejection}
    (latest : previous ∈ s.ejections.head?) (now : Int) :
    previous.length ≤ (ejection cfg s.endpoint now).length ↔
      Continues s previous now ∨ previous.length = cfg.baseEjectDuration := by
  have last := (tracked.last previous latest).2
  rw [sensible.lasts]
  by_cases continues : Continues s previous now
  · rw [countGoesOn tracked latest continues, last]
    refine ⟨fun _ => .inl continues,fun _ => ?_⟩
    exact cappedMono sensible.positive (by omega)
  · rw [countStartsOver tracked latest continues, last]
    have first : capped cfg.maxEjectDuration cfg.baseEjectDuration 0 = cfg.baseEjectDuration := by
      unfold capped
      rw [Int.pow_zero, Int.mul_one]
      exact Int.min_eq_left sensible.ordered
    rw [first]
    refine ⟨fun le => .inr (Int.le_antisymm le (cappedBase sensible.positive sensible.ordered _)),fun either => ?_⟩
    rcases either with continues' | same
    · exact absurd continues' continues
    · exact Int.le_of_eq same

theorem notShorterIff (sensible : Sensible cfg) (tracked : Tracked cfg s) {previous : Ejection}
    (latest : previous ∈ s.ejections.head?) (now : Int) :
    NotShorter (ejection cfg s.endpoint now) previous ↔
      (now ≤ previous.start + previous.length + 5 * minute →
        Continues s previous now ∨ previous.length = cfg.baseEjectDuration) := by
  unfold NotShorter
  rw [lengthIff sensible tracked latest]
  rfl

theorem stepNotShorter (sensible : Sensible cfg) (tracked : Tracked cfg s) (chain : s.ejections.IsChain NotShorter) {now : Int}
    (escalates : Escalates cfg s now) {t : State} (taken : step cfg s now = some t) : t.ejections.IsChain NotShorter := by
  cases taken
  refine List.isChain_cons.mpr ⟨fun previous latest => ?_,chain⟩
  exact (notShorterIff sensible tracked latest now).mpr (escalates.repeats previous latest)

end

inductive Call where
  | result (success : Bool) (now : Int)
  | observe (bad : Bool) (now : Int)

def Call.now : Call → Int
  | .result _ now => now
  | .observe _ now => now

def call (cfg : Outlier) (e : EndpointState) : Call → Option EndpointState
  | .result success now => some (recordResult e cfg success now).2
  | .observe bad now => some (observeLatency e cfg bad now).2

structure Alike (e e' : EndpointState) : Prop where
  count : e.ejectCount = e'.ejectCount
  last : e.lastEjectAt = e'.lastEjectAt
  until_ : e.ejectUntil = e'.ejectUntil

section
variable {cfg : Outlier} {e e' : EndpointState}

theorem Alike.eject (alike : Alike e e') (now : Int) : Alike (eject e cfg now) (eject e' cfg now) := by
  obtain ⟨count,last,_⟩ := alike
  unfold OutlierDetection.eject
  rw [count, last]
  exact ⟨rfl,rfl,rfl⟩

theorem Alike.counted (alike : Alike e e') (success : Bool) (now : Int) : Alike (counted e cfg success now) e' := by
  obtain ⟨count,last,until_⟩ := alike
  unfold OutlierDetection.counted OutlierDetection.rotateWindow
  generalize (if cfg.errorRateWindow ≤ 0 then second else cfg.errorRateWindow) = window
  dsimp only
  split <;> exact ⟨count,last,until_⟩

theorem callAlike (enabled : cfg.enabled = true) (alike : Alike e e') {c : Call} {f : EndpointState} (called : call cfg e c = some f) :
    Alike f (OutlierDetection.eject e' cfg c.now) ∨ Alike f e' := by
  cases c with
  | result success now =>
    cases called
    have recorded := recordRecorded e enabled success now
    obtain ⟨count,last,until_⟩ : Alike (counted e cfg success now) e' := alike.counted success now
    generalize recordResult e cfg success now = answer at recorded
    cases recorded with
    | streak due =>
      have before : Alike { counted e cfg success now with consecutiveFails := 0 } e' := ⟨count,last,until_⟩
      exact .inl (before.eject now)
    | rate short due =>
      have before : Alike { counted e cfg success now with windowReq := 0, windowFail := 0 } e' := ⟨count,last,until_⟩
      exact .inl (before.eject now)
    | quiet short low => exact .inr ⟨count,last,until_⟩
  | observe bad now =>
    cases called
    have observed := observeObserved e cfg bad now
    obtain ⟨count,last,until_⟩ := alike
    generalize observeLatency e cfg bad now = answer at observed
    cases observed with
    | ejected on due =>
      have before : Alike { e with latencyBadIntervals := 0 } e' := ⟨count,last,until_⟩
      exact .inl (before.eject now)
    | quiet intervals => exact .inr ⟨count,last,until_⟩

theorem callsEject (enabled : cfg.enabled = true) {calls : List Call} {f : EndpointState} (run : Runs (call cfg) anyStep e calls f)
    {s : State} (alike : Alike e s.endpoint) :
    ∃ times t, Runs (step cfg) anyStep s times t ∧ times.Sublist (calls.map Call.now) ∧ Alike f t.endpoint := by
  induction run generalizing s with
  | nil e => exact ⟨[],s,.nil s,.slnil,alike⟩
  | @cons _ _ _ c rest _ called tail ih =>
    rcases callAlike enabled alike called with ejected | same
    · obtain ⟨times,t,reached,sub,ends⟩ := ih (s := ⟨eject s.endpoint cfg c.now,c.now,ejection cfg s.endpoint c.now :: s.ejections⟩)
        ejected
      exact ⟨c.now :: times,t,.cons trivial rfl reached,sub.cons_cons c.now,ends⟩
    · obtain ⟨times,t,reached,sub,ends⟩ := ih same
      exact ⟨times,t,reached,sub.cons c.now,ends⟩

end

theorem repeatsNotShorter {cfg : Outlier} (sensible : Sensible cfg) {now : Int} {times : List Int} {s : State}
    (run : Runs (step cfg) (Escalates cfg) (initial cfg now) times s) : s.ejections.IsChain NotShorter := by
  have kept : Tracked cfg s ∧ s.ejections.IsChain NotShorter := run.preserve
    (fun s => Tracked cfg s ∧ s.ejections.IsChain NotShorter)
    (fun _ _ _ kept escalates taken => ⟨stepTracked sensible taken,stepNotShorter sensible kept.1 kept.2 escalates taken⟩)
    ⟨initialTracked cfg now,.nil⟩
  exact kept.2

def defaults : Outlier := PolicyBuild.outlierFromConfig { enabled := true }

theorem defaultsSensible : Sensible defaults := ⟨by decide,by decide,by decide⟩

theorem quickRepeatLonger : ∃ s, Runs (step defaults) (Escalates defaults) (initial defaults 0) [1000 * second,1030 * second] s ∧
    s.ejections = [⟨1030 * second,60 * second⟩,⟨1000 * second,30 * second⟩] ∧ s.ejections.IsChain NotShorter := by
  have run : Runs (step defaults) (Escalates defaults) (initial defaults 0) [1000 * second,1030 * second] _ := runAllRuns rfl
  exact ⟨_,run,rfl,repeatsNotShorter defaultsSensible run⟩

def persistent : List Int := [1000 * second,1030 * second,1090 * second,1210 * second,1450 * second,1930 * second]

theorem longEjectionForgiven : ∃ s, Runs (step defaults) anyStep (initial defaults 0) persistent s ∧
    s.ejections.take 2 = [⟨1930 * second,30 * second⟩,⟨1450 * second,480 * second⟩] ∧ ¬s.ejections.IsChain NotShorter := by
  have run : Runs (step defaults) anyStep (initial defaults 0) persistent _ := runAllRuns rfl
  refine ⟨_,run,rfl,fun chain => ?_⟩
  have shorter := (List.isChain_cons.mp chain).1 ⟨1450 * second,480 * second⟩ rfl
  revert shorter
  unfold NotShorter
  decide

end ReverseProxy.RepeatOffenders
