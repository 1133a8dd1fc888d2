import ReverseProxy.LockedMask
import ReverseProxy.StatsRuns

/-! traffic.AutoDrain: evaluate weighs the error rates of a window and takes the canary's
weight away for a while. Records and evaluations come in any order under a clock that does
not go back. -/
namespace ReverseProxy.AutoDrain
open GoValues Binary64 TrafficStats StatsWindow StatsRuns
open RequestIntake (Inbound drained pickVariant)
open TrafficRegistry (Plan)
open Transition (Runs)

def errorRate (errors requests : Nat) : Rat := float64 (float64 errors / float64 requests)

def failing (cfg : PolicyBuild.AutoDrain) (totals : WindowTotals) : Bool :=
  if totals.canaryReq < cfg.minRequests then false
  else if totals.canaryReq = 0 then false
  else
    let canaryRate := errorRate totals.canaryErr totals.canaryReq
    if canaryRate ≤ 0 then false
    else if totals.stableReq = 0 then true
    else decide (float64 (cfg.errorRateMultiplier * errorRate totals.stableErr totals.stableReq) ≤ canaryRate)

def drainUntil (a : TrafficRegistry.AutoDrain) (now : Int) : TrafficRegistry.AutoDrain :=
  if a.config.cooloff ≤ 0 then a else { a with drainedUntil := max a.drainedUntil (wrap64 (now + a.config.cooloff)) }

structure State where
  stats : StatsRuns.State
  drain : TrafficRegistry.AutoDrain

def evaluate (s : State) (now : Int) : State where
  stats := ⟨(windowTotals s.stats.stats now).2,s.stats.journal,now⟩
  drain := if failing s.drain.config (windowTotals s.stats.stats now).1 then drainUntil s.drain now else s.drain

/- `totals` stands for an evaluation. -/
def step (s : State) : Action → Option State
  | .record e => (StatsRuns.step s.stats (.record e)).map fun stats => { s with stats }
  | .totals now => some (evaluate s now)

def OnTime (s : State) (a : Action) : Prop := Timely s.stats a

def initial (cfg : PolicyBuild.AutoDrain) (now : Int) : State := ⟨StatsRuns.initial cfg.window now,{ config := cfg }⟩

def within (window now : Int) (e : Event) : Bool := decide (now - window ≤ e.time) && decide (e.time ≤ now)

structure Cause (window : Int) (cfg : PolicyBuild.AutoDrain) (journal : List Event) (at_ : Int) : Prop where
  enough : cfg.minRequests ≤ journal.countP (fun e => within window at_ e && Column.canaryReq.has e)
  error : ∃ e ∈ journal, within window at_ e = true ∧ Column.canaryErr.has e = true

structure Explained (cfg : PolicyBuild.AutoDrain) (s : State) : Prop where
  config : s.drain.config = cfg
  reached : ∃ start as, Runs StatsRuns.step Timely (StatsRuns.initial cfg.window start) as s.stats
  since : 0 ≤ s.stats.clock
  past : ∀ e ∈ s.stats.journal, e.time ≤ s.stats.clock
  cause : 0 < s.drain.drainedUntil → ∃ at_ ≤ s.stats.clock, s.drain.drainedUntil ≤ at_ + cfg.cooloff ∧ Cause cfg.window cfg s.stats.journal at_

section
variable {cfg : PolicyBuild.AutoDrain} {s t : State} {journal : List Event} {now : Int} {totals : WindowTotals}

theorem float64Zero : float64 0 = 0 := by
  have zero := float64Int (n := 0) (by decide)
  simpa using zero

theorem rateZero (requests : Nat) : errorRate 0 requests = 0 := by
  unfold errorRate
  rw [Nat.cast_zero, float64Zero, zero_div, float64Zero]

theorem ratePositive {errors requests : Nat} (some_ : 0 < errors) (of_ : 0 < requests) : 0 < errorRate errors requests :=
  float64Positive (div_pos (float64Positive (by exact_mod_cast some_)) (float64Positive (by exact_mod_cast of_)))

theorem failingCounts (fails : failing cfg totals = true) : cfg.minRequests ≤ totals.canaryReq ∧ 0 < totals.canaryErr := by
  unfold failing at fails
  split at fails
  · cases fails
  · rename_i enough
    split at fails
    · cases fails
    · dsimp only at fails
      split at fails
      · cases fails
      · rename_i positive
        refine ⟨Int.not_lt.mp enough,Nat.pos_of_ne_zero (fun none_ => positive ?_)⟩
        rw [none_, rateZero]

theorem withinYoung {window : Int} {e : Event} (young : now - e.time ≤ window) (past : e.time ≤ now) : within window now e = true := by
  unfold within
  rw [Bool.and_eq_true]
  exact ⟨decide_eq_true (by omega),decide_eq_true past⟩

theorem failingCause (fails : failing cfg totals = true) (sound : Sound cfg.window totals journal now)
    (past : ∀ e ∈ journal, e.time ≤ now) : Cause cfg.window cfg journal now := by
  obtain ⟨kept,counts,-,young⟩ := sound.counts
  obtain ⟨enough,some_⟩ := failingCounts fails
  have inside {e : Event} (member : e ∈ journal) (is : kept e = true) : within cfg.window now e = true :=
    withinYoung (young e member is) (past e member)
  constructor
  · have most : totals.canaryReq ≤ journal.countP (fun e => within cfg.window now e && Column.canaryReq.has e) := by
      refine (Nat.le_of_eq (counts .canaryReq)).trans (List.countP_mono_left (fun e member both => ?_))
      rw [Bool.and_eq_true] at both ⊢
      exact ⟨inside member both.1,both.2⟩
    exact Int.le_trans enough (by exact_mod_cast most)
  · have errors : 0 < journal.countP (fun e => kept e && Column.canaryErr.has e) := counts .canaryErr ▸ some_
    obtain ⟨e,member,both⟩ := List.countP_pos_iff.mp errors
    rw [Bool.and_eq_true] at both
    exact ⟨e,member,inside member both.1,both.2⟩

theorem Cause.later {window : Int} (cause : Cause window cfg journal now) (more : List Event) : Cause window cfg (journal ++ more) now := by
  refine ⟨Int.le_trans cause.enough ?_,?_⟩
  · rw [List.countP_append]
    exact_mod_cast Nat.le_add_right _ _
  · obtain ⟨e,member,is⟩ := cause.error
    exact ⟨e,List.mem_append_left _ member,is⟩

theorem drainUntilMost (a : TrafficRegistry.AutoDrain) (range : 0 ≤ now) : (drainUntil a now).config = a.config ∧
    ((drainUntil a now).drainedUntil = a.drainedUntil ∨ (drainUntil a now).drainedUntil ≤ now + a.config.cooloff) := by
  unfold drainUntil
  split
  · exact ⟨rfl,.inl rfl⟩
  · rename_i cools
    have under := wrap64Le (n := now + a.config.cooloff) (by have : (0 : Int) < a.config.cooloff := Int.not_le.mp cools; omega)
    refine ⟨rfl,?_⟩
    dsimp only
    omega

theorem explainedStep (positive : (0 : Int) < cfg.window) (covered : Covered cfg.window) {a : Action} (explained : Explained cfg s)
    (timely : OnTime s a) (taken : step s a = some t) : Explained cfg t := by
  obtain ⟨start,as,run⟩ := explained.reached
  cases a with
  | record e =>
    cases taken
    have longer := run.append (.cons timely rfl (.nil _))
    refine ⟨explained.config,⟨start,_,longer⟩,Int.le_trans explained.since timely,fun x inside => ?_,fun drains => ?_⟩
    · rcases List.mem_append.mp inside with old | new
      · exact Int.le_trans (explained.past x old) timely
      · cases List.mem_singleton.mp new
        exact Int.le_refl _
    · obtain ⟨at_,before,until_,cause⟩ := explained.cause drains
      exact ⟨at_,Int.le_trans before timely,until_,cause.later [e]⟩
  | totals now =>
    cases taken
    have longer := run.append (.cons timely rfl (.nil _))
    have now0 : 0 ≤ now := Int.le_trans explained.since timely
    have past : ∀ e ∈ s.stats.journal, e.time ≤ now := fun e inside => Int.le_trans (explained.past e inside) timely
    have kept (drains : 0 < s.drain.drainedUntil) :
        ∃ at_ ≤ now, s.drain.drainedUntil ≤ at_ + cfg.cooloff ∧ Cause cfg.window cfg s.stats.journal at_ := by
      obtain ⟨at_,before,rest⟩ := explained.cause drains
      exact ⟨at_,Int.le_trans before timely,rest⟩
    obtain ⟨same,most⟩ := drainUntilMost s.drain now0
    unfold evaluate
    split
    · rename_i fails
      refine ⟨same.trans explained.config,⟨start,_,longer⟩,now0,past,fun drains => ?_⟩
      rcases most with unchanged | fresh
      · rw [unchanged] at drains ⊢
        exact kept drains
      · rw [explained.config] at fresh fails
        exact ⟨now,Int.le_refl _,fresh,failingCause fails (coveredAlways positive covered start as s.stats run now timely) past⟩
    · exact ⟨explained.config,⟨start,_,longer⟩,now0,past,kept⟩

theorem explainedRun (positive : (0 : Int) < cfg.window) (covered : Covered cfg.window) {start : Int} (since : 0 ≤ start)
    {as : List Action} (run : Runs step OnTime (initial cfg start) as s) : Explained cfg s :=
  run.preserve (Explained cfg) (fun _ _ _ kept timely taken => explainedStep positive covered kept timely taken)
    ⟨rfl,⟨start,[],.nil _⟩,since,fun e inside => (by cases inside),fun drains => (by cases drains)⟩

theorem drainedForCause (positive : (0 : Int) < cfg.window) (covered : Covered cfg.window) {start : Int} (since : 0 ≤ start)
    {as : List Action} (run : Runs step OnTime (initial cfg start) as s) (later : s.stats.clock ≤ now) {p : Plan}
    (own : p.autoDrain = some s.drain) (drains : drained p now = true) :
    ∃ at_, at_ ≤ now ∧ now < at_ + cfg.cooloff ∧ Cause cfg.window cfg s.stats.journal at_ := by
  obtain ⟨-,-,-,-,cause⟩ := explainedRun positive covered since run
  unfold drained at drains
  rw [own] at drains
  simp only [Option.any_some, Bool.and_eq_true, decide_eq_true_eq] at drains
  obtain ⟨at_,before,until_,why⟩ := cause drains.1
  exact ⟨at_,Int.le_trans before later,Int.lt_of_lt_of_le drains.2 until_,why⟩

def sampleConfig : PolicyBuild.AutoDrain :=
  { enabled := true, window := 10000000000, minRequests := 1, errorRateMultiplier := 2, cooloff := 5000000000 }

def sampleError : Event := ⟨1000000000,.canary,500,false⟩

def sampleRecorded : State := ⟨⟨record (newStats 10000000000) sampleError,[sampleError],1000000000⟩,{ config := sampleConfig }⟩

theorem sampleRecords : Runs step OnTime (initial sampleConfig 0) [.record sampleError] sampleRecorded :=
  .cons (by decide : (0 : Int) ≤ 1000000000) rfl (.nil _)

theorem sampleCovered : Covered sampleConfig.window := coveredBelow (by decide) (by decide)

def samplePlan : Plan := ⟨⟨1,1⟩,none,none,10000000000,some (evaluate sampleRecorded 2000000000).drain⟩

theorem sampleCause : drained samplePlan 3000000000 = true ∧
    ∃ at_ : Int, at_ ≤ 3000000000 ∧ 3000000000 < at_ + 5000000000 ∧ Cause 10000000000 sampleConfig [sampleError] at_ := by
  have drains : drained samplePlan 3000000000 = true := by decide +kernel
  have run : Runs step OnTime (initial sampleConfig 0) [.record sampleError,.totals 2000000000] (evaluate sampleRecorded 2000000000) :=
    sampleRecords.append (.cons (by decide : (1000000000 : Int) ≤ 2000000000) rfl (.nil _))
  exact ⟨drains,drainedForCause (by decide) sampleCovered (Int.le_refl 0) run (by decide : (2000000000 : Int) ≤ 3000000000) rfl drains⟩

theorem failingStops (enough : cfg.minRequests ≤ totals.canaryReq) (requests : 0 < totals.canaryReq) (errors : 0 < totals.canaryErr)
    (clean : totals.stableErr = 0) : failing cfg totals = true := by
  have rate := ratePositive errors requests
  unfold failing
  rw [if_neg (Int.not_lt.mpr enough), if_neg (Nat.ne_of_gt requests)]
  dsimp only
  rw [if_neg (not_le.mpr rate)]
  split
  · rfl
  · rw [clean, rateZero, mul_zero, float64Zero]
    exact decide_eq_true rate.le

theorem drainedPicks {p : Plan} (drains : drained p now = true) (r : Inbound) (random : Nat) : pickVariant p r now random = .stable := by
  unfold pickVariant
  rw [if_pos drains]
  cases p.cohort.bind (RequestIntake.extract r) <;> exact LockedMask.chooseStable rfl _

theorem untilGrows (a : TrafficRegistry.AutoDrain) (now : Int) : a.drainedUntil ≤ (drainUntil a now).drainedUntil := by
  unfold drainUntil
  split
  · exact Int.le_refl _
  · exact Int.le_max_left _ _

theorem drainedGrows {as : List Action} (run : Runs step OnTime s as t) : s.drain.drainedUntil ≤ t.drain.drainedUntil := by
  refine run.preserve (fun x => s.drain.drainedUntil ≤ x.drain.drainedUntil) (fun x a y kept _ taken => ?_) (Int.le_refl _)
  cases a with
  | record e =>
    cases taken
    exact kept
  | totals now =>
    cases taken
    refine Int.le_trans kept ?_
    unfold evaluate
    split
    · exact untilGrows x.drain now
    · exact Int.le_refl _

structure Broken (cfg : PolicyBuild.AutoDrain) (journal : List Event) (at_ : Int) : Prop where
  cause : Cause (cfg.window - bucketDuration cfg.window) cfg journal at_
  clean : ∀ e ∈ journal, within cfg.window at_ e = true → Column.stableErr.has e = false

theorem brokenFails (broken : Broken cfg journal now) (sound : Sound cfg.window totals journal now)
    (past : ∀ e ∈ journal, e.time ≤ now) : failing cfg totals = true := by
  obtain ⟨kept,counts,recent,young⟩ := sound.counts
  obtain ⟨⟨enough,e,member,is,bad⟩,clean⟩ := broken
  have surely {x : Event} (inside : x ∈ journal) (late : within (cfg.window - bucketDuration cfg.window) now x = true) :
      kept x = true := by
    unfold within at late
    rw [Bool.and_eq_true, decide_eq_true_eq] at late
    exact recent x inside (by omega)
  have requests := List.countP_mono_left (l := journal) fun x inside both =>
    (Bool.and_eq_true (kept x) (Column.canaryReq.has x)).mpr (((Bool.and_eq_true _ _).mp both).imp_left (surely inside))
  rw [← counts .canaryReq] at requests
  have one (column : Column) (has : column.has e = true) : 0 < column.total totals := by
    rw [counts column]
    exact List.countP_pos_iff.mpr ⟨e,member,(Bool.and_eq_true _ _).mpr ⟨surely member is,has⟩⟩
  have asked : Column.canaryReq.has e = true := ((Bool.and_eq_true _ _).mp bad).1
  have none_ : Column.stableErr.total totals = 0 := by
    rw [counts .stableErr, List.countP_eq_zero]
    intro x inside both
    rw [Bool.and_eq_true] at both
    exact Bool.eq_false_iff.mp (clean x inside (withinYoung (young x inside both.1) (past x inside))) both.2
  exact failingStops (Int.le_trans enough (by exact_mod_cast requests)) (one .canaryReq asked) (one .canaryErr bad) none_

theorem failingCanaryStopped (positive : (0 : Int) < cfg.window) (covered : Covered cfg.window) (cools : (0 : Int) < cfg.cooloff)
    {start : Int} (since : 0 ≤ start) {as bs : List Action} (run : Runs step OnTime (initial cfg start) as s) {at_ : Int}
    (timely : s.stats.clock ≤ at_) (range : at_ + cfg.cooloff < 2^63) (broken : Broken cfg s.stats.journal at_)
    (after : Runs step OnTime (evaluate s at_) bs t) (early : now < at_ + cfg.cooloff) {p : Plan} (own : p.autoDrain = some t.drain)
    (r : Inbound) (random : Nat) : pickVariant p r now random = .stable := by
  obtain ⟨config,⟨_,_,reached⟩,clock,past,-⟩ := explainedRun positive covered since run
  have fails := brokenFails broken (coveredAlways positive covered _ _ _ reached at_ timely)
    (fun e inside => Int.le_trans (past e inside) timely)
  have least : at_ + cfg.cooloff ≤ (evaluate s at_).drain.drainedUntil := by
    unfold evaluate drainUntil
    rw [config, if_pos fails, if_neg (Int.not_le.mpr cools), wrap64Same (by omega) range]
    exact Int.le_max_right _ _
  have until_ := Int.le_trans least (drainedGrows after)
  refine drainedPicks ?_ r random
  unfold drained
  rw [own, Option.any_some, Bool.and_eq_true]
  exact ⟨decide_eq_true (by omega),decide_eq_true (by omega)⟩

def sampleVisit : Inbound where
  request := ⟨encodeText "GET",[],[],[],FiniteMap.Map.empty⟩
  requestURI := []
  headerCount := 0
  contentLength := 0
  body := none

theorem sampleStopped : pickVariant samplePlan sampleVisit 3000000000 7 = .stable :=
  failingCanaryStopped (by decide) sampleCovered (by decide) (Int.le_refl 0) sampleRecords (by decide : (1000000000 : Int) ≤ 2000000000)
    (by decide : (2000000000 : Int) + 5000000000 < 2^63) ⟨⟨by decide,sampleError,List.mem_singleton_self _,by decide,by decide⟩,by decide⟩
    (.nil _) (by decide : (3000000000 : Int) < 2000000000 + 5000000000) rfl sampleVisit 7

end
end ReverseProxy.AutoDrain
