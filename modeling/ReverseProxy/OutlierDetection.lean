import ReverseProxy.Doubling
import ReverseProxy.OutlierRegistry

/-! Package outlier at run time: how results and latencies move an endpoint's
statistics, when it is ejected, and the registry's calls by pool key. Reasons are the
texts the observer is told. -/
namespace ReverseProxy.OutlierDetection
open GoValues FiniteMap OutlierRegistry
open PolicyBuild (Outlier)

theorem recordNonempty (w : LatencyWindow) (latency : Int) : 0 < (w.ring.set w.idx latency).length := by
  rw [List.length_set]
  exact w.nonempty

def windowRecord (w : LatencyWindow) (latency : Int) : LatencyWindow where
  ring := w.ring.set w.idx latency
  idx := (w.idx + 1) % w.ring.length
  count := if w.count < w.ring.length then w.count + 1 else w.count
  nonempty := recordNonempty w latency

def windowSnapshot (w : LatencyWindow) : List Int := w.ring.take w.count

/- `pct` counts hundredths; the source rounds `pct * len` up. -/
def percentile (values : List Int) (pct : Nat) : Int :=
  let sorted := values.mergeSort (fun a b => decide (a ≤ b))
  let idx := (pct * sorted.length + 99) / 100 - 1
  sorted.getD (min idx (sorted.length - 1)) 0

def eject (e : EndpointState) (cfg : Outlier) (now : Int) : EndpointState :=
  let base := if cfg.baseEjectDuration ≤ 0 then second else cfg.baseEjectDuration
  let limit := if cfg.maxEjectDuration ≤ 0 then base else cfg.maxEjectDuration
  let before := if 0 < e.lastEjectAt ∧ 5 * minute < now - e.lastEjectAt then 0 else e.ejectCount
  let count := wrap32 (before + 1)
  let duration := Doubling.climb limit (count - 1).toNat base
  { e with
    ejectCount := count
    lastEjectAt := now
    ejectUntil := wrap64 (now + if limit < duration then limit else duration) }

def rotateWindow (e : EndpointState) (cfg : Outlier) (now : Int) : EndpointState :=
  let window := if cfg.errorRateWindow ≤ 0 then second else cfg.errorRateWindow
  if e.windowStart = 0 ∨ window < now - e.windowStart then { e with windowStart := now, windowReq := 0, windowFail := 0 }
  else e

def errorRate (e : EndpointState) (cfg : Outlier) (now : Int) : Option String × EndpointState :=
  let minReq := if cfg.minRequests ≤ 0 then 1 else cfg.minRequests
  if e.windowReq < minReq then (none,e)
  else if cfg.errorRateThresholdPercent ≤ 0 then (none,e)
  else if cfg.errorRateThresholdPercent ≤ Int.tdiv (e.windowFail * 100) e.windowReq then
    (some "error_rate",eject { e with windowReq := 0, windowFail := 0 } cfg now)
  else (none,e)

def recordResult (e : EndpointState) (cfg : Outlier) (success : Bool) (now : Int) : Option String × EndpointState :=
  if !cfg.enabled then (none,e)
  else
    let e := rotateWindow e cfg now
    let e := { e with windowReq := wrap32 (e.windowReq + 1) }
    if success then errorRate { e with consecutiveFails := 0 } cfg now
    else
      let e := { e with windowFail := wrap32 (e.windowFail + 1), consecutiveFails := wrap32 (e.consecutiveFails + 1) }
      if 0 < cfg.consecutiveFailures ∧ cfg.consecutiveFailures ≤ e.consecutiveFails then
        (some "consecutive_fail",eject { e with consecutiveFails := 0 } cfg now)
      else errorRate e cfg now

def recordLatency (e : EndpointState) (latency : Int) : EndpointState :=
  { e with latencyWindow := e.latencyWindow.map (fun w => windowRecord w latency) }

def observeLatency (e : EndpointState) (cfg : Outlier) (bad : Bool) (now : Int) : Option String × EndpointState :=
  if !cfg.enabled || !cfg.latencyEnabled then (none,e)
  else if bad then
    let count := wrap32 (e.latencyBadIntervals + 1)
    if 0 < cfg.latencyConsecutiveIntervals ∧ cfg.latencyConsecutiveIntervals ≤ count then
      (some "latency",eject { e with latencyBadIntervals := 0 } cfg now)
    else (none,{ e with latencyBadIntervals := count })
  else (none,{ e with latencyBadIntervals := 0 })

def counted (e : EndpointState) (cfg : Outlier) (success : Bool) (now : Int) : EndpointState :=
  let e := rotateWindow e cfg now
  { e with
    windowReq := wrap32 (e.windowReq + 1)
    windowFail := if success then e.windowFail else wrap32 (e.windowFail + 1)
    consecutiveFails := if success then 0 else wrap32 (e.consecutiveFails + 1) }

def streakDue (cfg : Outlier) (success : Bool) (e : EndpointState) : Bool :=
  !success && decide (0 < cfg.consecutiveFailures) && decide (cfg.consecutiveFailures ≤ e.consecutiveFails)

def minRequests (cfg : Outlier) : Int := if cfg.minRequests ≤ 0 then 1 else cfg.minRequests

def rateDue (cfg : Outlier) (e : EndpointState) : Bool :=
  decide (minRequests cfg ≤ e.windowReq) && decide (0 < cfg.errorRateThresholdPercent) &&
    decide (cfg.errorRateThresholdPercent ≤ Int.tdiv (e.windowFail * 100) e.windowReq)

def latencyDue (cfg : Outlier) (bad : Bool) (e : EndpointState) : Bool :=
  bad && decide (0 < cfg.latencyConsecutiveIntervals) &&
    decide (cfg.latencyConsecutiveIntervals ≤ wrap32 (e.latencyBadIntervals + 1))

inductive Recorded (e : EndpointState) (cfg : Outlier) (success : Bool) (now : Int) : Option String × EndpointState → Prop where
  | streak (due : streakDue cfg success (counted e cfg success now) = true) :
      Recorded e cfg success now
        (some "consecutive_fail",eject { counted e cfg success now with consecutiveFails := 0 } cfg now)
  | rate (short : streakDue cfg success (counted e cfg success now) = false)
      (due : rateDue cfg (counted e cfg success now) = true) :
      Recorded e cfg success now
        (some "error_rate",eject { counted e cfg success now with windowReq := 0, windowFail := 0 } cfg now)
  | quiet (short : streakDue cfg success (counted e cfg success now) = false)
      (low : rateDue cfg (counted e cfg success now) = false) : Recorded e cfg success now (none,counted e cfg success now)

inductive Observed (e : EndpointState) (cfg : Outlier) (bad : Bool) (now : Int) : Option String × EndpointState → Prop where
  | ejected (on : cfg.latencyEnabled = true) (due : latencyDue cfg bad e = true) :
      Observed e cfg bad now (some "latency",eject { e with latencyBadIntervals := 0 } cfg now)
  | quiet (intervals : Int) : Observed e cfg bad now (none,{ e with latencyBadIntervals := intervals })

theorem errorRateDue (e : EndpointState) (cfg : Outlier) (now : Int) : errorRate e cfg now =
    if rateDue cfg e then (some "error_rate",eject { e with windowReq := 0, windowFail := 0 } cfg now) else (none,e) := by
  unfold errorRate rateDue minRequests
  generalize (if cfg.minRequests ≤ 0 then 1 else cfg.minRequests) = minReq
  dsimp only
  by_cases few : e.windowReq < minReq
  · rw [if_pos few, decide_eq_false (Int.not_le.mpr few)]
    rfl
  · rw [if_neg few, decide_eq_true (Int.not_lt.mp few)]
    by_cases off : cfg.errorRateThresholdPercent ≤ 0
    · rw [if_pos off, decide_eq_false (Int.not_lt.mpr off)]
      rfl
    · rw [if_neg off, decide_eq_true (Int.not_le.mp off), Bool.true_and, Bool.true_and]
      simp only [decide_eq_true_eq]

theorem recordRecorded (e : EndpointState) {cfg : Outlier} (enabled : cfg.enabled = true) (success : Bool) (now : Int) :
    Recorded e cfg success now (recordResult e cfg success now) := by
  have rated (short : streakDue cfg success (counted e cfg success now) = false) :
      Recorded e cfg success now (errorRate (counted e cfg success now) cfg now) := by
    rw [errorRateDue]
    cases due : rateDue cfg (counted e cfg success now) with
    | true => exact .rate short due
    | false => exact .quiet short due
  unfold recordResult
  rw [if_neg (by simp [enabled])]
  dsimp only
  cases success with
  | true => exact rated rfl
  | false =>
    rw [if_neg Bool.false_ne_true]
    split
    · rename_i due
      exact .streak (by simpa [streakDue,counted] using due)
    · rename_i short
      exact rated (by simpa [streakDue,counted] using short)

theorem observeObserved (e : EndpointState) (cfg : Outlier) (bad : Bool) (now : Int) :
    Observed e cfg bad now (observeLatency e cfg bad now) := by
  unfold observeLatency
  dsimp only
  split
  · exact .quiet e.latencyBadIntervals
  · rename_i on
    cases bad with
    | false => exact .quiet 0
    | true =>
      rw [if_pos rfl]
      split
      · rename_i due
        exact .ejected (by simp_all) (by simpa [latencyDue] using due)
      · exact .quiet _

theorem newBlank (cfg : Outlier) : EndpointState.new cfg = { latencyWindow := (EndpointState.new cfg).latencyWindow } := by
  unfold EndpointState.new EndpointState.updateConfig
  split
  · split <;> rfl
  · rfl

section
variable (e : EndpointState) (cfg : Outlier) (now : Int)

@[simp] theorem ejectWindow : (eject e cfg now).latencyWindow = e.latencyWindow := rfl

@[simp] theorem rotateWindowWindow : (rotateWindow e cfg now).latencyWindow = e.latencyWindow := by
  unfold rotateWindow
  generalize (if cfg.errorRateWindow ≤ 0 then second else cfg.errorRateWindow) = window
  dsimp only
  split <;> rfl

@[simp] theorem errorRateWindow : (errorRate e cfg now).2.latencyWindow = e.latencyWindow := by
  unfold errorRate
  generalize (if cfg.minRequests ≤ 0 then 1 else cfg.minRequests) = minReq
  dsimp only
  split
  · rfl
  · split
    · rfl
    · split <;> rfl

@[simp] theorem recordResultWindow (success : Bool) : (recordResult e cfg success now).2.latencyWindow = e.latencyWindow := by
  unfold recordResult
  dsimp only
  split
  · rfl
  · split
    · simp
    · split <;> simp

@[simp] theorem observeLatencyWindow (bad : Bool) : (observeLatency e cfg bad now).2.latencyWindow = e.latencyWindow := by
  unfold observeLatency
  dsimp only
  split
  · rfl
  · split
    · split <;> rfl
    · rfl

end

def Steady (cfg : Outlier) (f : EndpointState → EndpointState) : Prop :=
  ∀ e, EndpointState.Tuned cfg e → EndpointState.Tuned cfg (f e)

theorem adjustTuned (p : PoolEntry) {f : EndpointState → EndpointState} (steady : Steady p.config f) (addr : String) :
    ∀ a state, (p.endpoints.adjust addr f).get a = some state → EndpointState.Tuned p.config state := by
  intro a state found
  rw [Map.getAdjust] at found
  split at found
  · obtain ⟨old,there,rfl⟩ := Option.map_eq_some_iff.mp found
    exact steady old (p.tuned a old there)
  · exact p.tuned a state found

def PoolEntry.adjust (p : PoolEntry) (addr : String) (f : EndpointState → EndpointState) (steady : Steady p.config f) :
    PoolEntry :=
  { p with endpoints := p.endpoints.adjust addr f, tuned := adjustTuned p steady addr }

def told (cfg : Outlier) (success : Bool) (latency now : Int) (e : EndpointState) : Option String × EndpointState :=
  recordResult (if success then recordLatency e latency else e) cfg success now

theorem toldSteady (cfg : Outlier) (success : Bool) (latency now : Int) :
    Steady cfg (fun e => (told cfg success latency now e).2) := by
  intro e tuned
  unfold EndpointState.Tuned told at *
  rw [recordResultWindow, ← tuned]
  cases success with
  | false => rfl
  | true =>
    cases window : e.latencyWindow with
    | none => simp [recordLatency,window]
    | some w => simp [recordLatency,window,windowRecord]

theorem observeSteady (cfg : Outlier) (bad : Bool) (now : Int) : Steady cfg (fun e => (observeLatency e cfg bad now).2) := by
  intro e tuned
  unfold EndpointState.Tuned at *
  rw [observeLatencyWindow, tuned]

def touch (r : Registry) (key : String) (now : Int) : Registry :=
  { r with pools := r.pools.adjust key (fun p => { p with lastSeen := now }) }

def put (r : Registry) (key : String) (p : PoolEntry) : Registry := { r with pools := r.pools.insert key p }

def record (r : Registry) (key addr : String) (success : Bool) (latency now : Int) : Option String × Registry :=
  if key = "" ∨ addr = "" then (none,r)
  else
    let r := touch r key now
    match r.pools.get key with
    | none => (none,r)
    | some p =>
      match p.endpoints.get addr with
      | none => (none,r)
      | some e =>
        if !p.config.enabled then (none,r)
        else ((told p.config success latency now e).1,put r key (PoolEntry.adjust p addr _ (toldSteady p.config success latency now)))

def askEjected (r : Registry) (key addr : String) (now : Int) : Bool × Registry :=
  (r.isEjected key addr now,if key = "" ∨ addr = "" then r else touch r key now)

def sampled (p : PoolEntry) (minSamples : Int) (order : List String) : List (String × List Int) :=
  order.filterMap (fun addr =>
    let samples := ((p.endpoints.get addr).bind (·.latencyWindow)).elim [] windowSnapshot
    if (samples.length : Int) < minSamples then none else some (addr,samples))

def judge (now baseline : Int) (p : PoolEntry) (sample : String × List Int) : PoolEntry :=
  let multiplier := if p.config.latencyMultiplier ≤ 0 then 1 else p.config.latencyMultiplier
  let bad := decide (wrap64 (multiplier * baseline) < percentile sample.2 95)
  PoolEntry.adjust p sample.1 _ (observeSteady p.config bad now)

def evaluateLatency (r : Registry) (key : String) (order : List String) (now : Int) : Registry :=
  match r.pools.get key with
  | none => r
  | some p =>
    if !p.config.enabled || !p.config.latencyEnabled then r
    else
      let minSamples := if p.config.latencyMinSamples ≤ 0 then 1 else p.config.latencyMinSamples
      let samples := sampled p minSamples order
      let all := samples.flatMap (·.2)
      if (all.length : Int) < minSamples then r
      else
        let baseline := percentile all 50
        if baseline ≤ 0 then r else put r key (samples.foldl (judge now baseline) p)

inductive Evaluated (r : Registry) (key : String) (now : Int) : Registry → Prop
  | quiet : Evaluated r key now r
  | judged {p : PoolEntry} (found : r.pools.get key = some p) (baseline : Int) (samples : List (String × List Int)) :
    Evaluated r key now (put r key (samples.foldl (judge now baseline) p))

theorem evaluateEvaluated (r : Registry) (key : String) (order : List String) (now : Int) :
    Evaluated r key now (evaluateLatency r key order now) := by
  unfold evaluateLatency
  split
  · exact .quiet
  · rename_i p found
    generalize (if p.config.latencyMinSamples ≤ 0 then 1 else p.config.latencyMinSamples) = minSamples
    dsimp only
    split
    · exact .quiet
    · split
      · exact .quiet
      · split
        · exact .quiet
        · exact .judged found _ _

def reapOnce (r : Registry) (now : Int) : Registry :=
  { r with pools := fun key => (r.pools.get key).filter (fun p => decide (now - r.ttl ≤ p.lastSeen)) }

section
variable (r : Registry) {key other : String} (different : other ≠ key)
include different

theorem touchOther (now : Int) : (touch r key now).pools.get other = r.pools.get other := by
  rw [touch, Map.getAdjust, if_neg different]

theorem recordOther (addr : String) (success : Bool) (latency now : Int) :
    (record r key addr success latency now).2.pools.get other = r.pools.get other := by
  have touched := touchOther r different now
  unfold record
  dsimp only
  split
  · rfl
  · split
    · exact touched
    · split
      · exact touched
      · split
        · exact touched
        · exact (Map.getInsertOther _ _ different).trans touched

theorem askEjectedOther (addr : String) (now : Int) : (askEjected r key addr now).2.pools.get other = r.pools.get other := by
  unfold askEjected
  dsimp only
  split
  · rfl
  · exact touchOther r different now

theorem evaluateLatencyOther (order : List String) (now : Int) :
    (evaluateLatency r key order now).pools.get other = r.pools.get other := by
  have evaluated := evaluateEvaluated r key order now
  generalize evaluateLatency r key order now = t at evaluated ⊢
  cases evaluated with
  | quiet => rfl
  | judged found baseline samples => exact Map.getInsertOther _ _ different

end

theorem touchWatched (r : Registry) (key : String) (now : Int) : (touch r key now).watched = r.watched := by
  apply Map.ext
  intro k
  simp only [Registry.watched, touch, Map.getMapValues, Map.getAdjust]
  split
  · cases r.pools.get k <;> rfl
  · rfl

theorem putWatched {r : Registry} {key : String} {p q : PoolEntry} (found : r.pools.get key = some p)
    (config : q.config = p.config) (addresses : ∀ addr, (q.endpoints.get addr).isSome = (p.endpoints.get addr).isSome) :
    (put r key q).watched = r.watched := by
  apply Map.ext
  intro k
  simp only [Registry.watched, put, Map.getMapValues, Map.getInsert]
  split
  · rename_i here
    subst here
    simp only [found, Option.map_some, config, addresses]
  · rfl

theorem recordWatched (r : Registry) (key addr : String) (success : Bool) (latency now : Int) :
    (record r key addr success latency now).2.watched = r.watched := by
  have touched := touchWatched r key now
  unfold record
  dsimp only
  split
  · rfl
  · split
    · exact touched
    · rename_i p found
      split
      · exact touched
      · split
        · exact touched
        · refine Eq.trans (putWatched found ?_ ?_) touched
          · rfl
          · exact fun a => Map.isSomeAdjust _ _ a _

theorem askEjectedWatched (r : Registry) (key addr : String) (now : Int) :
    (askEjected r key addr now).2.watched = r.watched := by
  unfold askEjected
  dsimp only
  split
  · rfl
  · exact touchWatched r key now

theorem judgedWatched (now baseline : Int) (samples : List (String × List Int)) (p : PoolEntry) :
    (samples.foldl (judge now baseline) p).config = p.config ∧
      ∀ addr, ((samples.foldl (judge now baseline) p).endpoints.get addr).isSome = (p.endpoints.get addr).isSome := by
  induction samples generalizing p with
  | nil => exact ⟨rfl,fun _ => rfl⟩
  | cons sample rest ih =>
    obtain ⟨config,addresses⟩ := ih (judge now baseline p sample)
    exact ⟨config,fun addr => (addresses addr).trans (Map.isSomeAdjust _ _ addr _)⟩

theorem evaluateLatencyWatched (r : Registry) (key : String) (order : List String) (now : Int) :
    (evaluateLatency r key order now).watched = r.watched := by
  have evaluated := evaluateEvaluated r key order now
  generalize evaluateLatency r key order now = t at evaluated ⊢
  cases evaluated with
  | quiet => rfl
  | @judged p found baseline samples =>
    obtain ⟨config,addresses⟩ := judgedWatched now baseline samples p
    exact putWatched found config addresses

theorem recordTold {r : Registry} {key addr : String} {p : PoolEntry} {e : EndpointState} (found : r.pools.get key = some p)
    (there : p.endpoints.get addr = some e) (on : p.config.enabled = true) (named : key ≠ "") (addressed : addr ≠ "")
    (success : Bool) (latency now : Int) :
    (record r key addr success latency now).1 = (told p.config success latency now e).1 ∧
      ((record r key addr success latency now).2.pools.get key).bind (fun q => q.endpoints.get addr) =
        some (told p.config success latency now e).2 := by
  have touched : (touch r key now).pools.get key = some { p with lastSeen := now } := by
    simp [touch,Map.getAdjust,found]
  unfold record
  simp [named,addressed,touched,there,on,put,PoolEntry.adjust,Map.getAdjust]

end ReverseProxy.OutlierDetection
