import ReverseProxy.OutlierDetection
import ReverseProxy.RingWrites

/-! The latencies an endpoint is judged by. The window overwrites its ring in place and a
snapshot reads the ring by position; whatever the order, it has the last latencies and
nothing else. A new config keeps them while detection stays on with the same size. -/
namespace ReverseProxy.LatencySamples
open OutlierRegistry OutlierDetection RingWrites
open PolicyBuild (Outlier)

def recordAll (w : LatencyWindow) (latencies : List Int) : LatencyWindow := latencies.foldl windowRecord w

theorem recordAllWrites (w : LatencyWindow) (latencies : List Int) :
    ((recordAll w latencies).ring,(recordAll w latencies).idx) = writes (w.ring,w.idx) latencies := by
  induction latencies generalizing w with
  | nil => rfl
  | cons latency rest ih => exact ih (windowRecord w latency)

theorem recordAllCount {w : LatencyWindow} (within : w.count ≤ w.ring.length) (latencies : List Int) :
    (recordAll w latencies).count = min (w.count + latencies.length) w.ring.length := by
  induction latencies generalizing w with
  | nil => exact (Nat.min_eq_left within).symm
  | cons latency rest ih =>
    have size : (windowRecord w latency).ring.length = w.ring.length := List.length_set ..
    have count : (windowRecord w latency).count = min (w.count + 1) w.ring.length := by
      unfold windowRecord
      dsimp only
      split <;> omega
    refine (ih (w := windowRecord w latency) (by omega)).trans ?_
    rw [size,count,List.length_cons]
    omega

section
variable {size : Int} (positive : 1 ≤ size) (latencies : List Int)
include positive

theorem newRing : (newLatencyWindow size).ring = List.replicate size.toNat 0 := by
  have whole : windowSize size = size.toNat := if_neg (by omega)
  change List.replicate (windowSize size) 0 = _
  rw [whole]

theorem recordAllRing :
    ((recordAll (newLatencyWindow size) latencies).ring,(recordAll (newLatencyWindow size) latencies).idx) =
      writes (List.replicate size.toNat 0,0) latencies := by
  rw [recordAllWrites,newRing positive]
  rfl

theorem recordAllLength : (recordAll (newLatencyWindow size) latencies).ring.length = size.toNat := by
  have length := writesLength (List.replicate size.toNat (0 : Int),0) latencies
  rwa [← recordAllRing positive,List.length_replicate] at length

theorem snapshotLast :
    (windowSnapshot (recordAll (newLatencyWindow size) latencies)).Perm (latencies.rtake (min latencies.length size.toNat)) := by
  have count := recordAllCount (w := newLatencyWindow size) (Nat.zero_le _) latencies
  have held := freshHolds (n := size.toNat) (by omega) (0 : Int) latencies
  rw [newRing positive,List.length_replicate] at count
  rw [← recordAllRing positive] at held
  unfold windowSnapshot
  rw [count]
  simpa [newLatencyWindow] using held

theorem indexWithin :
    (recordAll (newLatencyWindow size) latencies).idx < (recordAll (newLatencyWindow size) latencies).ring.length := by
  have inside := writesInside (r := (List.replicate size.toNat (0 : Int),0)) (by rw [List.length_replicate]; omega) latencies
  rwa [← recordAllRing positive] at inside

end

theorem updateKeeps {e : EndpointState} {w : LatencyWindow} {cfg : Outlier} (window : e.latencyWindow = some w)
    (enabled : cfg.latencyEnabled = true) (unchanged : cfg.latencyWindowSize = w.ring.length) : e.updateConfig cfg = e := by
  have fit : e.latencyWindow.any (EndpointState.fits cfg) = true := by
    simp [window,EndpointState.fits,unchanged]
  unfold EndpointState.updateConfig
  rw [if_pos enabled,if_pos fit]

theorem samplesKept {size : Int} (positive : 1 ≤ size) (latencies : List Int) {w : LatencyWindow}
    (recorded : w = recordAll (newLatencyWindow size) latencies) :
    (windowSnapshot w).Perm (latencies.rtake (min latencies.length size.toNat)) ∧ w.idx < w.ring.length ∧
    ∀ (e : EndpointState) (cfg : Outlier), e.latencyWindow = some w → cfg.latencyWindowSize = size →
      cfg.latencyEnabled = true → (e.updateConfig cfg).latencyWindow = some w := by
  subst recorded
  refine ⟨snapshotLast positive latencies,indexWithin positive latencies,?_⟩
  intro e cfg window unchanged enabled
  have length := recordAllLength positive latencies
  rw [updateKeeps window enabled (by omega),window]

def watching : Outlier := PolicyBuild.outlierFromConfig { enabled := true, latencyEnabled := true, latencyWindowSize := 2 }

theorem lastTwoKept :
    (windowSnapshot (recordAll (newLatencyWindow 2) [5,6,7])).Perm [6,7] ∧
    (EndpointState.updateConfig { latencyWindow := some (recordAll (newLatencyWindow 2) [5,6,7]) } watching).latencyWindow =
      some (recordAll (newLatencyWindow 2) [5,6,7]) := by
  obtain ⟨last,-,kept⟩ := samplesKept (show (1 : Int) ≤ 2 by decide) [5,6,7] rfl
  exact ⟨last,kept _ watching rfl rfl rfl⟩

theorem sampleDropped :
    watching.latencyWindowSize = 2 ∧ { watching with latencyEnabled := false }.latencyWindowSize = 2 ∧
    (recordLatency (.new watching) 5).latencyWindow = some (recordAll (newLatencyWindow 2) [5]) ∧
    ((recordLatency (.new watching) 5).updateConfig { watching with latencyEnabled := false }).latencyWindow = none := by
  exact ⟨rfl,rfl,rfl,rfl⟩

end ReverseProxy.LatencySamples
