import ReverseProxy.Binary64
import ReverseProxy.Crew
import ReverseProxy.RetryExecute
import ReverseProxy.Tally

/-! traffic.Stats, the counts behind automatic drains: a ring of buckets that readers and
writers rotate to their own time. Times count nanoseconds; `none` is the zero time, which
no clock reads. -/
namespace ReverseProxy.TrafficStats
open GoValues Binary64 Tally
open RequestIntake (Variant)
open RetryExecute (timeSub)

structure Bucket where
  start : Option Int := none
  stableReq : Nat := 0
  stableErr : Nat := 0
  canaryReq : Nat := 0
  canaryErr : Nat := 0
  deriving DecidableEq, Repr

structure WindowTotals where
  stableReq : Nat := 0
  stableErr : Nat := 0
  canaryReq : Nat := 0
  canaryErr : Nat := 0
  deriving DecidableEq, Repr

structure Stats where
  buckets : List Bucket
  bucketDuration : Duration
  window : Duration
  current : Nat := 0
  currentStart : Option Int := none
  inside : current < buckets.length

def bucketDuration (window : Duration) : Duration := if window < second then window else second

/- float64(window) / float64(bucketDuration) -/
def quotient (window : Duration) : Rat := float64 (float64 window / float64 (bucketDuration window))

def bucketCount (window : Duration) : Int := if (quotient window).ceil < 1 then 1 else (quotient window).ceil

theorem bucketCountPositive (window : Duration) : 1 ≤ bucketCount window := by
  unfold bucketCount
  split <;> omega

def newStats (window : Duration) : Stats :=
  let window := if window ≤ 0 then minute else window
  { buckets := List.replicate (bucketCount window).toNat {}
    bucketDuration := bucketDuration window
    window := window
    inside := by
      have one := bucketCountPositive window
      rw [List.length_replicate]
      omega }

section
variable (s : Stats)

theorem nextInside (bucket : Bucket) :
    (s.current + 1) % s.buckets.length < (s.buckets.set ((s.current + 1) % s.buckets.length) bucket).length := by
  rw [List.length_set]
  exact Nat.mod_lt _ (Nat.lt_of_le_of_lt (Nat.zero_le _) s.inside)

def advance (start : Int) (i : Nat) : Stats :=
  { s with
    current := (s.current + 1) % s.buckets.length
    buckets := s.buckets.set ((s.current + 1) % s.buckets.length) { start := some (start + wrap64 (s.bucketDuration * (i + 1))) }
    inside := nextInside s _ }

def advances (start : Int) : Nat → Stats
  | 0 => s
  | steps + 1 => advance (advances start steps) start steps

def change (f : Bucket → Bucket) : Stats :=
  { s with
    buckets := s.buckets.modify s.current f
    inside := by
      rw [List.length_modify]
      exact s.inside }

def reset (now : Int) : Stats :=
  { s with
    buckets := (List.replicate s.buckets.length {}).set 0 { start := some now }
    current := 0
    currentStart := some now
    inside := by
      rw [List.length_set, List.length_replicate]
      exact Nat.lt_of_le_of_lt (Nat.zero_le _) s.inside }

def rotateLocked (now : Int) : Stats :=
  match s.currentStart with
  | none => { change s (fun b => { b with start := some now }) with currentStart := some now }
  | some start =>
    if timeSub now start < s.bucketDuration then s
    else
      let steps := Int.tdiv (timeSub now start) s.bucketDuration
      if s.buckets.length ≤ steps then reset s now
      else { advances s start steps.toNat with currentStart := some (start + wrap64 (s.bucketDuration * steps)) }

end

structure Event where
  time : Int
  variant : Variant
  status : Int
  proxyError : Bool
  deriving DecidableEq, Repr

def Event.isError (e : Event) : Bool := e.proxyError || decide (500 ≤ e.status)

def counted (e : Event) (b : Bucket) : Bucket :=
  match e.variant with
  | .canary => { b with canaryReq := b.canaryReq + 1, canaryErr := if e.isError then b.canaryErr + 1 else b.canaryErr }
  | .stable => { b with stableReq := b.stableReq + 1, stableErr := if e.isError then b.stableErr + 1 else b.stableErr }

def record (s : Stats) (e : Event) : Stats := change (rotateLocked s e.time) (counted e)

def fresh (cutoff : Int) (b : Bucket) : Bool := b.start.any (fun start => decide (cutoff ≤ start))

def addUp (cutoff : Int) (totals : WindowTotals) (b : Bucket) : WindowTotals :=
  if fresh cutoff b then
    ⟨totals.stableReq + b.stableReq,totals.stableErr + b.stableErr,totals.canaryReq + b.canaryReq,totals.canaryErr + b.canaryErr⟩
  else totals

def windowTotals (s : Stats) (now : Int) : WindowTotals × Stats :=
  let s := rotateLocked s now
  (s.buckets.foldl (addUp (now - s.window)) {},s)

inductive Column where
  | stableReq
  | stableErr
  | canaryReq
  | canaryErr

def Column.total : Column → WindowTotals → Nat
  | .stableReq => WindowTotals.stableReq
  | .stableErr => WindowTotals.stableErr
  | .canaryReq => WindowTotals.canaryReq
  | .canaryErr => WindowTotals.canaryErr

def Column.count : Column → Bucket → Nat
  | .stableReq => Bucket.stableReq
  | .stableErr => Bucket.stableErr
  | .canaryReq => Bucket.canaryReq
  | .canaryErr => Bucket.canaryErr

def Column.has : Column → Event → Bool
  | .stableReq => fun e => e.variant == .stable
  | .stableErr => fun e => e.variant == .stable && e.isError
  | .canaryReq => fun e => e.variant == .canary
  | .canaryErr => fun e => e.variant == .canary && e.isError

theorem countCounted (column : Column) (e : Event) (b : Bucket) :
    column.count (counted e b) = column.count b + (column.has e).toNat := by
  unfold counted
  cases same : e.variant with
  | canary => cases error : e.isError <;> cases column <;> simp [Column.count,Column.has,same,error]
  | stable => cases error : e.isError <;> cases column <;> simp [Column.count,Column.has,same,error]

theorem countedStart (e : Event) (b : Bucket) : (counted e b).start = b.start := by
  unfold counted
  split <;> rfl

theorem foldTotal (column : Column) (cutoff : Int) (buckets : List Bucket) (totals : WindowTotals) :
    column.total (buckets.foldl (addUp cutoff) totals) =
      column.total totals + total (fun b => if fresh cutoff b then column.count b else 0) buckets := by
  induction buckets generalizing totals with
  | nil => rfl
  | cons b rest ih =>
    rw [List.foldl_cons, ih, total]
    unfold addUp
    cases fresh cutoff b with
    | false => simp
    | true => cases column <;> simp [Column.total,Column.count,Nat.add_assoc]

end ReverseProxy.TrafficStats
