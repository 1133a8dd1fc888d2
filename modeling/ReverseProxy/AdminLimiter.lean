import Mathlib.Data.Rat.Cast.Order
import ReverseProxy.RetryExecute
import ReverseProxy.TokenBucket

/-! admin.RateLimiter: a token bucket and a failure count for each client IP. The float64
arithmetic of the tokens is exact here. An operation is one step under the lock, at the
time it read before. -/
namespace ReverseProxy.AdminLimiter
open GoValues FiniteMap TokenBucket
open RequestIntake (hostOf)
open RetryExecute (elapsed timeSub)

structure RateLimitConfig where
  rps : Int := 0
  burst : Int := 0
  maxFailures : Int := 0
  blockDuration : Duration := 0

structure BucketState where
  remaining : Rat
  last : Int

/- `blockedTill` is none for the zero time. -/
structure FailureState where
  count : Int := 0
  blockedTill : Option Int := none

structure RateLimiter where
  buckets : Map Bytes BucketState := Map.empty
  failures : Map Bytes FailureState := Map.empty
  rate : Rat
  burst : Rat
  maxFailures : Int
  blockFor : Duration

def orDefault (value fallback : Int) : Int := if value ≤ 0 then fallback else value

def newRateLimiter (cfg : RateLimitConfig) : RateLimiter where
  rate := orDefault cfg.rps 5
  burst := orDefault cfg.burst 10
  maxFailures := orDefault cfg.maxFailures 20
  blockFor := orDefault cfg.blockDuration (10 * minute)

def clientIP (addr : Bytes) : Bytes := hostOf addr

def minFloat (a b : Rat) : Rat := if a < b then a else b

namespace FailureState

def blocked (f : FailureState) (now : Int) : Bool := f.blockedTill.any (fun till => decide (now < till))

def fail (f : FailureState) (maxFailures : Int) (blockFor : Duration) (now : Int) : FailureState :=
  if f.blocked now then f
  else
    let count := wrap64 (f.count + 1)
    ⟨count,if maxFailures ≤ count then some (now + blockFor) else f.blockedTill⟩

end FailureState

namespace RateLimiter

def blocked (l : RateLimiter) (ip : Bytes) (now : Int) : Bool := (l.failures.get ip).any (fun f => f.blocked now)

def bucketOf (l : RateLimiter) (ip : Bytes) (now : Int) : BucketState := (l.buckets.get ip).getD ⟨l.burst,now⟩

def refilled (l : RateLimiter) (b : BucketState) (now : Int) : Rat :=
  minFloat l.burst (b.remaining + (timeSub now b.last : Rat) / 1000000000 * l.rate)

def allow (l : RateLimiter) (addr : Bytes) (now : Int) : Bool × RateLimiter :=
  let ip := clientIP addr
  if l.blocked ip now then (false,l)
  else
    let remaining := l.refilled (l.bucketOf ip now) now
    if remaining < 1 then (false,{ l with buckets := l.buckets.insert ip ⟨remaining,now⟩ })
    else (true,{ l with buckets := l.buckets.insert ip ⟨remaining - 1,now⟩ })

def failureOf (l : RateLimiter) (ip : Bytes) : FailureState := (l.failures.get ip).getD {}

def recordFailure (l : RateLimiter) (addr : Bytes) (now : Int) : RateLimiter :=
  let state := l.failureOf (clientIP addr)
  { l with failures := l.failures.insert (clientIP addr) (state.fail l.maxFailures l.blockFor now) }

def resetFailures (l : RateLimiter) (addr : Bytes) : RateLimiter :=
  { l with failures := l.failures.adjust (clientIP addr) (fun state => { state with count := 0 }) }

end RateLimiter

inductive Operation where
  | allow
  | recordFailure
  | resetFailures
  deriving DecidableEq, Repr

structure Call where
  operation : Operation
  addr : Bytes
  now : Int

def perform (l : RateLimiter) (c : Call) : Bool × RateLimiter :=
  match c.operation with
  | .allow => l.allow c.addr c.now
  | .recordFailure => (false,l.recordFailure c.addr c.now)
  | .resetFailures => (false,l.resetFailures c.addr)

structure Note where
  operation : Operation
  ip : Bytes
  now : Int
  blocked : Bool
  allowed : Bool
  starts : Bool

def noteOf (l : RateLimiter) (c : Call) : Note where
  operation := c.operation
  ip := clientIP c.addr
  now := c.now
  blocked := l.blocked (clientIP c.addr) c.now
  allowed := (perform l c).1
  starts := !l.blocked (clientIP c.addr) c.now && (perform l c).2.blocked (clientIP c.addr) c.now

def run (l : RateLimiter) (calls : List Call) : RateLimiter := calls.foldl (fun l c => (perform l c).2) l

def notes (l : RateLimiter) : List Call → List Note
  | [] => []
  | c :: rest => noteOf l c :: notes (perform l c).2 rest

def logOf (ip : Bytes) (ns : List Note) : List (Rat × Bool) :=
  (ns.filter (fun n => n.ip = ip)).map (fun n => ((n.now : Rat),n.allowed))

def seen (l : RateLimiter) (ip : Bytes) : Option (Bucket Rat) := (l.buckets.get ip).map (fun b => ⟨b.remaining,b.last⟩)

structure Sound (l : RateLimiter) (c : Int) : Prop where
  rate : 0 ≤ l.rate
  burst : 0 ≤ l.burst
  buckets : ∀ ip b, l.buckets.get ip = some b → 0 ≤ b.remaining ∧ b.last ≤ c

theorem minFloatMin (a b : Rat) : minFloat a b = min a b := by
  unfold minFloat
  grind

section
variable {l : RateLimiter} {c now : Int}

theorem Sound.bucketOf (sound : Sound l c) (later : c ≤ now) (ip : Bytes) :
    0 ≤ (l.bucketOf ip now).remaining ∧ (l.bucketOf ip now).last ≤ now := by
  unfold RateLimiter.bucketOf
  cases found : l.buckets.get ip with
  | none => exact ⟨sound.burst,Int.le_refl now⟩
  | some b =>
    obtain ⟨left,before⟩ := sound.buckets ip b found
    exact ⟨left,Int.le_trans before later⟩

theorem Sound.refilled (sound : Sound l c) (later : c ≤ now) (ip : Bytes) : 0 ≤ l.refilled (l.bucketOf ip now) now := by
  obtain ⟨left,before⟩ := sound.bucketOf later ip
  have flow : (0 : Rat) ≤ timeSub now (l.bucketOf ip now).last := by exact_mod_cast (elapsed before).1
  unfold RateLimiter.refilled
  rw [minFloatMin]
  exact le_min sound.burst (add_nonneg left (mul_nonneg (div_nonneg flow (by norm_num)) sound.rate))

theorem Sound.refilledAvailable (sound : Sound l c) (later : c ≤ now) (ip : Bytes) :
    l.refilled (l.bucketOf ip now) now ≤ available l.burst (l.rate / 1000000000) now (seen l ip) := by
  unfold RateLimiter.refilled
  rw [minFloatMin]
  cases found : l.buckets.get ip with
  | none =>
    rw [seen,found]
    exact min_le_left _ _
  | some b =>
    have before := (sound.buckets ip b found).2
    have most : (timeSub now b.last : Rat) ≤ now - b.last := by exact_mod_cast (elapsed (Int.le_trans before later)).2.1
    have flow := mul_le_mul_of_nonneg_right most (div_nonneg sound.rate (show (0 : Rat) ≤ 1000000000 by norm_num))
    have own : l.bucketOf ip now = b := by rw [RateLimiter.bucketOf,found]; rfl
    rw [seen,found,own]
    refine min_le_min_left _ ?_
    have terms : (timeSub now b.last : Rat) / 1000000000 * l.rate = timeSub now b.last * (l.rate / 1000000000) := by ring
    rw [terms]
    linarith

inductive Allowed (l : RateLimiter) (ip : Bytes) (now : Int) : Bool → RateLimiter → Prop where
  | blocked (block : l.blocked ip now = true) : Allowed l ip now false l
  | short (open_ : l.blocked ip now = false) (few : l.refilled (l.bucketOf ip now) now < 1) :
      Allowed l ip now false { l with buckets := l.buckets.insert ip ⟨l.refilled (l.bucketOf ip now) now,now⟩ }
  | served (open_ : l.blocked ip now = false) (enough : 1 ≤ l.refilled (l.bucketOf ip now) now) :
      Allowed l ip now true { l with buckets := l.buckets.insert ip ⟨l.refilled (l.bucketOf ip now) now - 1,now⟩ }

theorem allowAllowed (l : RateLimiter) (addr : Bytes) (now : Int) :
    Allowed l (clientIP addr) now (l.allow addr now).1 (l.allow addr now).2 := by
  unfold RateLimiter.allow
  dsimp only
  split
  · rename_i block
    exact .blocked block
  · rename_i open_
    split
    · rename_i few
      exact .short (Bool.eq_false_iff.mpr open_) few
    · rename_i enough
      exact .served (Bool.eq_false_iff.mpr open_) (not_lt.mp enough)

theorem Sound.put (sound : Sound l c) (later : c ≤ now) (ip : Bytes) {remaining : Rat} (left : 0 ≤ remaining) :
    Sound { l with buckets := l.buckets.insert ip ⟨remaining,now⟩ } now := by
  refine ⟨sound.rate,sound.burst,?_⟩
  intro other b found
  rw [Map.getInsert] at found
  split at found
  · cases found
    exact ⟨left,Int.le_refl now⟩
  · obtain ⟨kept,before⟩ := sound.buckets other b found
    exact ⟨kept,Int.le_trans before later⟩

theorem Sound.later (sound : Sound l c) (later : c ≤ now) : Sound l now :=
  ⟨sound.rate,sound.burst,fun ip b found => ⟨(sound.buckets ip b found).1,Int.le_trans (sound.buckets ip b found).2 later⟩⟩

theorem Sound.allow {ip : Bytes} {answer : Bool} {next : RateLimiter} (sound : Sound l c) (later : c ≤ now)
    (allowed : Allowed l ip now answer next) : Sound next now := by
  have filled := sound.refilled later ip
  cases allowed with
  | blocked block => exact sound.later later
  | short open_ few => exact sound.put later ip filled
  | served open_ enough => exact sound.put later ip (by linarith)

theorem Sound.perform (sound : Sound l c) {call : Call} (later : c ≤ call.now) : Sound (perform l call).2 call.now := by
  unfold AdminLimiter.perform
  cases call.operation with
  | allow => exact sound.allow later (allowAllowed l call.addr call.now)
  | recordFailure =>
    have kept := sound.later later
    exact ⟨kept.rate,kept.burst,kept.buckets⟩
  | resetFailures =>
    have kept := sound.later later
    exact ⟨kept.rate,kept.burst,kept.buckets⟩

structure SameSettings (l next : RateLimiter) : Prop where
  rate : next.rate = l.rate
  burst : next.burst = l.burst
  maxFailures : next.maxFailures = l.maxFailures
  blockFor : next.blockFor = l.blockFor

theorem SameSettings.trans {next last : RateLimiter} (first : SameSettings l next) (second : SameSettings next last) :
    SameSettings l last :=
  ⟨second.rate.trans first.rate,second.burst.trans first.burst,second.maxFailures.trans first.maxFailures,
    second.blockFor.trans first.blockFor⟩

theorem Allowed.settings {ip : Bytes} {answer : Bool} {next : RateLimiter} (allowed : Allowed l ip now answer next) :
    SameSettings l next := by
  cases allowed <;> exact ⟨rfl,rfl,rfl,rfl⟩

theorem Allowed.failures {ip : Bytes} {answer : Bool} {next : RateLimiter} (allowed : Allowed l ip now answer next) :
    next.failures = l.failures := by
  cases allowed <;> rfl

theorem performSettings (l : RateLimiter) (call : Call) : SameSettings l (perform l call).2 := by
  unfold perform
  cases call.operation with
  | allow => exact (allowAllowed l call.addr call.now).settings
  | recordFailure => exact ⟨rfl,rfl,rfl,rfl⟩
  | resetFailures => exact ⟨rfl,rfl,rfl,rfl⟩

theorem Allowed.unblocked {ip : Bytes} {answer : Bool} {next : RateLimiter} (allowed : Allowed l ip now answer next)
    (served : answer = true) : l.blocked ip now = false := by
  cases allowed with
  | blocked block => cases served
  | short open_ few => cases served
  | served open_ enough => exact open_

theorem Allowed.others {ip other : Bytes} {answer : Bool} {next : RateLimiter} (allowed : Allowed l ip now answer next)
    (differ : other ≠ ip) : seen next other = seen l other := by
  cases allowed with
  | blocked block => rfl
  | short open_ few => rw [seen,Map.getInsertOther _ _ differ,seen]
  | served open_ enough => rw [seen,Map.getInsertOther _ _ differ,seen]

theorem Allowed.serves {ip : Bytes} {answer : Bool} {next : RateLimiter} (allowed : Allowed l ip now answer next)
    (sound : Sound l c) (later : c ≤ now) {log : List (Rat × Bool)}
    (tail : Serves l.burst (l.rate / 1000000000) (seen next ip) log) :
    Serves l.burst (l.rate / 1000000000) (seen l ip) (((now : Rat),answer) :: log) := by
  have filled := sound.refilled later ip
  have most := sound.refilledAvailable later ip
  cases allowed with
  | blocked block => exact .idle tail
  | short open_ few =>
    rw [seen,Map.getInsertSame] at tail
    exact Serves.ask filled (by simpa using most) tail
  | served open_ enough =>
    rw [seen,Map.getInsertSame] at tail
    exact Serves.ask (sub_nonneg.mpr enough) (by simpa using most) tail

theorem performServes (sound : Sound l c) {call : Call} (later : c ≤ call.now) (ip : Bytes) {log : List (Rat × Bool)}
    (tail : Serves l.burst (l.rate / 1000000000) (seen (perform l call).2 ip) log) :
    Serves l.burst (l.rate / 1000000000) (seen l ip)
      (if clientIP call.addr = ip then ((call.now : Rat),(perform l call).1) :: log else log) := by
  unfold perform at tail ⊢
  cases operation : call.operation with
  | allow =>
    rw [operation] at tail
    split
    · rename_i own
      subst own
      exact (allowAllowed l call.addr call.now).serves sound later tail
    · rename_i other
      rwa [(allowAllowed l call.addr call.now).others (Ne.symm other)] at tail
  | recordFailure =>
    rw [operation] at tail
    split
    · exact .idle tail
    · exact tail
  | resetFailures =>
    rw [operation] at tail
    split
    · exact .idle tail
    · exact tail

theorem logOfCons (ip : Bytes) (n : Note) (ns : List Note) :
    logOf ip (n :: ns) = if n.ip = ip then ((n.now : Rat),n.allowed) :: logOf ip ns else logOf ip ns := by
  unfold logOf
  rw [List.filter_cons]
  split <;> simp_all

theorem notesServe (ip : Bytes) {calls : List Call} (clock : calls.Pairwise (fun a b => a.now ≤ b.now)) (sound : Sound l c)
    (later : ∀ call ∈ calls, c ≤ call.now) :
    Serves l.burst (l.rate / 1000000000) (seen l ip) (logOf ip (notes l calls)) := by
  induction calls generalizing l c with
  | nil => exact .nil _
  | cons call rest ih =>
    obtain ⟨first,ordered⟩ := List.pairwise_cons.mp clock
    have now := later call (List.mem_cons_self ..)
    have tail := ih ordered (sound.perform now) first
    rw [(performSettings l call).rate,(performSettings l call).burst] at tail
    rw [notes,logOfCons]
    exact performServes sound now ip tail

theorem notesClock {calls : List Call} (clock : calls.Pairwise (fun a b => a.now ≤ b.now)) (l : RateLimiter) :
    (notes l calls).Pairwise (fun a b => a.now ≤ b.now) := by
  have times : (notes l calls).map Note.now = calls.map Call.now := by
    clear clock
    induction calls generalizing l with
    | nil => rfl
    | cons call rest ih => rw [notes,List.map_cons,ih,List.map_cons]; rfl
  rw [← List.pairwise_map (f := Note.now) (R := (· ≤ ·)),times]
  exact List.pairwise_map.mpr clock

theorem servedCount (ip : Bytes) (s t : Int) (ns : List Note) :
    served (s : Rat) t (logOf ip ns) = ns.countP (fun n => n.ip = ip ∧ n.allowed = true ∧ s ≤ n.now ∧ n.now ≤ t) := by
  unfold served logOf
  rw [List.countP_map,List.countP_filter]
  refine List.countP_congr (fun n _ => ?_)
  simp only [Function.comp_apply,Bool.and_eq_true,decide_eq_true_eq,Int.cast_le]
  tauto

theorem allowedWithin {calls : List Call} (clock : calls.Pairwise (fun a b => a.now ≤ b.now)) (sound : Sound l c)
    (later : ∀ call ∈ calls, c ≤ call.now) (fresh : ∀ ip, l.buckets.get ip = none) (ip : Bytes) {s t : Int} (within : s ≤ t) :
    ((notes l calls).countP (fun n => n.ip = ip ∧ n.allowed = true ∧ s ≤ n.now ∧ n.now ≤ t) : Rat) ≤
      l.burst + l.rate * ((t - s : Int) / 1000000000) := by
  have serves := notesServe ip clock sound later
  have ordered : (logOf ip (notes l calls)).Pairwise (fun x y => x.1 ≤ y.1) := by
    refine List.pairwise_map.mpr (((notesClock clock l).filter _).imp ?_)
    intro a b before
    change (a.now : Rat) ≤ b.now
    exact_mod_cast before
  have unused : seen l ip = none := by rw [seen,fresh]; rfl
  have flows : 0 ≤ l.rate / 1000000000 := div_nonneg sound.rate (by norm_num)
  have bound := servedWithin (s := (s : Rat)) (t := t) flows sound.burst serves ordered
    (by rw [unused]; simp [Settled]) (by exact_mod_cast within)
  rw [servedCount] at bound
  have terms : l.rate * ((t - s : Int) / 1000000000) = l.rate / 1000000000 * (t - s) := by
    push_cast
    ring
  rw [terms]
  exact bound

theorem clockStart {calls : List Call} (clock : calls.Pairwise (fun a b => a.now ≤ b.now)) :
    ∃ c, ∀ call ∈ calls, c ≤ call.now := by
  cases calls with
  | nil => exact ⟨0,by simp⟩
  | cons call rest =>
    refine ⟨call.now,fun other inside => ?_⟩
    rcases List.mem_cons.mp inside with rfl | later
    · exact Int.le_refl _
    · exact (List.pairwise_cons.mp clock).1 other later

end

end ReverseProxy.AdminLimiter
