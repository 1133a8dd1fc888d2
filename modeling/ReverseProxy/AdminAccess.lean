import ReverseProxy.AdminApi
import ReverseProxy.AdminBlocks
import ReverseProxy.CacheKey
import ReverseProxy.Crew

/-! Package admin: the way into ServeHTTP. A request is let in by the rate limiter, its client
certificate and its token are checked, and what it came to is noted in the limiter. Requests
overlap: any others come between the two looks that one takes at the limiter. crypto/x509 is
a parameter. -/
namespace ReverseProxy.AdminAccess
open GoValues ListText
open AdminLimiter (RateLimiter RateLimitConfig FailureState SameSettings newRateLimiter clientIP allowAllowed performSettings)
open AdminApi (Handler)
open ApplyManager (Circumstance)
open CacheKey (TextTables spaces)
open ConfigData (Platform)
open SignedBundle (Library)
open Transition (Runs runAll runAllRuns)

/- `clientCAs` is cert.Verify against the pool for a certificate and its intermediates. -/
structure Authenticator (Cert : Type) where
  token : Bytes
  clientCAs : Option (Cert → List Cert → Bool) := none

structure Credentials (Cert : Type) where
  certificates : List Cert
  authorization : Bytes

def bearer : Bytes := encodeText "Bearer"

def bearerToken (text : TextTables) (header : Bytes) : Option Bytes :=
  if header = [] then none
  else match fields spaces header with
    | [scheme,token] => if text.equalFold scheme bearer then some token else none
    | _ => none

section
variable {Cert : Type}

def Authenticator.authenticate (text : TextTables) (a : Authenticator Cert) (c : Credentials Cert) : Option (Nat × String) :=
  match c.certificates with
  | [] => some (403,"client certificate required")
  | cert :: chain =>
    if a.clientCAs.any (fun verify => !verify cert chain) then some (403,"client certificate invalid")
    else match bearerToken text c.authorization with
      | none => some (401,"token required")
      | some token =>
        if token = [] then some (401,"token required")
        else if token ≠ a.token then some (401,"token invalid")
        else none

structure Door (Cert : Type) where
  handler : Handler
  auth : Authenticator Cert
  text : TextTables

structure Arrival (Cert : Type) where
  addr : Bytes
  credentials : Credentials Cert
  call : AdminApi.Request

/- A request that was let in; `judged` once its credentials are looked at and that is noted. -/
structure Visit (Cert : Type) where
  arrival : Arrival Cert
  judged : Bool

structure State (Cert : Type) where
  clock : Int
  limiter : RateLimiter
  visits : List (Visit Cert) := []
  api : AdminApi.State := {}

inductive Action (Cert : Type) where
  | arrive (a : Arrival Cert) (now : Int) (around : Circumstance)
  | judge (i : Nat) (now : Int) (around : Circumstance)
  | inner (a : AdminApi.Action)

section
variable (d : Door Cert) (platform : Platform) (lib : Library)

def Door.denied (a : Arrival Cert) : Option (Nat × String) := d.auth.authenticate d.text a.credentials

def Door.allow (l : RateLimiter) (addr : Bytes) (now : Int) : Bool × RateLimiter :=
  if d.handler.hasLimiter then l.allow addr now else (true,l)

def Door.note (l : RateLimiter) (a : Arrival Cert) (now : Int) : RateLimiter :=
  if d.handler.hasLimiter then
    match d.denied a with
    | some _ => l.recordFailure a.addr now
    | none => l.resetFailures a.addr
  else l

def arrive (c : Circumstance) (s : State Cert) (a : Arrival Cert) (now : Int) : State Cert :=
  let (allowed,limiter) := d.allow s.limiter a.addr now
  let s := { s with clock := now, limiter }
  if allowed && d.handler.hasAuth then { s with visits := s.visits ++ [⟨a,false⟩] }
  else { s with api := AdminApi.serveHTTP platform lib d.handler c s.api { a.call with allowed, denied := none } }

def judge (c : Circumstance) (s : State Cert) (i : Nat) (a : Arrival Cert) (now : Int) : State Cert where
  clock := now
  limiter := d.note s.limiter a now
  visits := s.visits.set i ⟨a,true⟩
  api := AdminApi.serveHTTP platform lib d.handler c s.api { a.call with allowed := true, denied := d.denied a }

def step (s : State Cert) : Action Cert → Option (State Cert)
  | .arrive a now c => if s.clock ≤ now then some (arrive d platform lib c s a now) else none
  | .judge i now c =>
    match s.visits[i]? with
    | some ⟨a,false⟩ => if s.clock ≤ now then some (judge d platform lib c s i a now) else none
    | _ => none
  | .inner (.request _ _) => none
  | .inner a => (AdminApi.step platform lib d.handler s.api a).map fun api => { s with api }

inductive Stepped (s : State Cert) : Action Cert → State Cert → Prop where
  | letIn {a now c} (later : s.clock ≤ now) (passed : (d.allow s.limiter a.addr now).1 = true) :
      Stepped s (.arrive a now c)
        { s with clock := now, limiter := (d.allow s.limiter a.addr now).2, visits := s.visits ++ [⟨a,false⟩] }
  | turned {a now c api} (later : s.clock ≤ now) :
      Stepped s (.arrive a now c) { s with clock := now, limiter := (d.allow s.limiter a.addr now).2, api }
  | judged {i a now c api} (found : s.visits[i]? = some ⟨a,false⟩) (later : s.clock ≤ now) :
      Stepped s (.judge i now c) ⟨now,d.note s.limiter a now,s.visits.set i ⟨a,true⟩,api⟩
  | inner {a api} : Stepped s (.inner a) { s with api }

end

theorem stepped {d : Door Cert} {platform : Platform} {lib : Library} {s t : State Cert} {a : Action Cert}
    (taken : step d platform lib s a = some t) : Stepped d s a t := by
  cases a with
  | arrive a now c =>
    simp only [step] at taken
    split at taken
    · rename_i later
      cases taken
      unfold arrive
      dsimp only
      split
      · rename_i passed
        exact .letIn later (Bool.and_eq_true_iff.mp passed).1
      · exact .turned later
    · cases taken
  | judge i now c =>
    simp only [step] at taken
    split at taken
    · rename_i found
      split at taken
      · rename_i later
        cases taken
        exact .judged found later
      · cases taken
    · cases taken
  | inner a =>
    cases a with
    | request r c => cases taken
    | _ =>
      simp only [step] at taken
      obtain ⟨api,-,rfl⟩ := Option.map_eq_some_iff.mp taken
      exact .inner

def Visit.of (ip : Bytes) (v : Visit Cert) : Bool := clientIP v.arrival.addr == ip

def Visit.open_ (ip : Bytes) (v : Visit Cert) : Bool := v.of ip && !v.judged

def guesses (ip : Bytes) (s : State Cert) : Nat := s.visits.countP (Visit.of ip)

def waiting (ip : Bytes) (s : State Cert) : Nat := s.visits.countP (Visit.open_ ip)

/- Where an IP stands after `n` guesses, `p` of which are not noted yet: it is not blocked before it has
`m` failures, and from then on each block is followed by the next failure that is noted. `fresh` are the
guesses since the last block began; up to `k` are let in between two blocks. -/
inductive Phase (m b k start n p now : Int) : FailureState → Prop where
  | counting {count : Int} (least : 0 ≤ count) (all : count + p = n) (few : count < m) : Phase m b k start n p now ⟨count,none⟩
  | blocking {count till blocks fresh : Int} (enough : m ≤ count) (counted : count + p ≤ n) (within : till ≤ now + b)
      (since : start + blocks * b ≤ till) (least : 0 ≤ fresh) (most : fresh ≤ p) (total : n ≤ m - 1 + k * blocks + fresh)
      (due : fresh = 0 ∨ till ≤ now) : Phase m b k start n p now ⟨count,some till⟩

section
variable {m b k start n p now at_ : Int} {f : FailureState}

theorem Phase.later (phase : Phase m b k start n p now f) (later : now ≤ at_) : Phase m b k start n p at_ f := by
  cases phase with
  | counting least all few => exact .counting least all few
  | blocking enough counted within since least most total due =>
    exact .blocking enough counted (by omega) since least most total (due.imp_right fun past => Int.le_trans past later)

theorem Phase.letIn (phase : Phase m b k start n p now f) (free : f.blocked now = false) :
    Phase m b k start (n + 1) (p + 1) now f := by
  cases phase with
  | counting least all few => exact .counting least (by omega) few
  | @blocking count till blocks fresh enough counted within since least most total due =>
    have past : till ≤ now := by simpa [FailureState.blocked] using free
    have total : n + 1 ≤ m - 1 + k * blocks + (fresh + 1) := by omega
    exact .blocking enough (by omega) within since (by omega) (by omega) total (.inr past)

theorem Phase.judged (phase : Phase m b k start n p now f) (some_ : 0 < m) (one : 0 < p) (room : p ≤ k) (begun : start ≤ now)
    (range : n < 2^63) : Phase m b k start n (p - 1) now (f.fail m b now) := by
  cases phase with
  | @counting count least all few =>
    have next : wrap64 (count + 1) = count + 1 := wrap64Same (by omega) (by omega)
    simp only [FailureState.fail, FailureState.blocked, Option.any_none, Bool.false_eq_true, if_false, next]
    split
    · have first : start + 1 * b ≤ now + b := by omega
      exact .blocking (by omega) (by omega) (Int.le_refl _) first (Int.le_refl 0) (by omega) (by omega) (.inl rfl)
    · exact .counting (by omega) (by omega) (by omega)
  | @blocking count till blocks fresh enough counted within since least most total due =>
    by_cases past : till ≤ now
    · have next : wrap64 (count + 1) = count + 1 := wrap64Same (by omega) (by omega)
      have since : start + (blocks + 1) * b ≤ now + b := by rw [Int.add_mul]; omega
      have total : n ≤ m - 1 + k * (blocks + 1) + 0 := by rw [Int.mul_add]; omega
      have free : ¬now < till := not_lt.mpr past
      simp only [FailureState.fail, FailureState.blocked, Option.any_some, free, decide_false, Bool.false_eq_true, if_false, next]
      rw [if_pos (by omega)]
      exact .blocking (by omega) (by omega) (Int.le_refl _) since (Int.le_refl 0) (by omega) total (.inl rfl)
    · have shut : now < till := not_le.mp past
      have none_ : fresh = 0 := due.resolve_right past
      simp only [FailureState.fail, FailureState.blocked, Option.any_some, shut, decide_true, if_true]
      exact .blocking enough (by omega) within since least (by omega) total due

theorem Phase.bound (phase : Phase m b k start n p now f) (room : p ≤ k) (waits : 0 ≤ b) (some_ : 0 ≤ k) (begun : start ≤ now) :
    (n - (m - 1) - k) * b ≤ k * (now - start) := by
  have early : 0 ≤ k * (now - start) := Int.mul_nonneg some_ (by omega)
  cases phase with
  | counting least all few =>
    exact Int.le_trans (Int.mul_nonpos_of_nonpos_of_nonneg (by omega) waits) early
  | @blocking count till blocks fresh enough counted within since least most total due =>
    -- A block whose successors are all let in is over; the last one may still be on.
    obtain ⟨whole,few,long⟩ : ∃ whole, n - (m - 1) - k ≤ k * whole ∧ whole * b ≤ now - start := by
      rcases due with none_ | past
      · exact ⟨blocks - 1,by rw [Int.mul_sub]; omega,by rw [Int.sub_mul]; omega⟩
      · exact ⟨blocks,by omega,by omega⟩
    calc (n - (m - 1) - k) * b ≤ k * whole * b := Int.mul_le_mul_of_nonneg_right few waits
      _ = k * (whole * b) := Int.mul_assoc ..
      _ ≤ k * (now - start) := Int.mul_le_mul_of_nonneg_left long some_

end

section
variable {d : Door Cert} {l : RateLimiter} {ip : Bytes}

theorem allowFailure (limits : d.handler.hasLimiter = true) (addr : Bytes) (now : Int) :
    SameSettings l (d.allow l addr now).2 ∧ (d.allow l addr now).2.failureOf ip = l.failureOf ip := by
  unfold Door.allow
  rw [if_pos limits]
  refine ⟨(allowAllowed l addr now).settings,?_⟩
  unfold RateLimiter.failureOf
  rw [(allowAllowed l addr now).failures]

theorem noteFailure (limits : d.handler.hasLimiter = true) {a : Arrival Cert} (now : Int)
    (wrong : clientIP a.addr = ip → d.denied a ≠ none) :
    SameSettings l (d.note l a now) ∧ (d.note l a now).failureOf ip =
      if clientIP a.addr = ip then (l.failureOf ip).fail l.maxFailures l.blockFor now else l.failureOf ip := by
  unfold Door.note
  rw [if_pos limits]
  split
  · have failed := AdminBlocks.performFailure l ⟨.recordFailure,a.addr,now⟩ ip
    refine ⟨performSettings l ⟨.recordFailure,a.addr,now⟩,failed.trans ?_⟩
    by_cases own : clientIP a.addr = ip
    · subst own
      rw [if_pos rfl, if_pos rfl]
      rfl
    · rw [if_neg (Ne.symm own), if_neg own]
  · rename_i passed
    have away : clientIP a.addr ≠ ip := fun own => wrong own passed
    rw [if_neg away]
    exact ⟨performSettings l ⟨.resetFailures,a.addr,now⟩,
      (AdminBlocks.performFailure l ⟨.resetFailures,a.addr,now⟩ ip).trans (if_neg (Ne.symm away))⟩

end

/- The IP never shows what it takes, and at most `k` of its requests are between the limiter's two looks. -/
def Guessing (d : Door Cert) (ip : Bytes) (k : Nat) (s : State Cert) : Action Cert → Prop
  | .arrive a _ _ => clientIP a.addr = ip → d.denied a ≠ none ∧ waiting ip s < k
  | _ => True

instance (d : Door Cert) (ip : Bytes) (k : Nat) (s : State Cert) (a : Action Cert) : Decidable (Guessing d ip k s a) :=
  match a with
  | .arrive a _ _ => inferInstanceAs (Decidable (clientIP a.addr = ip → d.denied a ≠ none ∧ waiting ip s < k))
  | .judge _ _ _ => .isTrue trivial
  | .inner _ => .isTrue trivial

structure Paced (d : Door Cert) (ip : Bytes) (k : Nat) (l : RateLimiter) (start : Int) (s : State Cert) : Prop where
  settings : SameSettings l s.limiter
  begun : start ≤ s.clock
  wrong : ∀ v ∈ s.visits, clientIP v.arrival.addr = ip → d.denied v.arrival ≠ none
  room : waiting ip s ≤ k
  phase : Phase l.maxFailures l.blockFor k start (guesses ip s) (waiting ip s) s.clock (s.limiter.failureOf ip)

section
variable {d : Door Cert} {ip : Bytes} {k : Nat} {l : RateLimiter} {start : Int} {s t : State Cert} {a : Action Cert}

theorem letInFree (limits : d.handler.hasLimiter = true) {addr : Bytes} {now : Int} (passed : (d.allow l addr now).1 = true) :
    (l.failureOf (clientIP addr)).blocked now = false := by
  unfold Door.allow at passed
  rw [if_pos limits] at passed
  rw [← AdminBlocks.blockedFailure]
  exact (allowAllowed l addr now).unblocked passed

theorem visitJoined (ip : Bytes) (visits : List (Visit Cert)) (a : Arrival Cert) :
    (visits ++ [(⟨a,false⟩ : Visit Cert)]).countP (Visit.of ip) = visits.countP (Visit.of ip) + (clientIP a.addr == ip).toNat ∧
    (visits ++ [(⟨a,false⟩ : Visit Cert)]).countP (Visit.open_ ip) =
      visits.countP (Visit.open_ ip) + (clientIP a.addr == ip).toNat := by
  rw [Crew.countJoin, Crew.countJoin, Visit.open_, Bool.not_false, Bool.and_true]
  exact ⟨rfl,rfl⟩

theorem visitJudged {visits : List (Visit Cert)} {i : Nat} {a : Arrival Cert} (found : visits[i]? = some ⟨a,false⟩) (ip : Bytes) :
    (visits.set i ⟨a,true⟩).countP (Visit.of ip) = visits.countP (Visit.of ip) ∧
    (visits.set i ⟨a,true⟩).countP (Visit.open_ ip) + (clientIP a.addr == ip).toNat = visits.countP (Visit.open_ ip) := by
  refine ⟨Crew.countSame _ found rfl,?_⟩
  have moved := Crew.countMove (Visit.open_ ip) found ⟨a,true⟩
  simpa [Visit.open_, Visit.of] using moved

theorem pacedStep (limits : d.handler.hasLimiter = true) (some_ : 0 < l.maxFailures) (paced : Paced d ip k l start s)
    (allowed : Guessing d ip k s a) (moved : Stepped d s a t) (few : (t.visits.length : Int) < 2^63) :
    Paced d ip k l start t := by
  obtain ⟨settings,begun,wrong,room,phase⟩ := paced
  cases moved with
  | @letIn a now c later passed =>
    obtain ⟨same,failure⟩ := @allowFailure _ d s.limiter ip limits a.addr now
    have denied : ∀ v ∈ s.visits ++ [⟨a,false⟩], clientIP v.arrival.addr = ip → d.denied v.arrival ≠ none := by
      intro v inside own
      rcases List.mem_append.mp inside with old | new
      · exact wrong v old own
      · cases List.mem_singleton.mp new
        exact (allowed own).1
    obtain ⟨all,open_⟩ := visitJoined ip s.visits a
    refine ⟨settings.trans same,Int.le_trans begun later,denied,?_,?_⟩
    all_goals by_cases own : clientIP a.addr = ip
    all_goals simp only [own, beq_self_eq_true, beq_false_of_ne, ne_eq, not_false_eq_true, Bool.toNat_true, Bool.toNat_false,
      Nat.add_zero] at all open_
    · exact open_.trans_le (allowed own).2
    · exact open_.trans_le room
    · rw [guesses, waiting, all, open_, failure]
      exact (phase.later later).letIn (own ▸ letInFree limits passed)
    · rw [guesses, waiting, all, open_, failure]
      exact phase.later later
  | @turned a now c api later =>
    obtain ⟨same,failure⟩ := @allowFailure _ d s.limiter ip limits a.addr now
    exact ⟨settings.trans same,Int.le_trans begun later,wrong,room,failure ▸ phase.later later⟩
  | @judged i a now c api found later =>
    have own := wrong _ (Crew.member found)
    obtain ⟨same,failure⟩ := @noteFailure _ d s.limiter ip limits a now own
    obtain ⟨all,open_⟩ := visitJudged found ip
    have denied : ∀ v ∈ s.visits.set i ⟨a,true⟩, clientIP v.arrival.addr = ip → d.denied v.arrival ≠ none := by
      intro v inside
      rcases List.mem_or_eq_of_mem_set inside with old | rfl
      · exact wrong v old
      · exact own
    have here : waiting ip s = (s.visits.set i ⟨a,true⟩).countP (Visit.open_ ip) + (clientIP a.addr == ip).toNat := open_.symm
    refine ⟨settings.trans same,Int.le_trans begun later,denied,Nat.le_trans (Nat.le.intro open_) room,?_⟩
    rw [guesses, waiting, all, failure]
    split
    · rename_i mine
      rw [mine, beq_self_eq_true, Bool.toNat_true] at here
      have less : (((s.visits.set i ⟨a,true⟩).countP (Visit.open_ ip) : Nat) : Int) = waiting ip s - 1 := by omega
      rw [less, settings.maxFailures, settings.blockFor]
      have range : guesses ip s ≤ s.visits.length := List.countP_le_length
      rw [List.length_set] at few
      exact (phase.later later).judged some_ (by omega) (by exact_mod_cast room) (Int.le_trans begun later) (by omega)
    · rename_i other
      rw [beq_false_of_ne other, Bool.toNat_false, Nat.add_zero] at here
      rw [← here]
      exact phase.later later
  | inner => exact ⟨settings,begun,wrong,room,phase⟩

theorem visitsGrow (moved : Stepped d s a t) : s.visits.length ≤ t.visits.length := by
  cases moved <;> simp

end

/- A client IP that has not both a certificate and the token gets so many guesses, however its requests
overlap and whatever else goes on. -/
theorem guessesPaced {d : Door Cert} {platform : Platform} {lib : Library} (limits : d.handler.hasLimiter = true)
    (cfg : RateLimitConfig) (ip : Bytes) (k : Nat) {start : Int} {api : AdminApi.State} {as : List (Action Cert)} {t : State Cert}
    (run : Runs (step d platform lib) (Guessing d ip k) ⟨start,newRateLimiter cfg,[],api⟩ as t)
    (few : (t.visits.length : Int) < 2^63) :
    ((guesses ip t : Int) - ((newRateLimiter cfg).maxFailures - 1) - k) * (newRateLimiter cfg).blockFor ≤ k * (t.clock - start) := by
  have some_ : 0 < (newRateLimiter cfg).maxFailures := AdminBlocks.orDefaultPositive cfg.maxFailures (by decide)
  have waits : (0 : Int) < (newRateLimiter cfg).blockFor := AdminBlocks.orDefaultPositive cfg.blockDuration (by decide)
  have paced := run.preserve (fun s => (s.visits.length : Int) < 2^63 → Paced d ip k (newRateLimiter cfg) start s)
    (fun s a u kept allowed taken short => by
      have grows := visitsGrow (stepped taken)
      exact pacedStep limits some_ (kept (by omega)) allowed (stepped taken) short)
    (fun _ => ⟨⟨rfl,rfl,rfl,rfl⟩,Int.le_refl _,fun v inside => (nomatch inside),Nat.zero_le k,
      .counting (Int.le_refl 0) rfl some_⟩) few
  exact paced.phase.bound (by exact_mod_cast paced.room) (Int.le_of_lt waits) (Int.natCast_nonneg k) paced.begun

/- Certificates are good or bad; the token is s3cret. -/
def sampleDoor : Door Bool := ⟨{},⟨encodeText "s3cret",some fun cert _ => cert⟩,TextTables.ascii⟩

def ask (host : UInt8) (cert : Bool) (token : String) : Arrival Bool where
  addr := [host,0x3A,0x31]
  credentials := ⟨[cert],bearer ++ 0x20 :: encodeText token⟩
  call := { path := "/admin/snapshot", method := "GET", body := none }

def statusOf : AdminApi.Exchange → Nat
  | .answered (.error status _) => status
  | _ => 0

/- Two overlapping guesses bring the block, a third request comes too early and a client with the right
credentials is not held up; two more guesses follow when the block is over. -/
def siege : List (Action Bool) :=
  [.arrive (ask 0x61 false "s3cret") 1 ApplyManager.calm,.arrive (ask 0x61 true "secret") 2 ApplyManager.calm,
    .judge 1 3 ApplyManager.calm,.judge 0 4 ApplyManager.calm,.arrive (ask 0x61 true "a") 5 ApplyManager.calm,
    .arrive (ask 0x62 true "s3cret") 6 ApplyManager.calm,.judge 2 7 ApplyManager.calm,
    .arrive (ask 0x61 true "b") (4 + 10 * minute) ApplyManager.calm,
    .arrive (ask 0x61 true "c") (4 + 10 * minute) ApplyManager.calm,.judge 3 (5 + 10 * minute) ApplyManager.calm]

theorem siegePaced : ∃ t, Runs (step sampleDoor AdminApi.signer AdminApi.keyring) (Guessing sampleDoor [0x61] 2)
      ⟨0,newRateLimiter { maxFailures := 2 },[],{}⟩ siege t ∧ guesses [0x61] t = 4 ∧
    t.api.exchanges.map statusOf = [401,403,429,404,401] ∧ (4 - (2 - 1) - 2) * (10 * minute) ≤ 2 * (t.clock - 0) := by
  have seen : (runAll (step sampleDoor AdminApi.signer AdminApi.keyring) (Guessing sampleDoor [0x61] 2)
      ⟨0,newRateLimiter { maxFailures := 2 },[],{}⟩ siege).map
        (fun t => (guesses [0x61] t,t.visits.length,t.api.exchanges.map statusOf)) = some (4,5,[401,403,429,404,401]) := by
    decide +kernel
  obtain ⟨t,ran,same⟩ := Option.map_eq_some_iff.mp seen
  obtain ⟨four,five,answers⟩ : guesses [0x61] t = 4 ∧ t.visits.length = 5 ∧
      t.api.exchanges.map statusOf = [401,403,429,404,401] := by simpa using same
  have paced := guessesPaced rfl { maxFailures := 2 } [0x61] 2 (runAllRuns ran) (by rw [five]; decide)
  rw [four] at paced
  exact ⟨t,runAllRuns ran,four,answers,paced⟩

end
end ReverseProxy.AdminAccess
