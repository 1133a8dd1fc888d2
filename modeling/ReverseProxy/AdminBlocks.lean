import ReverseProxy.AdminLimiter

/-! The blocks of the admin limiter. The failure count of an IP is never above the
failures it had unblocked since it last had a success, and a block that was started keeps
the IP out to its end. -/
namespace ReverseProxy.AdminBlocks
open GoValues FiniteMap AdminLimiter

def sinceReset (ip : Bytes) (ns : List Note) : List Note :=
  ns.reverse.takeWhile (fun n => !(n.ip == ip && n.operation == .resetFailures))

def failuresOf (ip : Bytes) (ns : List Note) : Nat :=
  (sinceReset ip ns).countP (fun n => n.ip == ip && n.operation == .recordFailure && !n.blocked)

section
variable {l : RateLimiter} {ip : Bytes} {call : Call} {ns : List Note} {n : Note}

theorem runLast (l : RateLimiter) (calls : List Call) (call : Call) :
    run l (calls ++ [call]) = (perform (run l calls) call).2 :=
  List.foldl_concat ..

theorem notesLast (calls : List Call) (call : Call) (l : RateLimiter) :
    notes l (calls ++ [call]) = notes l calls ++ [noteOf (run l calls) call] := by
  induction calls generalizing l with
  | nil => rfl
  | cons first rest ih => rw [List.cons_append,notes,ih,notes,List.cons_append]; rfl

theorem noteTaken {calls : List Call} {before after : List Note} (whole : notes l calls = before ++ n :: after) :
    ∃ early call late, calls = early ++ call :: late ∧ before = notes l early ∧ n = noteOf (run l early) call := by
  induction calls generalizing l before with
  | nil => cases before <;> cases whole
  | cons first rest ih =>
    cases before with
    | nil =>
      obtain ⟨rfl,-⟩ := List.cons_eq_cons.mp whole
      exact ⟨[],first,rest,rfl,rfl,rfl⟩
    | cons m before =>
      obtain ⟨rfl,later⟩ := List.cons_eq_cons.mp whole
      obtain ⟨early,call,late,rfl,rfl,rfl⟩ := ih later
      exact ⟨first :: early,call,late,rfl,rfl,rfl⟩

theorem failuresKept (kept : n.ip ≠ ip ∨ n.operation ≠ .resetFailures) :
    failuresOf ip (ns ++ [n]) =
      failuresOf ip ns + (if n.ip = ip ∧ n.operation = .recordFailure ∧ n.blocked = false then 1 else 0) := by
  have goes : (!(n.ip == ip && n.operation == .resetFailures)) = true := by
    rcases kept with other | other <;> simp [other]
  unfold failuresOf sinceReset
  rw [List.reverse_append,List.reverse_singleton,List.singleton_append,List.takeWhile_cons,if_pos goes,List.countP_cons]
  simp [and_assoc]

theorem blockedFailure (l : RateLimiter) (ip : Bytes) (now : Int) : l.blocked ip now = (l.failureOf ip).blocked now := by
  unfold RateLimiter.blocked RateLimiter.failureOf
  cases l.failures.get ip <;> rfl

def failureAfter (l : RateLimiter) (call : Call) : FailureState :=
  match call.operation with
  | .allow => l.failureOf (clientIP call.addr)
  | .recordFailure => (l.failureOf (clientIP call.addr)).fail l.maxFailures l.blockFor call.now
  | .resetFailures => ⟨0,(l.failureOf (clientIP call.addr)).blockedTill⟩

theorem performFailure (l : RateLimiter) (call : Call) (ip : Bytes) :
    (perform l call).2.failureOf ip = if ip = clientIP call.addr then failureAfter l call else l.failureOf ip := by
  unfold perform failureAfter
  cases call.operation with
  | allow =>
    have same : (l.allow call.addr call.now).2.failureOf ip = l.failureOf ip := by
      unfold RateLimiter.failureOf
      rw [(allowAllowed l call.addr call.now).failures]
    refine same.trans ?_
    split
    · rename_i own
      rw [own]
    · rfl
  | recordFailure =>
    change ((l.failures.insert _ _).get ip).getD {} = _
    rw [Map.getInsert]
    split <;> rfl
  | resetFailures =>
    change ((l.failures.adjust _ _).get ip).getD {} = _
    rw [Map.getAdjust]
    split
    · rename_i own
      rw [own]
      unfold RateLimiter.failureOf
      cases l.failures.get (clientIP call.addr) <;> rfl
    · rfl

theorem startsFailing (starts : (noteOf l call).starts = true) :
    call.operation = .recordFailure ∧ l.blocked (clientIP call.addr) call.now = false ∧
    l.maxFailures ≤ wrap64 ((l.failureOf (clientIP call.addr)).count + 1) := by
  have both : l.blocked (clientIP call.addr) call.now = false ∧
      (perform l call).2.blocked (clientIP call.addr) call.now = true := by
    simpa [noteOf] using starts
  obtain ⟨before,after⟩ := both
  rw [blockedFailure,performFailure,if_pos rfl] at after
  have open_ := before
  rw [blockedFailure] at open_
  unfold failureAfter at after
  cases operation : call.operation with
  | allow =>
    rw [operation] at after
    cases open_.symm.trans after
  | resetFailures =>
    rw [operation] at after
    cases open_.symm.trans after
  | recordFailure =>
    rw [operation] at after
    refine ⟨rfl,before,?_⟩
    by_contra few
    simp only [FailureState.fail,open_,few,if_false,Bool.false_eq_true] at after
    cases open_.symm.trans after

end

structure Tracks (l : RateLimiter) (ip : Bytes) (ns : List Note) : Prop where
  low : -(2^63) ≤ (l.failureOf ip).count
  count : (l.failureOf ip).count ≤ failuresOf ip ns
  till : ∀ n ∈ ns, n.ip = ip → n.starts = true →
    ∃ till, (l.failureOf ip).blockedTill = some till ∧ n.now + l.blockFor ≤ till

section
variable {l : RateLimiter} {ip : Bytes} {call : Call} {ns : List Note}

theorem Tracks.other (tracks : Tracks l ip ns) (other : clientIP call.addr ≠ ip) :
    Tracks (perform l call).2 ip (ns ++ [noteOf l call]) := by
  have same : (perform l call).2.failureOf ip = l.failureOf ip := by rw [performFailure,if_neg (Ne.symm other)]
  have failures : failuresOf ip (ns ++ [noteOf l call]) = failuresOf ip ns := by
    rw [failuresKept (.inl other),if_neg (fun own => other own.1)]
    rfl
  refine ⟨same ▸ tracks.low,by rw [same,failures]; exact tracks.count,?_⟩
  intro n inside own starts
  rw [same,(performSettings l call).blockFor]
  rcases List.mem_append.mp inside with earlier | last
  · exact tracks.till n earlier own starts
  · cases List.mem_singleton.mp last
    exact absurd own other

theorem Tracks.quiet (tracks : Tracks l ip ns) (calm : (noteOf l call).starts = false)
    (till : ((perform l call).2.failureOf ip).blockedTill = (l.failureOf ip).blockedTill)
    (low : -(2^63) ≤ ((perform l call).2.failureOf ip).count)
    (count : ((perform l call).2.failureOf ip).count ≤ failuresOf ip (ns ++ [noteOf l call])) :
    Tracks (perform l call).2 ip (ns ++ [noteOf l call]) := by
  refine ⟨low,count,?_⟩
  intro n inside own starts
  rw [till,(performSettings l call).blockFor]
  rcases List.mem_append.mp inside with earlier | last
  · exact tracks.till n earlier own starts
  · cases List.mem_singleton.mp last
    cases calm.symm.trans starts

theorem startsOnly (other : call.operation = .recordFailure → l.blocked (clientIP call.addr) call.now = true) :
    (noteOf l call).starts = false := by
  cases starts : (noteOf l call).starts with
  | false => rfl
  | true =>
    obtain ⟨records,open_,-⟩ := startsFailing starts
    cases (other records).symm.trans open_

theorem Tracks.failed (tracks : Tracks l (clientIP call.addr) ns) (records : call.operation = .recordFailure)
    (open_ : l.blocked (clientIP call.addr) call.now = false) (lasts : (0 : Int) ≤ l.blockFor) :
    Tracks (perform l call).2 (clientIP call.addr) (ns ++ [noteOf l call]) := by
  have unblocked : (l.failureOf (clientIP call.addr)).blocked call.now = false := blockedFailure l _ _ ▸ open_
  have after : (perform l call).2.failureOf (clientIP call.addr) =
      ⟨wrap64 ((l.failureOf (clientIP call.addr)).count + 1),
        if l.maxFailures ≤ wrap64 ((l.failureOf (clientIP call.addr)).count + 1) then some (call.now + l.blockFor)
        else (l.failureOf (clientIP call.addr)).blockedTill⟩ := by
    rw [performFailure,if_pos rfl,failureAfter,records]
    simp [FailureState.fail,unblocked]
  have failures : failuresOf (clientIP call.addr) (ns ++ [noteOf l call]) = failuresOf (clientIP call.addr) ns + 1 := by
    rw [failuresKept (.inr (by simp [noteOf,records])),if_pos ⟨rfl,records,open_⟩]
  have low := tracks.low
  have count := tracks.count
  have up := wrap64Le (n := (l.failureOf (clientIP call.addr)).count + 1) (by omega)
  refine ⟨by rw [after]; exact wrap64Range _,by rw [after,failures]; push_cast; exact Int.le_trans up (by omega),?_⟩
  intro n inside own starts
  rw [after,(performSettings l call).blockFor]
  rcases List.mem_append.mp inside with earlier | last
  · obtain ⟨till,is,most⟩ := tracks.till n earlier own starts
    have over_ : till ≤ call.now := by simpa [FailureState.blocked,is] using unblocked
    dsimp only
    split
    · exact ⟨_,rfl,by omega⟩
    · exact ⟨till,is,most⟩
  · cases List.mem_singleton.mp last
    obtain ⟨-,-,enough⟩ := startsFailing starts
    dsimp only
    rw [if_pos enough]
    exact ⟨_,rfl,Int.le_refl _⟩

theorem Tracks.own (tracks : Tracks l (clientIP call.addr) ns) (lasts : (0 : Int) ≤ l.blockFor) :
    Tracks (perform l call).2 (clientIP call.addr) (ns ++ [noteOf l call]) := by
  have after := performFailure l call (clientIP call.addr)
  rw [if_pos rfl,failureAfter] at after
  cases operation : call.operation with
  | allow =>
    rw [operation] at after
    refine tracks.quiet (startsOnly (by simp [operation])) (by rw [after]) (after ▸ tracks.low) ?_
    rw [after,failuresKept (.inr (by simp [noteOf,operation])),if_neg (by simp [noteOf,operation])]
    exact tracks.count
  | resetFailures =>
    rw [operation] at after
    refine tracks.quiet (startsOnly (by simp [operation])) (by rw [after]) (by rw [after]; exact Int.neg_nonpos_of_nonneg (by decide)) ?_
    rw [after]
    exact Int.natCast_nonneg _
  | recordFailure =>
    cases blocked : l.blocked (clientIP call.addr) call.now with
    | false => exact tracks.failed operation blocked lasts
    | true =>
      have still : (l.failureOf (clientIP call.addr)).blocked call.now = true := blockedFailure l _ _ ▸ blocked
      rw [operation,FailureState.fail,if_pos still] at after
      refine tracks.quiet (startsOnly (fun _ => blocked)) (by rw [after]) (after ▸ tracks.low) ?_
      rw [after,failuresKept (.inr (by simp [noteOf,operation])),if_neg (by simp [noteOf,blocked])]
      exact tracks.count

theorem runSettings (l : RateLimiter) (calls : List Call) : SameSettings l (run l calls) := by
  induction calls using List.reverseRecOn with
  | nil => exact ⟨rfl,rfl,rfl,rfl⟩
  | append_singleton calls call ih =>
    rw [runLast]
    exact ih.trans (performSettings (run l calls) call)

theorem runTracks (fresh : ∀ ip, l.failures.get ip = none) (lasts : (0 : Int) ≤ l.blockFor) (calls : List Call) (ip : Bytes) :
    Tracks (run l calls) ip (notes l calls) := by
  induction calls using List.reverseRecOn with
  | nil =>
    have none : l.failureOf ip = {} := by rw [RateLimiter.failureOf,fresh]; rfl
    exact ⟨by rw [run,List.foldl_nil,none]; decide,by rw [run,List.foldl_nil,none]; exact Int.natCast_nonneg _,by simp [notes]⟩
  | append_singleton calls call ih =>
    rw [runLast,notesLast]
    by_cases own : clientIP call.addr = ip
    · subst own
      exact ih.own (by rw [(runSettings l calls).blockFor]; exact lasts)
    · exact ih.other own

end

theorem orDefaultPositive (value : Int) {fallback : Int} (positive : 0 < fallback) : 0 < orDefault value fallback := by
  unfold orDefault
  split <;> omega

theorem newSound (cfg : RateLimitConfig) (c : Int) : Sound (newRateLimiter cfg) c := by
  have rate := orDefaultPositive cfg.rps (show (0 : Int) < 5 by decide)
  have burst := orDefaultPositive cfg.burst (show (0 : Int) < 10 by decide)
  refine ⟨?_,?_,fun ip b found => by cases found⟩
  · exact Int.cast_nonneg (Int.le_of_lt rate)
  · exact Int.cast_nonneg (Int.le_of_lt burst)

section
variable {l : RateLimiter} {calls : List Call} {before after : List Note} {n : Note} (fresh : ∀ ip, l.failures.get ip = none)
  (lasts : (0 : Int) ≤ l.blockFor) (taken : notes l calls = before ++ n :: after)
include fresh lasts taken

theorem allowedUnblocked (allowed : n.allowed = true) :
    n.blocked = false ∧ ∀ m ∈ before, m.ip = n.ip → m.starts = true → m.now + l.blockFor ≤ n.now := by
  obtain ⟨early,call,late,rfl,rfl,rfl⟩ := noteTaken taken
  have open_ : (run l early).blocked (clientIP call.addr) call.now = false := by
    change (perform (run l early) call).1 = true at allowed
    unfold perform at allowed
    cases operation : call.operation with
    | allow =>
      rw [operation] at allowed
      exact (allowAllowed _ call.addr call.now).unblocked allowed
    | recordFailure => rw [operation] at allowed; cases allowed
    | resetFailures => rw [operation] at allowed; cases allowed
  refine ⟨open_,?_⟩
  intro m inside own starts
  obtain ⟨till,is,most⟩ := (runTracks fresh lasts early (clientIP call.addr)).till m inside own starts
  rw [blockedFailure] at open_
  have ended : till ≤ call.now := by simpa [FailureState.blocked,is] using open_
  rw [(runSettings l early).blockFor] at most
  exact Int.le_trans most ended

theorem startsAfterFailures (starts : n.starts = true) :
    n.operation = .recordFailure ∧ n.blocked = false ∧ l.maxFailures ≤ failuresOf n.ip (before ++ [n]) := by
  obtain ⟨early,call,late,rfl,rfl,rfl⟩ := noteTaken taken
  obtain ⟨records,open_,enough⟩ := startsFailing starts
  have tracks := runTracks fresh lasts early (clientIP call.addr)
  have low := tracks.low
  have count := tracks.count
  have up := wrap64Le (n := ((run l early).failureOf (clientIP call.addr)).count + 1) (by omega)
  refine ⟨records,open_,?_⟩
  rw [failuresKept (.inr (by simp [noteOf,records])),if_pos ⟨rfl,records,open_⟩]
  rw [(runSettings l early).maxFailures] at enough
  push_cast
  change _ ≤ (failuresOf (clientIP call.addr) (notes l early) : Int) + 1
  omega

end

theorem limiterHolds (cfg : RateLimitConfig) (calls : List Call) (clock : calls.Pairwise (fun a b => a.now ≤ b.now)) :
    let l := newRateLimiter cfg
    (∀ ip s t, s ≤ t →
      ((notes l calls).countP (fun n => n.ip = ip ∧ n.allowed = true ∧ s ≤ n.now ∧ n.now ≤ t) : Rat) ≤
        l.burst + l.rate * ((t - s : Int) / 1000000000)) ∧
    (∀ before n after, notes l calls = before ++ n :: after → n.allowed = true →
      n.blocked = false ∧ ∀ m ∈ before, m.ip = n.ip → m.starts = true → m.now + l.blockFor ≤ n.now) ∧
    (∀ before n after, notes l calls = before ++ n :: after → n.starts = true →
      n.operation = .recordFailure ∧ n.blocked = false ∧ l.maxFailures ≤ failuresOf n.ip (before ++ [n])) := by
  obtain ⟨c,later⟩ := clockStart clock
  have lasts : (0 : Int) ≤ (newRateLimiter cfg).blockFor := Int.le_of_lt (orDefaultPositive cfg.blockDuration (by decide))
  exact ⟨fun ip s t within => allowedWithin clock (newSound cfg c) later (fun _ => rfl) ip within,
    fun before n after taken allowed => allowedUnblocked (fun _ => rfl) lasts taken allowed,
    fun before n after taken starts => startsAfterFailures (fun _ => rfl) lasts taken starts⟩

def strict : RateLimitConfig := { rps := 1, burst := 1, maxFailures := 2 }

def guessing : Bytes := [0x61,0x3A,0x31]

def attempts : List Call :=
  [⟨.allow,guessing,0⟩,⟨.recordFailure,guessing,1⟩,⟨.allow,guessing,2⟩,⟨.recordFailure,guessing,3⟩,⟨.allow,guessing,4⟩]

theorem attemptsLimited :
    ((notes (newRateLimiter strict) attempts).countP (fun n => n.ip = [0x61] ∧ n.allowed = true ∧ 0 ≤ n.now ∧ n.now ≤ 4) : Rat) ≤
      1 + 1 * ((4 - 0 : Int) / 1000000000) ∧
    ∃ before n after, notes (newRateLimiter strict) attempts = before ++ n :: after ∧ n.starts = true ∧
      (newRateLimiter strict).maxFailures ≤ failuresOf n.ip (before ++ [n]) := by
  obtain ⟨few,-,starts⟩ := limiterHolds strict attempts (by decide)
  have split : ∃ n, notes (newRateLimiter strict) attempts =
      (notes (newRateLimiter strict) attempts).take 3 ++ n :: (notes (newRateLimiter strict) attempts).drop 4 ∧ n.starts = true :=
    ⟨_,rfl,by decide +kernel⟩
  obtain ⟨n,whole,blocks⟩ := split
  exact ⟨few [0x61] 0 4 (by decide),_,n,_,whole,blocks,(starts _ n _ whole blocks).2.2⟩

end ReverseProxy.AdminBlocks
