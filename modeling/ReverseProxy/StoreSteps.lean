import ReverseProxy.Crew
import ReverseProxy.SnapshotStore
import ReverseProxy.Transition

/-! runtime.Store under any number of requests and swappers, at the grain of its
atomic steps. Acquire is the load of current and IncRef; Release is DecRef, the load
of the retirement mark, the load of the count and Reap; Swap is the load of current,
the mark, the publication and Reap. Reap reads the counts one by one under the lock.
The retired list is read under the lock only, so a section changes it where it ends. -/
namespace ReverseProxy.StoreSteps
open SnapshotStore
open Transition (Runs anyStep leads)

/- time.Now().UnixNano(): MarkRetired stores a positive number. -/
structure Instant where
  nanos : Int
  positive : 0 < nanos

inductive Thread where
  | acquiring (x : Snapshot)
  | holding (x : Snapshot)
  | released (x : Snapshot)
  | seenRetired (x : Snapshot)
  | swapping (previous next : Option Snapshot)
  | marked (previous next : Option Snapshot)
  | reaping
  | scanning (rest retained : List Snapshot)
  | returned

/- `installed` lists the snapshots that were current; `incRefs` and `decRefs` count
the calls made on each snapshot. No step reads them. -/
structure State where
  store : Store
  locked : Bool := false
  threads : List Thread := []
  installed : List Nat := []
  incRefs : Nat → Nat := fun _ => 0
  decRefs : Nat → Nat := fun _ => 0

def newStore (initial : Option Snapshot) : State :=
  { store := { current := initial }, installed := (initial.map Snapshot.id).toList }

inductive Action where
  | acquire
  | swap (next : Option Snapshot)
  | turn (i : Nat) (now : Instant)

def count (calls : Nat → Nat) (id : Nat) : Nat → Nat := fun x => if x = id then calls x + 1 else calls x

theorem countCalls (calls : Nat → Nat) (id x : Nat) : count calls id x = calls x + if x = id then 1 else 0 := by
  unfold count
  split <;> rfl

def markRetired (s : Store) (previous : Option Snapshot) (now : Instant) : Store :=
  match previous with
  | none => s
  | some x => { s with retiredAt := fun y => if y = x.id then now.nanos else s.retiredAt y }

@[simp] theorem markRetiredCurrent (s : Store) (previous now) : (markRetired s previous now).current = s.current := by
  cases previous <;> rfl

@[simp] theorem markRetiredList (s : Store) (previous now) : (markRetired s previous now).retired = s.retired := by
  cases previous <;> rfl

@[simp] theorem markRetiredCount (s : Store) (previous now) : (markRetired s previous now).refCount = s.refCount := by
  cases previous <;> rfl

def publish (s : Store) (previous next : Option Snapshot) : Store :=
  { s with current := next, retired := s.retired ++ previous.toList }

def State.move (s : State) (i : Nat) (t : Thread) : State := { s with threads := s.threads.set i t }

def stepThread (s : State) (i : Nat) (now : Instant) : Thread → Option State
  | .acquiring x => some { s.move i (.holding x) with
      store := s.store.addRef x.id 1
      incRefs := count s.incRefs x.id }
  | .holding x => some { s.move i (.released x) with
      store := s.store.addRef x.id (-1)
      decRefs := count s.decRefs x.id }
  | .released x => some (s.move i (if 0 < s.store.retiredAt x.id then .seenRetired x else .returned))
  | .seenRetired x => some (s.move i (if s.store.refCount x.id = 0 then .reaping else .returned))
  | .swapping previous next =>
    if s.locked then none
    else some { s.move i (.marked previous next) with store := markRetired s.store previous now, locked := true }
  | .marked previous next => some { s.move i .reaping with
      store := publish s.store previous next
      locked := false
      installed := s.installed ++ (next.map Snapshot.id).toList }
  | .reaping => if s.locked then none else some { s.move i (.scanning s.store.retired []) with locked := true }
  | .scanning (x :: rest) retained =>
    some (s.move i (.scanning rest (if s.store.refCount x.id ≠ 0 then retained ++ [x] else retained)))
  | .scanning [] retained =>
    some { s.move i .returned with store := { s.store with retired := retained }, locked := false }
  | .returned => none

/- A request that finds no current snapshot does not take part. -/
def step (s : State) : Action → Option State
  | .acquire => some { s with threads := s.threads ++ (s.store.current.map Thread.acquiring).toList }
  | .swap next => some { s with threads := s.threads ++ [.swapping s.store.current next] }
  | .turn i now => s.threads[i]?.bind (stepThread s i now)

inductive Stepped (s : State) : Action → State → Prop where
  | refused (empty : s.store.current = none) : Stepped s .acquire s
  | loaded {x} (current : s.store.current = some x) :
      Stepped s .acquire { s with threads := s.threads ++ [.acquiring x] }
  | entered {next} : Stepped s (.swap next) { s with threads := s.threads ++ [.swapping s.store.current next] }
  | incremented {i now x} (found : s.threads[i]? = some (.acquiring x)) :
      Stepped s (.turn i now) { s.move i (.holding x) with
        store := s.store.addRef x.id 1
        incRefs := count s.incRefs x.id }
  | decremented {i now x} (found : s.threads[i]? = some (.holding x)) :
      Stepped s (.turn i now) { s.move i (.released x) with
        store := s.store.addRef x.id (-1)
        decRefs := count s.decRefs x.id }
  | live {i now x} (found : s.threads[i]? = some (.released x)) (unmarked : ¬0 < s.store.retiredAt x.id) :
      Stepped s (.turn i now) (s.move i .returned)
  | dead {i now x} (found : s.threads[i]? = some (.released x)) (mark : 0 < s.store.retiredAt x.id) :
      Stepped s (.turn i now) (s.move i (.seenRetired x))
  | used {i now x} (found : s.threads[i]? = some (.seenRetired x)) (positive : s.store.refCount x.id ≠ 0) :
      Stepped s (.turn i now) (s.move i .returned)
  | unused {i now x} (found : s.threads[i]? = some (.seenRetired x)) (zero : s.store.refCount x.id = 0) :
      Stepped s (.turn i now) (s.move i .reaping)
  | marks {i now previous next} (found : s.threads[i]? = some (.swapping previous next)) (free : s.locked = false) :
      Stepped s (.turn i now)
        { s.move i (.marked previous next) with store := markRetired s.store previous now, locked := true }
  | publishes {i now previous next} (found : s.threads[i]? = some (.marked previous next)) :
      Stepped s (.turn i now) { s.move i .reaping with
        store := publish s.store previous next
        locked := false
        installed := s.installed ++ (next.map Snapshot.id).toList }
  | scans {i now} (found : s.threads[i]? = some .reaping) (free : s.locked = false) :
      Stepped s (.turn i now) { s.move i (.scanning s.store.retired []) with locked := true }
  | keeps {i now x rest retained} (found : s.threads[i]? = some (.scanning (x :: rest) retained))
      (positive : s.store.refCount x.id ≠ 0) :
      Stepped s (.turn i now) (s.move i (.scanning rest (retained ++ [x])))
  | drops {i now x rest retained} (found : s.threads[i]? = some (.scanning (x :: rest) retained))
      (zero : s.store.refCount x.id = 0) :
      Stepped s (.turn i now) (s.move i (.scanning rest retained))
  | reaped {i now retained} (found : s.threads[i]? = some (.scanning [] retained)) :
      Stepped s (.turn i now)
        { s.move i .returned with store := { s.store with retired := retained }, locked := false }

theorem steppedThread {s s' : State} {i : Nat} {now : Instant} {t : Thread} (found : s.threads[i]? = some t)
    (taken : stepThread s i now t = some s') : Stepped s (.turn i now) s' := by
  cases t with
  | acquiring x =>
    cases taken
    exact .incremented found
  | holding x =>
    cases taken
    exact .decremented found
  | released x =>
    simp only [stepThread] at taken
    split at taken <;> cases taken
    · exact .dead found (by assumption)
    · exact .live found (by assumption)
  | seenRetired x =>
    simp only [stepThread] at taken
    split at taken <;> cases taken
    · exact .unused found (by assumption)
    · exact .used found (by assumption)
  | swapping previous next =>
    simp only [stepThread] at taken
    split at taken <;> cases taken
    exact .marks found (by simpa using ‹¬s.locked = true›)
  | marked previous next =>
    cases taken
    exact .publishes found
  | reaping =>
    simp only [stepThread] at taken
    split at taken <;> cases taken
    exact .scans found (by simpa using ‹¬s.locked = true›)
  | scanning rest retained =>
    cases rest with
    | nil =>
      cases taken
      exact .reaped found
    | cons x rest =>
      simp only [stepThread] at taken
      split at taken <;> cases taken
      · exact .keeps found (by assumption)
      · exact .drops found (by simpa using ‹¬s.store.refCount x.id ≠ 0›)
  | returned => cases taken

theorem stepped {s s' : State} {a : Action} (taken : step s a = some s') : Stepped s a s' := by
  cases a with
  | acquire =>
    cases current : s.store.current with
    | none =>
      simp only [step, current, Option.map_none, Option.toList_none, List.append_nil] at taken
      cases taken
      exact .refused current
    | some x =>
      simp only [step, current, Option.map_some, Option.toList_some] at taken
      cases taken
      exact .loaded current
  | swap next =>
    cases taken
    exact .entered
  | turn i now =>
    obtain ⟨t,found,moved⟩ := Option.bind_eq_some_iff.mp taken
    exact steppedThread found moved

def Thread.inside : Thread → Bool
  | .marked _ _ => true
  | .scanning _ _ => true
  | _ => false

def Exclusive (s : State) : Prop := s.threads.countP Thread.inside = s.locked.toNat

theorem Exclusive.remains {s : State} {i : Nat} {old new : Thread} (start : Exclusive s) (found : s.threads[i]? = some old)
    (same : new.inside = old.inside) : (s.threads.set i new).countP Thread.inside = s.locked.toNat :=
  (Crew.countSame Thread.inside found same).trans start

theorem Exclusive.enters {s : State} {i : Nat} {old new : Thread} (start : Exclusive s) (found : s.threads[i]? = some old)
    (free : s.locked = false) (outside : old.inside = false) (inside : new.inside = true) :
    (s.threads.set i new).countP Thread.inside = 1 := by
  have moved := Crew.countMove Thread.inside found new
  rw [start, free, outside, inside] at moved
  exact moved

theorem Exclusive.leaves {s : State} {i : Nat} {old new : Thread} (start : Exclusive s) (found : s.threads[i]? = some old)
    (inside : old.inside = true) (outside : new.inside = false) :
    (s.threads.set i new).countP Thread.inside = 0 := by
  have moved := Crew.countMove Thread.inside found new
  have most : s.locked.toNat ≤ 1 := Bool.toNat_le _
  rw [start, outside, inside, Bool.toNat_true, Bool.toNat_false] at moved
  omega

theorem exclusiveStep {s s' : State} {a : Action} (start : Exclusive s) (taken : Stepped s a s') : Exclusive s' := by
  cases taken with
  | refused => exact start
  | loaded => exact (Crew.countJoin _ _ _).trans start
  | entered => exact (Crew.countJoin _ _ _).trans start
  | incremented found => exact start.remains found rfl
  | decremented found => exact start.remains found rfl
  | live found => exact start.remains found rfl
  | dead found => exact start.remains found rfl
  | used found => exact start.remains found rfl
  | unused found => exact start.remains found rfl
  | marks found free => exact start.enters found free rfl rfl
  | publishes found => exact start.leaves found rfl rfl
  | scans found free => exact start.enters found free rfl rfl
  | keeps found => exact start.remains found rfl
  | drops found => exact start.remains found rfl
  | reaped found => exact start.leaves found rfl rfl

theorem Exclusive.alone {s : State} {i : Nat} {old new t : Thread} (start : Exclusive s) (found : s.threads[i]? = some old)
    (inside : old.inside = true) (present : t ∈ s.threads.set i new) (also : t.inside = true) : t = new := by
  have most : s.locked.toNat ≤ 1 := Bool.toNat_le _
  exact Crew.soleMoved Thread.inside (by rw [start]; exact most) found inside present also

section
variable {s s' : State} {i : Nat} {t : Thread}

theorem turned (now : Instant) (found : s.threads[i]? = some t) (taken : stepThread s i now t = some s') :
    step s (.turn i now) = some s' := by
  simp only [step, found, Option.bind_some, taken]

theorem movedThread (found : s.threads[i]? = some t) (new : Thread) : (s.move i new).threads[i]? = some new :=
  List.getElem?_set_self (List.getElem?_eq_some_iff.mp found).1

def Leaves (s : State) (store : Store) (threads : List Thread) : Prop :=
  s.store = store ∧ s.threads = threads ∧ s.locked = false

theorem scanRun (now : Instant) {rest retained : List Snapshot} (found : s.threads[i]? = some (.scanning rest retained)) :
    ∃ as s', Runs step anyStep s as s' ∧ Leaves s'
      { s.store with retired := retained ++ rest.filter (fun x => s.store.refCount x.id ≠ 0) }
      (s.threads.set i .returned) := by
  induction rest generalizing s retained with
  | nil =>
    refine leads trivial (turned now found rfl) ⟨[],_,.nil _,?_⟩
    simp [Leaves,State.move]
  | cons x rest ih =>
    refine leads trivial (turned now found rfl) ?_
    obtain ⟨as,s',run,store,threads,free⟩ := ih (movedThread found _)
    refine ⟨as,s',run,store.trans ?_,threads.trans (List.set_set ..),free⟩
    by_cases zero : s.store.refCount x.id = 0 <;> simp [zero,State.move]

theorem reapRun (now : Instant) {store : Store} {threads : List Thread} (found : s.threads[i]? = some .reaping)
    (free : s.locked = false) (reaped : s.store.reap = store) (rest : s.threads.set i .returned = threads) :
    ∃ as s', Runs step anyStep s as s' ∧ Leaves s' store threads := by
  subst reaped rest
  refine leads trivial (turned now found (if_neg (by simp [free]))) ?_
  obtain ⟨as,s',run,store,threads,free⟩ := scanRun now (s := { s.move i (.scanning s.store.retired []) with locked := true })
    (movedThread found _)
  exact ⟨as,s',run,store,threads.trans (List.set_set ..),free⟩

theorem acquireRun (now : Instant) {x : Snapshot} (current : s.store.current = some x) (free : s.locked = false) :
    ∃ as s', Runs step anyStep s as s' ∧ Leaves s' s.store.acquire.2 (s.threads ++ [.holding x]) := by
  have loads : step s .acquire = some { s with threads := s.threads ++ [.acquiring x] } := by simp [step,current]
  refine leads trivial loads (leads trivial (turned now List.getElem?_concat_length rfl) ⟨[],_,.nil _,?_,?_,free⟩)
  · simp [Store.acquire,current]
  · simp [State.move]

theorem releaseRun (now : Instant) {x : Snapshot} (found : s.threads[i]? = some (.holding x)) (free : s.locked = false) :
    ∃ as s', Runs step anyStep s as s' ∧ Leaves s' (s.store.release x) (s.threads.set i .returned) := by
  refine leads trivial (turned now found rfl) ?_
  have dropped := movedThread found (.released x)
  have seen := movedThread dropped (.seenRetired x)
  by_cases mark : 0 < s.store.retiredAt x.id
  · refine leads trivial (turned now dropped (congrArg (fun t => some (State.move _ i t)) (if_pos mark))) ?_
    by_cases zero : (s.store.addRef x.id (-1)).refCount x.id = 0
    · refine leads trivial (turned now seen (congrArg (fun t => some (State.move _ i t)) (if_pos zero))) ?_
      refine reapRun now (movedThread seen .reaping) free (if_pos ⟨mark,zero⟩).symm ?_
      simp [State.move]
    · refine leads trivial (turned now seen (congrArg (fun t => some (State.move _ i t)) (if_neg zero))) ?_
      refine ⟨[],_,.nil _,(if_neg (fun both => zero both.2)).symm,?_,free⟩
      simp [State.move]
  · refine leads trivial (turned now dropped (congrArg (fun t => some (State.move _ i t)) (if_neg mark))) ?_
    refine ⟨[],_,.nil _,(if_neg (fun both => mark both.1)).symm,?_,free⟩
    simp [State.move]

theorem swapRun (now : Instant) (next : Option Snapshot) (free : s.locked = false) :
    ∃ as s', Runs step anyStep s as s' ∧ Leaves s' (s.store.swap next now.nanos) (s.threads ++ [.returned]) := by
  have enters : step s (.swap next) = some { s with threads := s.threads ++ [.swapping s.store.current next] } := rfl
  have loaded : (s.threads ++ [Thread.swapping s.store.current next])[s.threads.length]? =
    some (.swapping s.store.current next) := List.getElem?_concat_length
  have marked := movedThread (s := { s with threads := _ }) loaded (.marked s.store.current next)
  have published := movedThread (s := { s with threads := _ }) marked .reaping
  refine leads trivial enters (leads trivial (turned now loaded (if_neg (by simp [free]))) ?_)
  refine leads trivial (turned now marked rfl) (reapRun now published rfl ?_ ?_)
  · unfold Store.swap
    cases s.store.current <;> simp [publish,markRetired]
  · simp [State.move]

end

end ReverseProxy.StoreSteps
