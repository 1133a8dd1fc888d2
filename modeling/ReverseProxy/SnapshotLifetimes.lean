import ReverseProxy.StoreSteps

/-! How long a snapshot stays in the store, in every interleaving of Acquire, Release
and Swap. Counts are exact and nothing stays retired once everything is at rest. A
snapshot in use is kept, and the retired list is tidy, unless one of two gaps is hit:
a Swap publishes over a snapshot it did not load, or a Reap comes between the load
and the IncRef of an Acquire. -/
namespace ReverseProxy.SnapshotLifetimes
open SnapshotStore StoreSteps
open Transition (Runs anyStep runAllRuns runAll)

def ids (l : List Snapshot) : List Nat := l.map Snapshot.id

def holds (x : Nat) : Thread → Bool
  | .holding y => y.id = x
  | _ => false

def loads (x : Nat) : Thread → Bool
  | .acquiring y => y.id = x
  | _ => false

structure Counted (s : State) : Prop where
  calls : ∀ x, s.store.refCount x = (s.incRefs x : Int) - s.decRefs x
  holders : ∀ x, s.store.refCount x = s.threads.countP (holds x)

theorem Counted.moves {s : State} {i : Nat} {old new : Thread} (start : Counted s) (found : s.threads[i]? = some old)
    (same : ∀ x, holds x new = holds x old) (x : Nat) : s.store.refCount x = (s.threads.set i new).countP (holds x) := by
  rw [Crew.countSame (holds x) found (same x), start.holders]

theorem Counted.adds {s : State} {i id : Nat} {delta : Int} {old new : Thread} (start : Counted s)
    (found : s.threads[i]? = some old)
    (change : ∀ x, ((holds x new).toNat : Int) = (holds x old).toNat + if x = id then delta else 0) (x : Nat) :
    (s.store.addRef id delta).refCount x = (s.threads.set i new).countP (holds x) := by
  have moved := Crew.countMove (holds x) found new
  have holders := start.holders x
  have changed := change x
  rw [Store.addRefCount]
  omega

theorem countedStep {s s' : State} {a : Action} (start : Counted s) (taken : Stepped s a s') : Counted s' := by
  have joins (new : Thread) (other : ∀ x, holds x new = false) (x : Nat) :
      s.store.refCount x = (s.threads ++ [new]).countP (holds x) := by
    rw [Crew.countJoin, other, start.holders, Bool.toNat_false, Nat.add_zero]
  cases taken with
  | refused => exact start
  | loaded => exact ⟨start.calls,joins _ (fun _ => rfl)⟩
  | entered => exact ⟨start.calls,joins _ (fun _ => rfl)⟩
  | @incremented i now x found =>
    refine ⟨fun y => ?_,start.adds found (fun y => ?_)⟩
    · have calls := start.calls y
      simp only [Store.addRefCount, countCalls, State.move]
      split <;> omega
    · by_cases same : y = x.id <;> simp [holds, same, Ne.symm]
  | @decremented i now x found =>
    refine ⟨fun y => ?_,start.adds found (fun y => ?_)⟩
    · have calls := start.calls y
      simp only [Store.addRefCount, countCalls, State.move]
      split <;> omega
    · by_cases same : y = x.id <;> simp [holds, same, Ne.symm]
  | live found => exact ⟨start.calls,start.moves found (fun _ => rfl)⟩
  | dead found => exact ⟨start.calls,start.moves found (fun _ => rfl)⟩
  | used found => exact ⟨start.calls,start.moves found (fun _ => rfl)⟩
  | unused found => exact ⟨start.calls,start.moves found (fun _ => rfl)⟩
  | marks found =>
    refine ⟨?_,?_⟩ <;> simp only [markRetiredCount]
    · exact start.calls
    · exact start.moves found (fun _ => rfl)
  | publishes found => exact ⟨start.calls,start.moves found (fun _ => rfl)⟩
  | scans found => exact ⟨start.calls,start.moves found (fun _ => rfl)⟩
  | keeps found => exact ⟨start.calls,start.moves found (fun _ => rfl)⟩
  | drops found => exact ⟨start.calls,start.moves found (fun _ => rfl)⟩
  | reaped found => exact ⟨start.calls,start.moves found (fun _ => rfl)⟩

def Scans (s : State) : Prop :=
  ∀ rest retained, Thread.scanning rest retained ∈ s.threads → (retained ++ rest).Sublist s.store.retired

theorem Scans.moves {s : State} {i : Nat} {new : Thread} (start : Scans s) (idle : new.inside = false)
    {rest retained : List Snapshot} (present : Thread.scanning rest retained ∈ s.threads.set i new) :
    (retained ++ rest).Sublist s.store.retired := by
  rcases List.mem_or_eq_of_mem_set present with old | same
  · exact start rest retained old
  · subst same
    cases idle

theorem scansStep {s s' : State} {a : Action} (one : Exclusive s) (start : Scans s) (taken : Stepped s a s') : Scans s' := by
  have joins {new : Thread} (idle : new.inside = false) {rest retained : List Snapshot}
      (present : Thread.scanning rest retained ∈ s.threads ++ [new]) : (retained ++ rest).Sublist s.store.retired := by
    rcases List.mem_append.mp present with old | same
    · exact start rest retained old
    · cases List.mem_singleton.mp same
      cases idle
  intro rest retained present
  cases taken with
  | refused => exact start rest retained present
  | loaded => exact joins rfl present
  | entered => exact joins rfl present
  | marks =>
    rw [markRetiredList]
    rcases List.mem_or_eq_of_mem_set present with old | same
    · exact start rest retained old
    · cases same
  | publishes found => exact (start.moves rfl present).trans (List.sublist_append_left _ _)
  | scans =>
    rcases List.mem_or_eq_of_mem_set present with old | same
    · exact start rest retained old
    · cases same
      exact List.Sublist.refl _
  | @keeps i now x later kept found positive =>
    rcases List.mem_or_eq_of_mem_set present with old | same
    · exact start rest retained old
    · cases same
      have before := start _ _ (Crew.member found)
      rwa [List.append_assoc]
  | @drops i now x later kept found zero =>
    rcases List.mem_or_eq_of_mem_set present with old | same
    · exact start rest retained old
    · cases same
      have before := start _ _ (Crew.member found)
      exact ((List.sublist_cons_self x rest).append_left retained).trans before
  | reaped found => cases one.alone found rfl present rfl
  | _ => exact start.moves rfl present

def owes (x : Nat) : Thread → Prop
  | .released y => y.id = x
  | .seenRetired y => y.id = x
  | .reaping => True
  | .scanning _ retained => x ∉ ids retained
  | _ => False

def Awaited (threads : List Thread) (x : Nat) : Prop := ∃ t ∈ threads, holds x t = true ∨ owes x t

structure Reclaims (s : State) : Prop where
  marked : ∀ x ∈ s.store.retired, 0 < s.store.retiredAt x.id
  marking : ∀ x next, Thread.marked (some x) next ∈ s.threads → 0 < s.store.retiredAt x.id
  owed : ∀ x ∈ s.store.retired, Awaited s.threads x.id

theorem markStays {s : Store} {x : Nat} (mark : 0 < s.retiredAt x) (previous : Option Snapshot) (now : Instant) :
    0 < (markRetired s previous now).retiredAt x := by
  cases previous with
  | none => exact mark
  | some y =>
    change 0 < if x = y.id then now.nanos else s.retiredAt x
    split
    · exact now.positive
    · exact mark

theorem Awaited.moves {threads : List Thread} {i x : Nat} {old new : Thread} (start : Awaited threads x)
    (found : threads[i]? = some old) (pass : holds x old = true ∨ owes x old → Awaited (threads.set i new) x) :
    Awaited (threads.set i new) x := by
  obtain ⟨t,present,due⟩ := start
  by_cases same : t = old
  · subst same
    exact pass due
  · exact ⟨t,Crew.stays found present same new,due⟩

theorem Counted.awaited {s : State} {i : Nat} {old : Thread} {x : Snapshot} (start : Counted s)
    (used : s.store.refCount x.id ≠ 0) (found : s.threads[i]? = some old) (other : holds x.id old = false) (new : Thread) :
    Awaited (s.threads.set i new) x.id := by
  have some : s.threads.countP (holds x.id) ≠ 0 := by
    have holders := start.holders x.id
    omega
  obtain ⟨t,present,holding⟩ := List.countP_pos_iff.mp (Nat.pos_of_ne_zero some)
  refine ⟨t,Crew.stays found present ?_ new,.inl holding⟩
  intro same
  rw [same, other] at holding
  cases holding

theorem reclaimsStep {s s' : State} {a : Action} (counted : Counted s) (scan : Scans s)
    (start : Reclaims s) (taken : Stepped s a s') : Reclaims s' := by
  have joins {x : Snapshot} (inside : x ∈ s.store.retired) (new : Thread) : Awaited (s.threads ++ [new]) x.id := by
    obtain ⟨t,present,due⟩ := start.owed x inside
    exact ⟨t,List.mem_append_left _ present,due⟩
  have same {new : Thread} (plain : ∀ x next, Thread.marked (some x) next ≠ new) (x next)
      (present : Thread.marked (some x) next ∈ s.threads ++ [new]) : 0 < s.store.retiredAt x.id := by
    rcases List.mem_append.mp present with old | same
    · exact start.marking x next old
    · exact absurd (List.mem_singleton.mp same) (plain x next)
  have marking {i : Nat} {new : Thread} (plain : ∀ x next, Thread.marked (some x) next ≠ new) (x next)
      (present : Thread.marked (some x) next ∈ s.threads.set i new) : 0 < s.store.retiredAt x.id := by
    rcases List.mem_or_eq_of_mem_set present with old | same
    · exact start.marking x next old
    · exact absurd same (plain x next)
  cases taken with
  | refused => exact start
  | loaded => exact ⟨start.marked,same (by simp),fun x inside => joins inside _⟩
  | entered => exact ⟨start.marked,same (by simp),fun x inside => joins inside _⟩
  | incremented found =>
    refine ⟨start.marked,marking (by simp),fun x inside => (start.owed x inside).moves found ?_⟩
    simp [holds,owes]
  | @decremented i now y found =>
    refine ⟨start.marked,marking (by simp),fun x inside => (start.owed x inside).moves found ?_⟩
    intro due
    exact ⟨_,Crew.moved found _,.inr (by simpa [holds,owes] using due)⟩
  | @live i now y found unmarked =>
    refine ⟨start.marked,marking (by simp),fun x inside => (start.owed x inside).moves found ?_⟩
    intro due
    have same : y.id = x.id := by simpa [holds,owes] using due
    rw [same] at unmarked
    exact absurd (start.marked x inside) unmarked
  | @dead i now y found mark =>
    refine ⟨start.marked,marking (by simp),fun x inside => (start.owed x inside).moves found ?_⟩
    intro due
    exact ⟨_,Crew.moved found _,.inr (by simpa [holds,owes] using due)⟩
  | @used i now y found positive =>
    refine ⟨start.marked,marking (by simp),fun x inside => (start.owed x inside).moves found ?_⟩
    intro due
    have same : y.id = x.id := by simpa [holds,owes] using due
    rw [same] at positive
    exact counted.awaited positive found rfl _
  | unused found =>
    refine ⟨start.marked,marking (by simp),fun x _ => ⟨_,Crew.moved found _,.inr trivial⟩⟩
  | @marks i now previous next found free =>
    refine ⟨?_,?_,fun x inside => (start.owed x (by simpa using inside)).moves found ?_⟩
    · intro x inside
      rw [markRetiredList] at inside
      exact markStays (start.marked x inside) previous now
    · intro x next present
      rcases List.mem_or_eq_of_mem_set present with old | same
      · exact markStays (start.marking x next old) previous now
      · cases same
        simp [markRetired, now.positive]
    · simp [holds,owes]
  | @publishes i now previous next found =>
    refine ⟨?_,marking (by simp),fun x _ => ⟨_,Crew.moved found _,.inr trivial⟩⟩
    intro x inside
    rcases List.mem_append.mp inside with old | new
    · exact start.marked x old
    · rw [Option.mem_toList] at new
      cases new
      exact start.marking x next (Crew.member found)
  | scans found =>
    refine ⟨start.marked,marking (by simp),fun x _ => ⟨_,Crew.moved found _,.inr ?_⟩⟩
    simp [owes,ids]
  | @keeps i now y rest retained found positive =>
    refine ⟨start.marked,marking (by simp),fun x inside => (start.owed x inside).moves found ?_⟩
    intro due
    by_cases same : y.id = x.id
    · rw [same] at positive
      exact counted.awaited positive found rfl _
    · refine ⟨_,Crew.moved found _,.inr ?_⟩
      simpa [holds,owes,ids,Ne.symm same] using due
  | @drops i now y rest retained found zero =>
    refine ⟨start.marked,marking (by simp),fun x inside => (start.owed x inside).moves found ?_⟩
    intro due
    exact ⟨_,Crew.moved found _,.inr (by simpa [holds,owes] using due)⟩
  | @reaped i now retained found =>
    have kept : retained.Sublist s.store.retired := by simpa using scan _ _ (Crew.member found)
    refine ⟨fun x inside => start.marked x (kept.subset inside),marking (by simp),?_⟩
    intro x inside
    refine (start.owed x (kept.subset inside)).moves found ?_
    intro due
    have gone : x.id ∉ ids retained := by simpa [holds,owes] using due
    exact absurd (List.mem_map_of_mem inside) gone

structure Sound (s : State) : Prop where
  one : Exclusive s
  counted : Counted s
  scan : Scans s
  reclaims : Reclaims s

theorem soundStep {s s' : State} {a : Action} (start : Sound s) (taken : Stepped s a s') : Sound s' :=
  ⟨exclusiveStep start.one taken,countedStep start.counted taken,scansStep start.one start.scan taken,
    reclaimsStep start.counted start.scan start.reclaims taken⟩

theorem soundStart (initial : Option Snapshot) : Sound (newStore initial) := by
  refine ⟨rfl,⟨fun _ => rfl,fun _ => rfl⟩,?_,⟨?_,?_,?_⟩⟩ <;> simp [newStore,Scans]

theorem soundRun {guard : State → Action → Prop} {initial : Option Snapshot} {as : List Action} {s : State}
    (run : Runs step guard (newStore initial) as s) : Sound s :=
  run.preserve Sound (fun _ _ _ start _ taken => soundStep start (stepped taken)) (soundStart initial)

def AtRest (s : State) : Prop := ∀ t ∈ s.threads, t = .returned

theorem countsAndReclaims {initial : Option Snapshot} {as : List Action} {s : State}
    (run : Runs step anyStep (newStore initial) as s) :
    (∀ x, s.store.refCount x = (s.incRefs x : Int) - s.decRefs x ∧ 0 ≤ s.store.refCount x ∧
      s.store.refCount x ≤ s.threads.length) ∧
    (∀ i now x rest retained s', s.threads[i]? = some (.scanning (x :: rest) retained) →
      step s (.turn i now) = some s' → 0 < s.store.refCount x.id →
      s'.threads[i]? = some (.scanning rest (retained ++ [x]))) ∧
    (AtRest s → s.store.retired = [] ∧ s.store.underPressure = false) := by
  have sound := soundRun run
  refine ⟨?_,?_,?_⟩
  · intro x
    have holders := sound.counted.holders x
    have most : s.threads.countP (holds x) ≤ s.threads.length := List.countP_le_length
    exact ⟨sound.counted.calls x,by omega,by omega⟩
  · intro i now x rest retained s' found taken positive
    simp only [step, found, Option.bind_some, stepThread, if_pos (Int.ne_of_gt positive)] at taken
    cases taken
    exact movedThread found _
  · intro rest
    have empty : s.store.retired = [] := by
      apply List.eq_nil_iff_forall_not_mem.mpr
      intro x inside
      obtain ⟨t,present,due⟩ := sound.reclaims.owed x inside
      rw [rest t present] at due
      simp [holds,owes] at due
    refine ⟨empty,?_⟩
    simp only [Store.underPressure, empty, List.length_nil]
    split
    · rfl
    · simp
      omega

def bare (id : Nat) : Snapshot where
  id := id
  version := []
  source := "file"
  compiled := {
    routes := []
    pools := FiniteMap.Map.empty
    poolConfigs := FiniteMap.Map.empty
    tls := ⟨false,none,none,""⟩
    routeCount := 0
    limits := PolicyBuild.Limits.default
    logging := {} }

def tick : Instant := ⟨1,Int.one_pos⟩

theorem heldThenReclaimed :
    ∃ s, Runs step anyStep (newStore (some (bare 1)))
      [.acquire,.turn 0 tick,.swap (some (bare 2)),.turn 1 tick,.turn 1 tick,.turn 1 tick,.turn 1 tick,.turn 1 tick,
        .turn 0 tick,.turn 0 tick,.turn 0 tick,.turn 0 tick,.turn 0 tick,.turn 0 tick] s ∧
      AtRest s ∧ s.store.retired = [] ∧ s.store.underPressure = false := by
  obtain ⟨s,ran,rest⟩ : ∃ s, runAll step anyStep (newStore (some (bare 1)))
      [.acquire,.turn 0 tick,.swap (some (bare 2)),.turn 1 tick,.turn 1 tick,.turn 1 tick,.turn 1 tick,.turn 1 tick,
        .turn 0 tick,.turn 0 tick,.turn 0 tick,.turn 0 tick,.turn 0 tick,.turn 0 tick] = some s ∧
      s.threads = [.returned,.returned] := ⟨_,rfl,rfl⟩
  have run := runAllRuns ran
  have quiet : AtRest s := by simp [AtRest,rest]
  exact ⟨s,run,quiet,(countsAndReclaims run).2.2 quiet⟩

def uses (x : Nat) (t : Thread) : Bool := loads x t || holds x t

def InStore (s : State) (x : Nat) : Prop :=
  s.store.current.map Snapshot.id = some x ∨
    (x ∈ ids s.store.retired ∧ ∀ rest retained, Thread.scanning rest retained ∈ s.threads → x ∈ ids (retained ++ rest))

def Covered (s : State) : Prop := ∀ t ∈ s.threads, ∀ x, uses x t = true → InStore s x

/- A Swap publishes over the snapshot it loaded; a Reap finds no count at zero of a
retired snapshot that some Acquire has loaded and not yet incremented. -/
def undisturbed (s : State) : Action → Bool
  | .turn i _ =>
    match s.threads[i]? with
    | some (.marked previous _) => previous.map Snapshot.id == s.store.current.map Snapshot.id
    | some (.scanning (x :: _) _) =>
      s.store.refCount x.id != 0 || s.store.current.map Snapshot.id == some x.id || s.threads.all (fun t => !loads x.id t)
    | _ => true
  | _ => true

theorem InStore.carries {s s' : State} {i x : Nat} {new : Thread} (start : InStore s x)
    (current : s'.store.current = s.store.current) (retired : s'.store.retired = s.store.retired)
    (threads : s'.threads = s.threads.set i new)
    (fresh : ∀ rest retained, new = .scanning rest retained → x ∈ ids s.store.retired →
      (∀ rest retained, Thread.scanning rest retained ∈ s.threads → x ∈ ids (retained ++ rest)) →
        x ∈ ids (retained ++ rest)) : InStore s' x := by
  unfold InStore
  rw [current, retired, threads]
  rcases start with current | ⟨inside,scanned⟩
  · exact .inl current
  · refine .inr ⟨inside,?_⟩
    intro rest retained present
    rcases List.mem_or_eq_of_mem_set present with old | same
    · exact scanned rest retained old
    · exact fresh rest retained same.symm inside scanned

theorem InStore.joins {s : State} {x : Nat} {new : Thread} (start : InStore s x) (idle : new.inside = false) :
    InStore { s with threads := s.threads ++ [new] } x := by
  rcases start with current | ⟨inside,scanned⟩
  · exact .inl current
  · refine .inr ⟨inside,?_⟩
    intro rest retained present
    rcases List.mem_append.mp present with old | same
    · exact scanned rest retained old
    · cases List.mem_singleton.mp same
      cases idle

theorem Covered.moves {s s' : State} {i : Nat} {old new : Thread} (start : Covered s) (found : s.threads[i]? = some old)
    (threads : s'.threads = s.threads.set i new) (own : ∀ x, uses x new = true → uses x old = true)
    (stays : ∀ t ∈ s.threads, ∀ x, uses x t = true → InStore s x → InStore s' x) : Covered s' := by
  intro t present x use
  rw [threads] at present
  rcases List.mem_or_eq_of_mem_set present with earlier | same
  · exact stays t earlier x use (start t earlier x use)
  · subst same
    have member := Crew.member found
    exact stays old member x (own x use) (start old member x (own x use))

theorem Covered.turns {s s' : State} {i : Nat} {old new : Thread} (start : Covered s) (found : s.threads[i]? = some old)
    (current : s'.store.current = s.store.current) (retired : s'.store.retired = s.store.retired)
    (threads : s'.threads = s.threads.set i new) (own : ∀ x, uses x new = true → uses x old = true)
    (idle : new.inside = false) : Covered s' := by
  refine start.moves found threads own (fun _ _ x _ held => held.carries current retired threads ?_)
  intro rest retained same
  subst same
  cases idle

theorem coveredStep {s s' : State} {a : Action} (sound : Sound s) (start : Covered s) (calm : undisturbed s a = true)
    (taken : Stepped s a s') : Covered s' := by
  cases taken with
  | refused => exact start
  | @loaded y current =>
    intro t present x use
    rcases List.mem_append.mp present with old | same
    · exact (start t old x use).joins rfl
    · cases List.mem_singleton.mp same
      have named : y.id = x := by simpa [uses,loads,holds] using use
      exact .inl (by simp [current,named])
  | entered =>
    intro t present x use
    rcases List.mem_append.mp present with old | same
    · exact (start t old x use).joins rfl
    · cases List.mem_singleton.mp same
      cases use
  | incremented found => exact start.turns found rfl rfl rfl (by simp [uses,loads,holds]) rfl
  | decremented found => exact start.turns found rfl rfl rfl (by simp [uses,loads,holds]) rfl
  | live found => exact start.turns found rfl rfl rfl (by simp [uses,loads,holds]) rfl
  | dead found => exact start.turns found rfl rfl rfl (by simp [uses,loads,holds]) rfl
  | used found => exact start.turns found rfl rfl rfl (by simp [uses,loads,holds]) rfl
  | unused found => exact start.turns found rfl rfl rfl (by simp [uses,loads,holds]) rfl
  | marks found free =>
    exact start.moves found rfl (by simp [uses,loads,holds]) (fun _ _ _ _ held => held.carries (by simp) (by simp) rfl nofun)
  | @publishes i now previous next found =>
    refine start.moves found rfl (by simp [uses,loads,holds]) ?_
    have loaded : previous.map Snapshot.id = s.store.current.map Snapshot.id := by
      simpa [undisturbed,found] using calm
    rintro t present x use held
    refine .inr ⟨?_,?_⟩
    · rcases held with current | ⟨inside,_⟩
      · rw [← loaded] at current
        obtain ⟨y,same,named⟩ := Option.map_eq_some_iff.mp current
        simp [publish,ids,same,named]
      · simp only [publish, ids, List.map_append, List.mem_append]
        exact .inl inside
    · intro rest retained scanning
      cases sound.one.alone found rfl scanning rfl
  | scans found free =>
    refine start.moves found rfl (by simp [uses,loads,holds]) (fun _ _ x _ held => held.carries rfl rfl rfl ?_)
    intro rest retained same inside _
    cases same
    exact inside
  | @keeps i now y later kept found positive =>
    refine start.moves found rfl (by simp [uses,loads,holds]) (fun _ _ x _ held => held.carries rfl rfl rfl ?_)
    intro rest retained same _ scanned
    cases same
    have before := scanned _ _ (Crew.member found)
    simpa [ids] using before
  | @drops i now y later kept found zero =>
    refine start.moves found rfl (by simp [uses,loads,holds]) ?_
    intro t present x use held
    by_cases named : y.id = x
    · -- Nobody uses a snapshot that the guard lets this scan pass over, unless it is current.
      subst named
      have idle : s.store.current.map Snapshot.id = some y.id ∨ ∀ t ∈ s.threads, loads y.id t = false := by
        simpa [undisturbed,found,zero] using calm
      rcases idle with current | unloaded
      · exact .inl current
      · have unheld : s.threads.countP (holds y.id) = 0 := by
          have holders := sound.counted.holders y.id
          omega
        have free := List.countP_eq_zero.mp unheld t present
        simp [uses,unloaded t present,free] at use
    · refine held.carries rfl rfl rfl ?_
      intro rest retained same _ scanned
      cases same
      have before := scanned _ _ (Crew.member found)
      simpa [ids,Ne.symm named] using before
  | @reaped i now retained found =>
    refine start.moves found rfl (by simp [uses,loads,holds]) ?_
    rintro t present x use (current | ⟨inside,scanned⟩)
    · exact .inl current
    · refine .inr ⟨?_,?_⟩
      · simpa [ids] using scanned _ _ (Crew.member found)
      · intro rest retained scanning
        cases sound.one.alone found rfl scanning rfl

theorem heldStays {initial : Option Snapshot} {as : List Action} {s : State}
    (run : Runs step (fun s a => undisturbed s a = true) (newStore initial) as s) {i : Nat} {x : Snapshot}
    (held : s.threads[i]? = some (.holding x)) :
    s.store.current.map Snapshot.id = some x.id ∨ x.id ∈ ids s.store.retired := by
  have covered : Sound s ∧ Covered s := by
    refine run.preserve (fun s => Sound s ∧ Covered s) ?_ ⟨soundStart initial,by simp [Covered,newStore]⟩
    intro s a t start calm taken
    exact ⟨soundStep start.1 (stepped taken),coveredStep start.1 start.2 calm (stepped taken)⟩
  rcases covered.2 _ (Crew.member held) x.id (by simp [uses,holds]) with current | retired
  · exact .inl current
  · exact .inr retired.1

theorem heldWhileReplaced :
    ∃ s, Runs step (fun s a => undisturbed s a = true) (newStore (some (bare 1)))
      [.acquire,.turn 0 tick,.swap (some (bare 2)),.turn 1 tick,.turn 1 tick,.turn 1 tick,.turn 1 tick,.turn 1 tick] s ∧
      s.threads[0]? = some (.holding (bare 1)) ∧
      (s.store.current.map Snapshot.id = some 1 ∨ 1 ∈ ids s.store.retired) := by
  obtain ⟨s,ran,held⟩ : ∃ s, runAll step (fun s a => undisturbed s a = true) (newStore (some (bare 1)))
      [.acquire,.turn 0 tick,.swap (some (bare 2)),.turn 1 tick,.turn 1 tick,.turn 1 tick,.turn 1 tick,.turn 1 tick] =
      some s ∧ s.threads[0]? = some (.holding (bare 1)) := ⟨_,rfl,rfl⟩
  have run := runAllRuns ran
  exact ⟨s,run,held,heldStays run held⟩

theorem heldForgotten :
    (∃ as s, Runs step anyStep (newStore (some (bare 1))) as s ∧ s.threads[0]? = some (.holding (bare 1)) ∧
      s.store.current.map Snapshot.id = some 2 ∧ ids s.store.retired = []) ∧
    ∃ as s, Runs step anyStep (newStore (some (bare 1))) as s ∧ s.threads[2]? = some (.holding (bare 2)) ∧
      s.store.current.map Snapshot.id = some 3 ∧ ids s.store.retired = [1] := by
  refine ⟨⟨[.acquire,.swap (some (bare 2)),.turn 1 tick,.turn 1 tick,.turn 1 tick,.turn 1 tick,.turn 1 tick,.turn 0 tick],
    ?_⟩,⟨[.swap (some (bare 2)),.swap (some (bare 3)),.turn 0 tick,.turn 0 tick,.turn 0 tick,.turn 0 tick,.turn 0 tick,
      .acquire,.turn 2 tick,.turn 1 tick,.turn 1 tick],?_⟩⟩
  · exact ⟨_,runAllRuns rfl,rfl,rfl,rfl⟩
  · exact ⟨_,runAllRuns rfl,rfl,rfl,rfl⟩

end ReverseProxy.SnapshotLifetimes
