import ReverseProxy.SnapshotLifetimes

/-! What a sequence of Swaps leaves in the retired list and in the retirement marks.
The list and the marks tell the current snapshot from the replaced ones as long as
each Swap replaces the snapshot it loaded by one that was never installed before. -/
namespace ReverseProxy.RetiredList
open SnapshotStore StoreSteps SnapshotLifetimes
open Transition (Runs anyStep runAllRuns runAll)

def currentId (s : State) : Option Nat := s.store.current.map Snapshot.id

structure Tidy (s : State) : Prop where
  once : (ids s.store.retired).Nodup
  apart : ∀ x, currentId s = some x → x ∉ ids s.store.retired
  unmarked : ∀ x, currentId s = some x → ¬0 < s.store.retiredAt x
  marked : ∀ x ∈ s.installed, currentId s ≠ some x → 0 < s.store.retiredAt x

def swaps : Thread → Bool
  | .swapping _ _ => true
  | .marked _ _ => true
  | _ => false

def succeeding (s : State) : Action → Bool
  | .turn i _ =>
    match s.threads[i]? with
    | some (.marked previous next) =>
      previous.map Snapshot.id == currentId s && next.all (fun x => decide (x.id ∉ s.installed))
    | _ => true
  | _ => true

def loadedBy (x : Nat) : Thread → Bool
  | .swapping previous _ => previous.map Snapshot.id == some x
  | .marked previous _ => previous.map Snapshot.id == some x
  | _ => false

structure Ordered (s : State) : Prop where
  once : (ids s.store.retired).Nodup
  apart : ∀ x, currentId s = some x → x ∉ ids s.store.retired
  unmarked : ∀ x, currentId s = some x → 0 < s.store.retiredAt x → ∃ t ∈ s.threads, swaps t = true
  marked : ∀ x ∈ s.installed, currentId s ≠ some x → 0 < s.store.retiredAt x
  retiredKnown : ∀ x ∈ ids s.store.retired, x ∈ s.installed
  currentKnown : ∀ x, currentId s = some x → x ∈ s.installed
  markedKnown : ∀ x, 0 < s.store.retiredAt x → x ∈ s.installed
  loadedKnown : ∀ t ∈ s.threads, ∀ x, loadedBy x t = true → x ∈ s.installed

theorem Ordered.tidy {s : State} (start : Ordered s) (none : ∀ t ∈ s.threads, swaps t = false) : Tidy s := by
  refine ⟨start.once,start.apart,?_,start.marked⟩
  intro x current mark
  obtain ⟨t,present,swapping⟩ := start.unmarked x current mark
  rw [none t present] at swapping
  cases swapping

theorem Ordered.moves {s s' : State} {i : Nat} {old new : Thread} (start : Ordered s) (found : s.threads[i]? = some old)
    (threads : s'.threads = s.threads.set i new) (store : s'.store.current = s.store.current ∧
      s'.store.retired = s.store.retired ∧ s'.store.retiredAt = s.store.retiredAt) (installed : s'.installed = s.installed)
    (before : swaps old = false) (after : swaps new = false) : Ordered s' := by
  obtain ⟨current,retired,retiredAt⟩ := store
  have same : currentId s' = currentId s := by rw [currentId, current]; rfl
  refine ⟨?_,?_,?_,?_,?_,?_,?_,?_⟩
  all_goals simp only [same, retired, retiredAt, installed, threads]
  · exact start.once
  · exact start.apart
  · intro x current mark
    obtain ⟨t,present,swapping⟩ := start.unmarked x current mark
    refine ⟨t,Crew.stays found present ?_ new,swapping⟩
    rintro rfl
    rw [before] at swapping
    cases swapping
  · exact start.marked
  · exact start.retiredKnown
  · exact start.currentKnown
  · exact start.markedKnown
  · intro t present x loaded
    rcases List.mem_or_eq_of_mem_set present with earlier | same
    · exact start.loadedKnown t earlier x loaded
    · subst same
      cases t <;> simp [swaps,loadedBy] at after loaded

theorem Ordered.joins {s : State} {new : Thread} (start : Ordered s)
    (known : ∀ x, loadedBy x new = true → x ∈ s.installed) : Ordered { s with threads := s.threads ++ [new] } := by
  refine ⟨start.once,start.apart,?_,start.marked,start.retiredKnown,start.currentKnown,start.markedKnown,?_⟩
  · intro x current mark
    obtain ⟨t,present,swapping⟩ := start.unmarked x current mark
    exact ⟨t,List.mem_append_left _ present,swapping⟩
  · intro t present x loaded
    rcases List.mem_append.mp present with old | same
    · exact start.loadedKnown t old x loaded
    · cases List.mem_singleton.mp same
      exact known x loaded

theorem Ordered.marks {s : State} {i : Nat} {previous next : Option Snapshot} (start : Ordered s) (now : Instant)
    (found : s.threads[i]? = some (.swapping previous next)) : Ordered
      { s.move i (.marked previous next) with store := markRetired s.store previous now, locked := true } := by
  have same : currentId { s.move i (.marked previous next) with store := markRetired s.store previous now, locked := true } =
    currentId s := by simp [currentId]
  have loaded (x : Nat) (named : previous.map Snapshot.id = some x) : x ∈ s.installed :=
    start.loadedKnown _ (Crew.member found) x (by simpa [loadedBy] using named)
  refine ⟨?_,?_,?_,?_,?_,?_,?_,?_⟩
  all_goals simp only [same, markRetiredList]
  · exact start.once
  · exact start.apart
  · intro x current mark
    exact ⟨_,Crew.moved found _,rfl⟩
  · intro x inside other
    exact markStays (start.marked x inside other) previous now
  · exact start.retiredKnown
  · exact start.currentKnown
  · intro x mark
    by_cases named : previous.map Snapshot.id = some x
    · exact loaded x named
    · apply start.markedKnown x
      cases previous with
      | none => exact mark
      | some y =>
        have other : x ≠ y.id := by
          rintro rfl
          exact named rfl
        simpa [markRetired,other] using mark
  · intro t present x names
    rcases List.mem_or_eq_of_mem_set present with earlier | same
    · exact start.loadedKnown t earlier x names
    · subst same
      exact loaded x (by simpa [loadedBy] using names)

/- The published snapshot is new, so nothing the store already names is it. -/
theorem Ordered.publishes {s : State} {i : Nat} {previous next : Option Snapshot} (start : Ordered s) (sound : Sound s)
    (found : s.threads[i]? = some (.marked previous next)) (replaces : previous.map Snapshot.id = currentId s)
    (fresh : ∀ x, next.map Snapshot.id = some x → x ∉ s.installed) : Ordered { s.move i .reaping with
      store := publish s.store previous next
      locked := false
      installed := s.installed ++ (next.map Snapshot.id).toList } := by
  have current : ∀ x, x ∈ ids (publish s.store previous next).retired ↔
      x ∈ ids s.store.retired ∨ currentId s = some x := by
    intro x
    rw [← replaces]
    cases previous <;> simp [publish,ids,eq_comm]
  have known (x : Nat) (inside : x ∈ ids (publish s.store previous next).retired) : x ∈ s.installed := by
    rcases (current x).mp inside with retired | named
    · exact start.retiredKnown x retired
    · exact start.currentKnown x named
  refine ⟨?_,?_,?_,?_,?_,?_,?_,?_⟩
  · cases previous with
    | none => simpa [publish] using start.once
    | some y =>
      have away : y.id ∉ ids s.store.retired := start.apart y.id replaces.symm
      simp only [publish, ids, Option.toList_some, List.map_append, List.map_cons, List.map_nil]
      refine List.nodup_append.mpr ⟨start.once,List.pairwise_singleton _ _,?_⟩
      intro a inside b last same
      rw [List.mem_singleton.mp last] at same
      exact away (same ▸ inside)
  · intro x named inside
    exact fresh x named (known x inside)
  · intro x named mark
    exact absurd (start.markedKnown x mark) (fresh x named)
  · intro x inside other
    rcases List.mem_append.mp inside with earlier | last
    · by_cases named : currentId s = some x
      · rw [← replaces] at named
        obtain ⟨y,loaded,rfl⟩ := Option.map_eq_some_iff.mp named
        subst loaded
        exact sound.reclaims.marking y next (Crew.member found)
      · exact start.marked x earlier named
    · rw [Option.mem_toList] at last
      exact absurd last other
  · intro x inside
    exact List.mem_append_left _ (known x inside)
  · intro x named
    refine List.mem_append_right _ ?_
    rwa [Option.mem_toList]
  · intro x mark
    exact List.mem_append_left _ (start.markedKnown x mark)
  · intro t present x names
    rcases List.mem_or_eq_of_mem_set present with earlier | same
    · exact List.mem_append_left _ (start.loadedKnown t earlier x names)
    · subst same
      cases names

theorem Ordered.reaps {s : State} {i : Nat} {retained : List Snapshot} (start : Ordered s)
    (found : s.threads[i]? = some (.scanning [] retained)) (kept : retained.Sublist s.store.retired) : Ordered
      { s.move i .returned with store := { s.store with retired := retained }, locked := false } := by
  have part : (ids retained).Sublist (ids s.store.retired) := kept.map _
  have rest : Ordered { s.move i .returned with locked := false } := start.moves found rfl ⟨rfl,rfl,rfl⟩ rfl rfl rfl
  refine ⟨start.once.sublist part,?_,rest.unmarked,rest.marked,?_,rest.currentKnown,rest.markedKnown,rest.loadedKnown⟩
  · intro x named inside
    exact start.apart x named (part.subset inside)
  · intro x inside
    exact start.retiredKnown x (part.subset inside)

theorem orderedStep {s s' : State} {a : Action} (sound : Sound s) (start : Ordered s) (calm : succeeding s a = true)
    (taken : Stepped s a s') : Ordered s' := by
  cases taken with
  | refused => exact start
  | loaded => exact start.joins (by simp [loadedBy])
  | entered =>
    refine start.joins ?_
    intro x loaded
    exact start.currentKnown x (beq_iff_eq.mp loaded)
  | incremented found => exact start.moves found rfl ⟨rfl,rfl,rfl⟩ rfl rfl rfl
  | decremented found => exact start.moves found rfl ⟨rfl,rfl,rfl⟩ rfl rfl rfl
  | live found => exact start.moves found rfl ⟨rfl,rfl,rfl⟩ rfl rfl rfl
  | dead found => exact start.moves found rfl ⟨rfl,rfl,rfl⟩ rfl rfl rfl
  | used found => exact start.moves found rfl ⟨rfl,rfl,rfl⟩ rfl rfl rfl
  | unused found => exact start.moves found rfl ⟨rfl,rfl,rfl⟩ rfl rfl rfl
  | marks found => exact start.marks _ found
  | @publishes i now previous next found =>
    have both : previous.map Snapshot.id = currentId s ∧ next.all (fun x => decide (x.id ∉ s.installed)) = true := by
      simpa [succeeding,found] using calm
    refine start.publishes sound found both.1 ?_
    intro x named
    obtain ⟨y,loaded,rfl⟩ := Option.map_eq_some_iff.mp named
    simpa [loaded] using both.2
  | scans found => exact start.moves found rfl ⟨rfl,rfl,rfl⟩ rfl rfl rfl
  | keeps found => exact start.moves found rfl ⟨rfl,rfl,rfl⟩ rfl rfl rfl
  | drops found => exact start.moves found rfl ⟨rfl,rfl,rfl⟩ rfl rfl rfl
  | reaped found => exact start.reaps found (by simpa using sound.scan _ _ (Crew.member found))

theorem orderedStart (initial : Option Snapshot) : Ordered (newStore initial) := by
  refine ⟨?_,?_,?_,?_,?_,?_,?_,?_⟩ <;> simp [newStore,ids,currentId]

theorem replacedTidily {initial : Option Snapshot} {as : List Action} {s : State}
    (run : Runs step (fun s a => succeeding s a = true) (newStore initial) as s)
    (none : ∀ t ∈ s.threads, swaps t = false) : Tidy s := by
  have ordered : Sound s ∧ Ordered s := by
    refine run.preserve (fun s => Sound s ∧ Ordered s) ?_ ⟨soundStart initial,orderedStart initial⟩
    intro s a t start calm taken
    exact ⟨soundStep start.1 (stepped taken),orderedStep start.1 start.2 calm (stepped taken)⟩
  exact ordered.2.tidy none

/- A request takes the first snapshot and holds it while the next two are put in place. -/
def replacing : List Action :=
  [.acquire,.turn 0 tick,.swap (some (bare 2)),.turn 1 tick,.turn 1 tick,.turn 1 tick,.turn 1 tick,.turn 1 tick,
    .swap (some (bare 3)),.turn 2 tick,.turn 2 tick,.turn 2 tick,.turn 2 tick,.turn 2 tick,.turn 2 tick]

theorem replacedTwice :
    ∃ s, Runs step (fun s a => succeeding s a = true) (newStore (some (bare 1))) replacing s ∧
      s.threads = [.holding (bare 1),.returned,.returned] ∧ currentId s = some 3 ∧ ids s.store.retired = [1] ∧ Tidy s := by
  obtain ⟨s,ran,threads,current,retired⟩ : ∃ s, runAll step (fun s a => succeeding s a = true) (newStore (some (bare 1)))
      replacing = some s ∧ s.threads = [.holding (bare 1),.returned,.returned] ∧ currentId s = some 3 ∧
      ids s.store.retired = [1] := ⟨_,rfl,rfl,rfl,rfl⟩
  have run := runAllRuns ran
  have none : ∀ t ∈ s.threads, swaps t = false := by simp [threads,swaps]
  exact ⟨s,run,threads,current,retired,replacedTidily run none⟩

theorem rollbackListsCurrent :
    (∃ as s, Runs step anyStep (newStore (some (bare 1))) as s ∧ (∀ t ∈ s.threads, swaps t = false) ∧
      currentId s = some 1 ∧ 0 < s.store.retiredAt 1 ∧ 1 ∈ ids s.store.retired) ∧
    ∃ as s, Runs step anyStep (newStore (some (bare 1))) as s ∧ (∀ t ∈ s.threads, swaps t = false) ∧
      currentId s = some 3 ∧ 2 ∈ s.installed ∧ s.store.retiredAt 2 = 0 ∧ ids s.store.retired = [1,1] := by
  refine ⟨⟨[.acquire,.turn 0 tick,.swap (some (bare 2)),.turn 1 tick,.turn 1 tick,.turn 1 tick,.turn 1 tick,.turn 1 tick,
      .swap (some (bare 1)),.turn 2 tick,.turn 2 tick,.turn 2 tick,.turn 2 tick,.turn 2 tick,.turn 2 tick],?_⟩,
    ⟨[.acquire,.turn 0 tick,.swap (some (bare 2)),.swap (some (bare 3)),.turn 1 tick,.turn 1 tick,.turn 1 tick,.turn 1 tick,
      .turn 1 tick,.turn 2 tick,.turn 2 tick,.turn 2 tick,.turn 2 tick,.turn 2 tick,.turn 2 tick],?_⟩⟩
  · refine ⟨_,runAllRuns rfl,?_,rfl,by decide,?_⟩
    · decide
    · decide
  · refine ⟨_,runAllRuns rfl,?_,rfl,?_,rfl,rfl⟩
    · decide
    · decide

end ReverseProxy.RetiredList
