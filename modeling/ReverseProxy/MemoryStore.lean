import ReverseProxy.Crew
import ReverseProxy.RequestFlow
import ReverseProxy.Transition

/-! Package cache, the memory store. Get reads the clock, then the map under the read
lock, and where the entry has expired deletes the key under the write lock, in a step of
its own. Set and Delete are one locked step each. `written` is what the Set and Delete
calls alone would have left: the map a caller believes in. -/
namespace ReverseProxy.MemoryStore
open GoValues FiniteMap
open RequestFlow (Response Serving getEntry setEntry)
open Transition (Runs anyStep runAll runAllRuns)

def defaultMaxObjectBytes : Int := 50 * 1024 * 1024

/- `expiresAt` is none where the code has the zero time. -/
structure Entry where
  response : Response
  expiresAt : Option Int

def Entry.expired (e : Entry) (now : Int) : Bool := e.expiresAt.any (fun expiresAt => decide (expiresAt < now))

structure Store where
  entries : Map Bytes Entry := .empty
  maxObjectBytes : Int

namespace Store

def new (maxObjectBytes : Int) : Store :=
  { maxObjectBytes := if maxObjectBytes ≤ 0 then defaultMaxObjectBytes else maxObjectBytes }

def delete (m : Store) (key : Bytes) : Store := { m with entries := m.entries.erase key }

def set (m : Store) (key : Bytes) (e : Entry) : Option String × Store :=
  if 0 < m.maxObjectBytes ∧ m.maxObjectBytes < e.response.body.length then
    (some "cache entry exceeds max object bytes",m)
  else (none,{ m with entries := m.entries.insert key e })

end Store

inductive Look where
  | missing
  | stale
  | fresh (e : Entry)

def Store.look (m : Store) (key : Bytes) (now : Int) : Look :=
  match m.entries.get key with
  | none => .missing
  | some e => if e.expired now then .stale else .fresh e

def Store.get (m : Store) (key : Bytes) (now : Int) : Option Entry × Store :=
  match m.look key now with
  | .missing => (none,m)
  | .stale => (none,m.delete key)
  | .fresh e => (some e,m)

/- A Get between its steps, with the clock reading it goes by. -/
inductive Call where
  | begun (key : Bytes) (now : Int)
  | stale (key : Bytes) (now : Int)
  | returned (key : Bytes) (now : Int) (result : Option Entry)

def Call.now : Call → Int
  | .begun _ now => now
  | .stale _ now => now
  | .returned _ now _ => now

structure State where
  clock : Int
  store : Store
  written : Map Bytes Entry := .empty
  calls : List Call := []

inductive Action where
  | tick (elapsed : Nat)
  | begin (key : Bytes)
  | look (i : Nat)
  | drop (i : Nat)
  | set (key : Bytes) (e : Entry)
  | delete (key : Bytes)

def initial (maxObjectBytes now : Int) : State := { clock := now, store := .new maxObjectBytes }

def afterLook (key : Bytes) (now : Int) : Look → Call
  | .missing => .returned key now none
  | .stale => .stale key now
  | .fresh e => .returned key now (some e)

def step (s : State) : Action → Option State
  | .tick elapsed => some { s with clock := s.clock + elapsed }
  | .begin key => some { s with calls := s.calls ++ [.begun key s.clock] }
  | .look i =>
    match s.calls[i]? with
    | some (.begun key now) => some { s with calls := s.calls.set i (afterLook key now (s.store.look key now)) }
    | _ => none
  | .drop i =>
    match s.calls[i]? with
    | some (.stale key now) =>
      some { s with store := s.store.delete key, calls := s.calls.set i (.returned key now none) }
    | _ => none
  | .set key e =>
    match s.store.set key e with
    | (some _,_) => some s
    | (none,m) => some { s with store := m, written := s.written.insert key e }
  | .delete key => some { s with store := s.store.delete key, written := s.written.erase key }

/- A Get's delete removes nothing, or an entry that has expired by then. -/
def spares (s : State) : Action → Bool
  | .drop i =>
    match s.calls[i]? with
    | some (.stale key _) => (s.store.entries.get key).all (fun e => e.expired s.clock)
    | _ => true
  | _ => true

def Spared (s : State) (a : Action) : Prop := spares s a = true

instance (s : State) (a : Action) : Decidable (Spared s a) := inferInstanceAs (Decidable (spares s a = true))

inductive Taken (s : State) : Action → State → Prop where
  | ticked (elapsed : Nat) : Taken s (.tick elapsed) { s with clock := s.clock + elapsed }
  | begun (key : Bytes) : Taken s (.begin key) { s with calls := s.calls ++ [.begun key s.clock] }
  | looked {i key now} (found : s.calls[i]? = some (.begun key now)) :
      Taken s (.look i) { s with calls := s.calls.set i (afterLook key now (s.store.look key now)) }
  | dropped {i key now} (found : s.calls[i]? = some (.stale key now)) :
      Taken s (.drop i) { s with store := s.store.delete key, calls := s.calls.set i (.returned key now none) }
  | refused {key e} : Taken s (.set key e) s
  | stored {key e} : Taken s (.set key e)
      { s with store := { s.store with entries := s.store.entries.insert key e }, written := s.written.insert key e }
  | deleted {key} : Taken s (.delete key) { s with store := s.store.delete key, written := s.written.erase key }

theorem stepTaken {s t : State} {a : Action} (taken : step s a = some t) : Taken s a t := by
  cases a with
  | tick elapsed =>
    cases taken
    exact .ticked elapsed
  | begin key =>
    cases taken
    exact .begun key
  | look i =>
    unfold step at taken
    dsimp only at taken
    split at taken
    · rename_i found
      cases taken
      exact .looked found
    · cases taken
  | drop i =>
    unfold step at taken
    dsimp only at taken
    split at taken
    · rename_i found
      cases taken
      exact .dropped found
    · cases taken
  | set key e =>
    unfold step Store.set at taken
    dsimp only at taken
    split at taken
    · cases taken
      exact .refused
    · rename_i same
      split at same
      · cases same
      · cases same
        cases taken
        exact .stored
  | delete key =>
    cases taken
    exact .deleted

theorem expiredLater {e : Entry} {now later : Int} (expired : e.expired now = true) (after : now ≤ later) :
    e.expired later = true := by
  unfold Entry.expired at expired ⊢
  cases expiresAt : e.expiresAt with
  | none =>
    rw [expiresAt] at expired
    cases expired
  | some at_ =>
    rw [expiresAt] at expired
    have before : at_ < now := of_decide_eq_true expired
    exact decide_eq_true (by omega : at_ < later)

theorem unexpiredEarlier {e : Entry} {now later : Int} (unexpired : e.expired later = false) (after : now ≤ later) :
    e.expired now = false := by
  cases expired : e.expired now with
  | false => rfl
  | true => exact absurd (expiredLater expired after) (by rw [unexpired]; decide)

theorem lookFresh {m : Store} {key : Bytes} {now : Int} {e : Entry} (there : m.entries.get key = some e)
    (unexpired : e.expired now = false) : m.look key now = .fresh e := by
  unfold Store.look
  rw [there]
  dsimp only
  rw [unexpired]
  rfl

theorem freshLook {m : Store} {key : Bytes} {now : Int} {e : Entry} (looked : m.look key now = .fresh e) :
    m.entries.get key = some e ∧ e.expired now = false := by
  unfold Store.look at looked
  split at looked
  · cases looked
  · split at looked
    · cases looked
    · rename_i there unexpired
      cases looked
      exact ⟨there,by simpa using unexpired⟩

theorem staleLook {m : Store} {key : Bytes} {now : Int} (looked : m.look key now = .stale) :
    ∃ e, m.entries.get key = some e ∧ e.expired now = true := by
  unfold Store.look at looked
  split at looked
  · cases looked
  · split at looked
    · rename_i e there expired
      exact ⟨e,there,expired⟩
    · cases looked

structure Backed (s : State) : Prop where
  past : ∀ c ∈ s.calls, c.now ≤ s.clock
  fresh : ∀ key now e, .returned key now (some e) ∈ s.calls → e.expired now = false
  present : ∀ key e, s.store.entries.get key = some e → s.written.get key = some e

def Held (s : State) : Prop :=
  ∀ key e, s.written.get key = some e → e.expired s.clock = false → s.store.entries.get key = some e

def Proper (clock : Int) (c : Call) : Prop :=
  c.now ≤ clock ∧ ∀ key now e, c = .returned key now (some e) → e.expired now = false

theorem backedIff (s : State) : Backed s ↔
    (∀ c ∈ s.calls, Proper s.clock c) ∧ s.store.entries.Carries (fun _ => True) s.written where
  mp backed := by
    refine ⟨fun c inside => ⟨backed.past c inside,fun key now e same => ?_⟩,fun key e there _ => backed.present key e there⟩
    subst same
    exact backed.fresh key now e inside
  mpr
    | ⟨calls,present⟩ => {
      past := fun c inside => (calls c inside).1
      fresh := fun key now e inside => (calls _ inside).2 key now e rfl
      present := fun key e there => present key e there trivial }

theorem heldIff (s : State) : Held s ↔ s.written.Carries (fun e => e.expired s.clock = false) s.store.entries := Iff.rfl

theorem initialBacked (maxObjectBytes now : Int) : Backed (initial maxObjectBytes now) where
  past c inside := absurd inside List.not_mem_nil
  fresh key now e inside := absurd inside List.not_mem_nil
  present key e there := by cases there

theorem afterLookProper {clock : Int} {m : Store} {key : Bytes} {now : Int} (past : now ≤ clock) :
    Proper clock (afterLook key now (m.look key now)) := by
  cases looked : m.look key now with
  | missing => exact ⟨past,fun _ _ _ same => by cases same⟩
  | stale => exact ⟨past,fun _ _ _ same => by cases same⟩
  | fresh e =>
    refine ⟨past,fun key' now' e' same => ?_⟩
    cases same
    exact (freshLook looked).2

theorem movedProper {s : State} {i : Nat} {old new : Call} (calls : ∀ c ∈ s.calls, Proper s.clock c)
    (found : s.calls[i]? = some old) (proper : Proper s.clock new) : ∀ c ∈ s.calls.set i new, Proper s.clock c := by
  intro c inside
  obtain ⟨j,there⟩ := List.mem_iff_getElem?.mp inside
  rcases Crew.atMove found there with ⟨_,rfl⟩ | ⟨_,kept⟩
  · exact proper
  · exact calls c (Crew.member kept)

theorem takenBacked {s t : State} {a : Action} (backed : Backed s) (taken : Taken s a t) : Backed t := by
  rw [backedIff] at backed ⊢
  obtain ⟨calls,present⟩ := backed
  cases taken with
  | ticked elapsed =>
    refine ⟨fun c inside => ⟨?_,(calls c inside).2⟩,present⟩
    have before := (calls c inside).1
    dsimp only
    omega
  | begun key =>
    refine ⟨fun c inside => ?_,present⟩
    rcases List.mem_append.mp inside with old | new
    · exact calls c old
    · cases List.mem_singleton.mp new
      exact ⟨Int.le_refl _,fun _ _ _ same => by cases same⟩
  | looked found => exact ⟨movedProper calls found (afterLookProper (calls _ (Crew.member found)).1),present⟩
  | dropped found =>
    have proper := (calls _ (Crew.member found)).1
    exact ⟨movedProper calls found ⟨proper,fun _ _ _ same => by cases same⟩,present.eraseLeft _⟩
  | refused => exact ⟨calls,present⟩
  | stored => exact ⟨calls,present.insert _ _⟩
  | deleted => exact ⟨calls,present.erase _⟩

theorem sparesDrop {s : State} {i : Nat} {key : Bytes} {now : Int} {e : Entry}
    (found : s.calls[i]? = some (.stale key now)) (there : s.store.entries.get key = some e) :
    Spared s (.drop i) ↔ e.expired s.clock = true := by
  unfold Spared spares
  dsimp only
  rw [found]
  dsimp only
  rw [there]
  rfl

theorem takenHeld {s t : State} {a : Action} (held : Held s) (spared : Spared s a) (taken : Taken s a t) : Held t := by
  rw [heldIff] at held ⊢
  cases taken with
  | ticked elapsed =>
    intro key e wrote unexpired
    refine held key e wrote (unexpiredEarlier unexpired ?_)
    dsimp only
    omega
  | begun key => exact held
  | looked found => exact held
  | @dropped i key now found =>
    intro key' e wrote unexpired
    have there := held key' e wrote unexpired
    unfold Store.delete
    dsimp only
    rw [Map.getErase]
    split
    · -- the entry would be removed, and the guard says that it has expired
      rename_i same
      subst same
      exact absurd unexpired (by rw [(sparesDrop found there).mp spared]; decide)
    · exact there
  | refused => exact held
  | stored => exact held.insert _ _
  | deleted => exact held.erase _

theorem lookReturns {s : State} (backed : Backed s) (held : Held s) {key : Bytes} {e : Entry}
    (wrote : s.written.get key = some e) (unexpired : e.expired s.clock = false) {i : Nat} {now : Int}
    (found : s.calls[i]? = some (.begun key now)) :
    ∃ t, step s (.look i) = some t ∧ t.calls[i]? = some (.returned key now (some e)) := by
  have early : e.expired now = false := unexpiredEarlier unexpired (backed.past _ (Crew.member found))
  have looked := lookFresh (held key e wrote unexpired) early
  refine ⟨{ s with calls := s.calls.set i (.returned key now (some e)) },?_,Crew.placed found _⟩
  unfold step
  dsimp only
  rw [found]
  dsimp only
  rw [looked]
  rfl

/- Where the guard fails, an entry is lost: the condition cannot be weaker. -/
theorem unsparedLoses {s : State} (backed : Backed s) {i : Nat} (possible : (step s (.drop i)).isSome)
    (unspared : ¬Spared s (.drop i)) : ∃ t, step s (.drop i) = some t ∧ ¬Held t := by
  obtain ⟨t,taken⟩ := Option.isSome_iff_exists.mp possible
  refine ⟨t,taken,fun held => ?_⟩
  cases stepTaken taken with
  | @dropped _ key now found =>
    cases there : s.store.entries.get key with
    | none =>
      refine unspared ?_
      unfold Spared spares
      dsimp only
      rw [found]
      dsimp only
      rw [there]
      rfl
    | some e =>
      have unexpired : e.expired s.clock = false := by
        rw [sparesDrop found there] at unspared
        exact Bool.eq_false_iff.mpr unspared
      have kept := held key e (backed.present key e there) unexpired
      unfold Store.delete at kept
      dsimp only at kept
      rw [Map.getErase, if_pos rfl] at kept
      cases kept

theorem getAlone (s : State) (key : Bytes) : ∃ actions t, Runs step Spared s actions t ∧
    t.store = (s.store.get key s.clock).2 ∧ t.calls = s.calls ++ [.returned key s.clock (s.store.get key s.clock).1] := by
  have placed (new : Call) : (s.calls ++ [new])[s.calls.length]? = some new := List.getElem?_concat_length
  have moved (old new : Call) : (s.calls ++ [old]).set s.calls.length new = s.calls ++ [new] := by
    rw [List.set_append_right _ _ (Nat.le_refl _), Nat.sub_self]
    rfl
  have looks : step { s with calls := s.calls ++ [.begun key s.clock] } (.look s.calls.length) =
      some { s with calls := s.calls ++ [afterLook key s.clock (s.store.look key s.clock)] } := by
    unfold step
    dsimp only
    rw [placed]
    dsimp only
    rw [moved]
  have run : Runs step Spared s [.begin key,.look s.calls.length]
      { s with calls := s.calls ++ [afterLook key s.clock (s.store.look key s.clock)] } :=
    .cons rfl rfl (.cons rfl looks (.nil _))
  unfold Store.get
  cases looked : s.store.look key s.clock with
  | missing =>
    rw [looked] at run
    exact ⟨_,_,run,rfl,rfl⟩
  | fresh e =>
    rw [looked] at run
    exact ⟨_,_,run,rfl,rfl⟩
  | stale =>
    rw [looked] at run
    have drops : step { s with calls := s.calls ++ [.stale key s.clock] } (.drop s.calls.length) =
        some { s with store := s.store.delete key, calls := s.calls ++ [.returned key s.clock none] } := by
      unfold step
      dsimp only
      rw [placed]
      dsimp only
      rw [moved]
    obtain ⟨e,there,expired⟩ := staleLook looked
    have spared : Spared { s with calls := s.calls ++ [.stale key s.clock] } (.drop s.calls.length) :=
      (sparesDrop (s := { s with calls := s.calls ++ [.stale key s.clock] }) (placed _) there).mpr expired
    exact ⟨_,_,run.append (.cons spared drops (.nil _)),rfl,rfl⟩

def entryOf (e : RequestFlow.Entry) : Entry := ⟨e.response,some e.expiresAt⟩

def storeOf (s : Serving) : Store := ⟨s.entries.mapValues entryOf,s.maxObjectBytes⟩

theorem getEntryGets (s : Serving) (key : Bytes) (now : Int) :
    (storeOf s).get key now = ((getEntry s key now).1.map entryOf,storeOf (getEntry s key now).2) := by
  have found : (storeOf s).entries.get key = (s.entries.get key).map entryOf := Map.getMapValues ..
  unfold Store.get Store.look getEntry
  rw [found]
  cases there : s.entries.get key with
  | none => rfl
  | some e =>
    by_cases expired : e.expiresAt < now
    · have stale : (entryOf e).expired now = true := decide_eq_true expired
      dsimp only [Option.map_some]
      rw [stale, if_pos expired]
      dsimp only [storeOf, Store.delete]
      rw [Map.mapValuesErase]
      rfl
    · have fresh : (entryOf e).expired now = false := decide_eq_false expired
      dsimp only [Option.map_some]
      rw [fresh, if_neg expired]
      rfl

theorem setEntrySets (s : Serving) (key : Bytes) (e : RequestFlow.Entry) :
    ((storeOf s).set key (entryOf e)).2 = storeOf (setEntry s key e) := by
  unfold Store.set setEntry
  by_cases large : 0 < s.maxObjectBytes ∧ s.maxObjectBytes < e.response.body.length
  · rw [if_pos large]
    exact congrArg Prod.snd (if_pos large)
  · rw [if_neg large]
    refine (congrArg Prod.snd (if_neg large)).trans ?_
    exact congrArg (fun entries => Store.mk entries s.maxObjectBytes) (Map.mapValuesInsert ..).symm

theorem storeKeepsFresh {maxObjectBytes now : Int} {actions : List Action} {s : State}
    (run : Runs step Spared (initial maxObjectBytes now) actions s) :
    (∀ key read e, .returned key read (some e) ∈ s.calls → e.expired read = false) ∧
    (∀ key e, s.written.get key = some e → e.expired s.clock = false → ∀ i read,
      s.calls[i]? = some (.begun key read) →
      ∃ t, step s (.look i) = some t ∧ t.calls[i]? = some (.returned key read (some e))) := by
  have backed : Backed s ∧ Held s := run.preserve (fun s => Backed s ∧ Held s)
    (fun _ _ _ kept spared taken => ⟨takenBacked kept.1 (stepTaken taken),takenHeld kept.2 spared (stepTaken taken)⟩)
    ⟨initialBacked maxObjectBytes now,fun key e wrote => nomatch wrote⟩
  exact ⟨backed.1.fresh,fun key e wrote unexpired i read found => lookReturns backed.1 backed.2 wrote unexpired found⟩

def entryUntil (expiresAt : Int) : Entry := ⟨⟨200,.empty,[0x61]⟩,some expiresAt⟩

def refreshAfterDrop : List Action :=
  [.set [0x6B] (entryUntil 5),.tick 10,.begin [0x6B],.look 0,.drop 0,.set [0x6B] (entryUntil 100),.begin [0x6B]]

theorem refreshedReturns : ∃ s t, Runs step Spared (initial 0 0) refreshAfterDrop s ∧
    (entryUntil 100).expired s.clock = false ∧ step s (.look 1) = some t ∧
    t.calls[1]? = some (.returned [0x6B] 10 (some (entryUntil 100))) := by
  have run : Runs step Spared (initial 0 0) refreshAfterDrop _ := runAllRuns rfl
  obtain ⟨t,taken,returned⟩ := (storeKeepsFresh run).2 [0x6B] (entryUntil 100) rfl rfl 1 10 rfl
  exact ⟨_,t,run,rfl,taken,returned⟩

def refreshBeforeDrop : List Action :=
  [.set [0x6B] (entryUntil 5),.tick 10,.begin [0x6B],.look 0,.set [0x6B] (entryUntil 100),.drop 0,.begin [0x6B],.look 1]

theorem refreshLost : ∃ s, Runs step anyStep (initial 0 0) refreshBeforeDrop s ∧
    s.written.get [0x6B] = some (entryUntil 100) ∧ (entryUntil 100).expired s.clock = false ∧
    s.calls[1]? = some (.returned [0x6B] 10 none) :=
  ⟨_,runAllRuns rfl,rfl,rfl,rfl⟩

end ReverseProxy.MemoryStore
