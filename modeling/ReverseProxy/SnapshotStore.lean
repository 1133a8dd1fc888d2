import ReverseProxy.SnapshotBuild

/-! runtime.Store: the current snapshot and the retired ones that requests still
hold. Reference counts and retirement times belong to the snapshot objects, so
they are kept by snapshot ID. A count is an int64 that never passes the number of
callers (SnapshotLifetimes), so no wrap is modelled. -/
namespace ReverseProxy.SnapshotStore
open GoValues
open SnapshotBuild (Compiled)

structure Snapshot where
  id : Nat
  version : Bytes
  source : String
  compiled : Compiled

structure Store where
  current : Option Snapshot := none
  retired : List Snapshot := []
  refCount : Nat → Int := fun _ => 0
  retiredAt : Nat → Int := fun _ => 0
  maxRetired : Int := 10

namespace Store

def reap (s : Store) : Store := { s with retired := s.retired.filter (fun x => s.refCount x.id ≠ 0) }

def addRef (s : Store) (id : Nat) (delta : Int) : Store :=
  { s with refCount := fun x => if x = id then s.refCount id + delta else s.refCount x }

def acquire (s : Store) : Option Snapshot × Store :=
  match s.current with
  | none => (none,s)
  | some snapshot => (some snapshot,s.addRef snapshot.id 1)

def release (s : Store) (snapshot : Snapshot) : Store :=
  let s := s.addRef snapshot.id (-1)
  if 0 < s.retiredAt snapshot.id ∧ s.refCount snapshot.id = 0 then s.reap else s

def swap (s : Store) (next : Option Snapshot) (now : Int) : Store :=
  match s.current with
  | none => reap { s with current := next }
  | some previous => reap { s with
      current := next
      retired := s.retired ++ [previous]
      retiredAt := fun x => if x = previous.id then now else s.retiredAt x }

def underPressure (s : Store) : Bool :=
  decide ((if s.maxRetired ≤ 0 then 10 else s.maxRetired) ≤ s.retired.length)

theorem addRefCount (s : Store) (id : Nat) (delta : Int) (x : Nat) :
    (s.addRef id delta).refCount x = s.refCount x + if x = id then delta else 0 := by
  unfold addRef
  by_cases same : x = id <;> simp [same]

@[simp] theorem swapCurrent (s : Store) (next now) : (s.swap next now).current = next := by
  unfold swap
  split <;> rfl

@[simp] theorem acquireCurrent (s : Store) : s.acquire.2.current = s.current := by
  unfold acquire
  split <;> rfl

@[simp] theorem releaseCurrent (s : Store) (snapshot : Snapshot) : (s.release snapshot).current = s.current := by
  unfold release
  dsimp only
  split <;> rfl

end Store
end ReverseProxy.SnapshotStore
