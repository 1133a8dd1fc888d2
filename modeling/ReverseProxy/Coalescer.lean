import ReverseProxy.Crew
import ReverseProxy.FiniteMap
import ReverseProxy.GoValues
import ReverseProxy.Transition

/-! cache.Coalescer under the handler's protocol. Start, and the deletion at the head
of Finish, hold the mutex and are one step each. The assignments of Finish, the close
of the channel and the answer of Wait are steps of their own, so a flight that has left
the map may be followed, replaced and finished in any order. -/
namespace ReverseProxy.Coalescer
open GoValues (Bytes Duration)
open FiniteMap (Table)
open Transition (Runs anyStep runAll runAllRuns)

structure Outcome (E X : Type) where
  entry : E
  ok : Bool
  err : Option X
  deriving DecidableEq, Repr

/- `closes` counts the calls of close on the done channel, of which a second one
would panic. -/
structure Flight (E X : Type) where
  closes : Nat
  result : E
  ok : Bool
  err : Option X
  deriving DecidableEq, Repr

/- The statement of Finish that comes next once the mutex is free again. -/
inductive Leg where
  | result
  | ok
  | err
  | close
  deriving DecidableEq, Repr

/- A request after its Start: turned away, leading, inside Finish, past it, waiting,
or back from Wait with a result or without. -/
inductive Role (E X : Type) where
  | alone
  | leading (key : Bytes) (flight : Nat)
  | finishing (key : Bytes) (flight : Nat) (out : Outcome E X) (leg : Leg)
  | led (key : Bytes) (flight : Nat) (out : Outcome E X)
  | following (key : Bytes) (flight : Nat)
  | received (key : Bytes) (flight : Nat) (out : Outcome E X)
  | brokeAway (key : Bytes) (flight : Nat)
  deriving DecidableEq, Repr

def Role.outstanding {E X : Type} : Role E X → Bool
  | .leading _ _ | .finishing _ _ _ _ => true
  | _ => false

structure State (E X : Type) where
  flights : Table Bytes Nat := {}
  maxFlights : Int
  heap : List (Flight E X) := []
  requests : List (Role E X) := []
  deriving DecidableEq, Repr

def defaultMaxFlights : Int := 10000

section
variable {E X : Type}

def newCoalescer (maxFlights : Int) : State E X :=
  { maxFlights := if maxFlights ≤ 0 then defaultMaxFlights else maxFlights }

namespace State

def join (s : State E X) (r : Role E X) : State E X := { s with requests := s.requests ++ [r] }

def move (s : State E X) (i : Nat) (r : Role E X) : State E X := { s with requests := s.requests.set i r }

end State

section
variable [Inhabited E]

def newFlight : Flight E X := ⟨0,default,false,none⟩

def start (s : State E X) (key : Bytes) : State E X :=
  if key = [] then s.join .alone
  else match s.flights.get key with
    | some flight => s.join (.following key flight)
    | none =>
      if 0 < s.maxFlights ∧ s.maxFlights ≤ s.flights.len then s.join .alone
      else { s.join (.leading key s.heap.length) with
        flights := s.flights.insert key s.heap.length
        heap := s.heap ++ [newFlight] }

end

def unlink (s : State E X) (key : Bytes) (flight : Nat) : Table Bytes Nat :=
  if s.flights.get key = some flight then s.flights.erase key else s.flights

theorem unlinkLen (s : State E X) (key : Bytes) (flight : Nat) : (unlink s key flight).len ≤ s.flights.len := by
  unfold unlink
  split
  · exact Table.lenErase s.flights key
  · exact Nat.le_refl _

/- Finish after its Unlock, statement by statement. -/
def assign (c : Flight E X) (out : Outcome E X) : Leg → Flight E X × Option Leg
  | .result => ({ c with result := out.entry },some .ok)
  | .ok => ({ c with ok := out.ok },some .err)
  | .err => ({ c with err := out.err },some .close)
  | .close => ({ c with closes := c.closes + 1 },none)

def finished (key : Bytes) (flight : Nat) (out : Outcome E X) : Option Leg → Role E X
  | some leg => .finishing key flight out leg
  | none => .led key flight out

def publish (s : State E X) (i : Nat) (key : Bytes) (flight : Nat) (out : Outcome E X) (leg : Leg) : Option (State E X) :=
  s.heap[flight]?.map (fun c =>
    { s.move i (finished key flight out (assign c out leg).2) with heap := s.heap.set flight (assign c out leg).1 })

/- The select of Wait; when both channels are ready either may be taken. -/
def wait (s : State E X) (i : Nat) (key : Bytes) (flight : Nat) (timeout : Duration) (fired : Bool) : Option (State E X) :=
  if timeout ≤ 0 ∨ fired then some (s.move i (.brokeAway key flight))
  else s.heap[flight]?.bind (fun c =>
    if 0 < c.closes then some (s.move i (.received key flight ⟨c.result,c.ok,c.err⟩)) else none)

inductive Action (E X : Type) where
  | start (key : Bytes)
  | finish (i : Nat) (out : Outcome E X)
  | publish (i : Nat)
  | wait (i : Nat) (timeout : Duration) (fired : Bool)
  deriving DecidableEq, Repr

def step [Inhabited E] (s : State E X) : Action E X → Option (State E X)
  | .start key => some (start s key)
  | .finish i out =>
    match s.requests[i]? with
    | some (.leading key flight) =>
      some { s.move i (.finishing key flight out .result) with flights := unlink s key flight }
    | _ => none
  | .publish i =>
    match s.requests[i]? with
    | some (.finishing key flight out leg) => publish s i key flight out leg
    | _ => none
  | .wait i timeout fired =>
    match s.requests[i]? with
    | some (.following key flight) => wait s i key flight timeout fired
    | _ => none

end

section
variable {E X : Type} [Inhabited E]

inductive Stepped (s : State E X) : Action E X → State E X → Prop where
  | turnedAway {key} : Stepped s (.start key) (s.join .alone)
  | follows {key flight} (flying : s.flights.get key = some flight) :
      Stepped s (.start key) (s.join (.following key flight))
  | leads {key} (free : s.flights.get key = none) (room : 0 < s.maxFlights → (s.flights.len : Int) < s.maxFlights) :
      Stepped s (.start key) { s.join (.leading key s.heap.length) with
        flights := s.flights.insert key s.heap.length
        heap := s.heap ++ [newFlight] }
  | unlinks {i key flight out} (found : s.requests[i]? = some (.leading key flight)) :
      Stepped s (.finish i out)
        { s.move i (.finishing key flight out .result) with flights := unlink s key flight }
  | publishes {i key flight out leg c} (found : s.requests[i]? = some (.finishing key flight out leg))
      (there : s.heap[flight]? = some c) :
      Stepped s (.publish i)
        { s.move i (finished key flight out (assign c out leg).2) with heap := s.heap.set flight (assign c out leg).1 }
  | receives {i key flight timeout c} (found : s.requests[i]? = some (.following key flight))
      (there : s.heap[flight]? = some c) (closed : 0 < c.closes) :
      Stepped s (.wait i timeout false) (s.move i (.received key flight ⟨c.result,c.ok,c.err⟩))
  | breaksAway {i key flight timeout fired} (found : s.requests[i]? = some (.following key flight)) :
      Stepped s (.wait i timeout fired) (s.move i (.brokeAway key flight))

theorem startStepped (s : State E X) (key : Bytes) : Stepped s (.start key) (start s key) := by
  unfold start
  split
  · exact .turnedAway
  · split
    · exact .follows (by assumption)
    · split
      · exact .turnedAway
      · exact .leads (by assumption) (by omega)

theorem waitStepped {s t : State E X} {i : Nat} {key : Bytes} {flight : Nat} {timeout : Duration} {fired : Bool}
    (found : s.requests[i]? = some (.following key flight)) (taken : wait s i key flight timeout fired = some t) :
    Stepped s (.wait i timeout fired) t := by
  unfold wait at taken
  split at taken
  · cases taken
    exact .breaksAway found
  · rename_i waiting
    obtain ⟨c,there,moved⟩ := Option.bind_eq_some_iff.mp taken
    split at moved <;> cases moved
    rw [not_or,Bool.not_eq_true] at waiting
    rw [waiting.2]
    exact .receives found there (by assumption)

theorem stepped {s t : State E X} {a : Action E X} (taken : step s a = some t) : Stepped s a t := by
  cases a with
  | start key =>
    cases taken
    exact startStepped s key
  | finish i out =>
    simp only [step] at taken
    split at taken <;> cases taken
    exact .unlinks (by assumption)
  | publish i =>
    simp only [step] at taken
    split at taken <;> try cases taken
    rename_i found
    obtain ⟨c,there,rfl⟩ := Option.map_eq_some_iff.mp taken
    exact .publishes found there
  | wait i timeout fired =>
    simp only [step] at taken
    split at taken <;> try cases taken
    exact waitStepped (by assumption) taken

def before (out : Outcome E X) : Leg → Flight E X
  | .result => newFlight
  | .ok => ⟨0,out.entry,false,none⟩
  | .err => ⟨0,out.entry,out.ok,none⟩
  | .close => ⟨0,out.entry,out.ok,out.err⟩

def Role.owns : Role E X → Option (Bytes × Nat × Flight E X)
  | .leading key flight => some (key,flight,newFlight)
  | .finishing key flight out leg => some (key,flight,before out leg)
  | .led key flight out => some (key,flight,⟨1,out.entry,out.ok,out.err⟩)
  | _ => none

theorem ownsFinished (key : Bytes) (flight : Nat) (out : Outcome E X) (leg : Leg) :
    (finished key flight out (assign (before out leg) out leg).2).owns =
      some (key,flight,(assign (before out leg) out leg).1) := by
  cases leg <;> rfl

theorem closedLed {r : Role E X} {key : Bytes} {flight : Nat} {c : Flight E X} (owns : r.owns = some (key,flight,c))
    (closed : 0 < c.closes) : r = .led key flight ⟨c.result,c.ok,c.err⟩ := by
  cases r with
  | leading => cases owns; cases closed
  | finishing key flight out leg =>
    cases owns
    cases leg <;> cases closed
  | led => cases owns; rfl
  | _ => cases owns

def Owner (requests : List (Role E X)) (i : Nat) (key : Bytes) (flight : Nat) (c : Flight E X) : Prop :=
  ∃ r, requests[i]? = some r ∧ r.owns = some (key,flight,c)

structure Coherent (s : State E X) : Prop where
  mapped : ∀ key flight, s.flights.get key = some flight ↔ ∃ i : Nat, s.requests[i]? = some (.leading key flight)
  contents : ∀ i key flight c, Owner s.requests i key flight c → s.heap[flight]? = some c
  sole : ∀ i j key flight c key' c', Owner s.requests i key flight c → Owner s.requests j key' flight c' → i = j
  owned : ∀ flight c, s.heap[flight]? = some c → ∃ i key, Owner s.requests i key flight c
  followed : ∀ (i : Nat) key flight, s.requests[i]? = some (.following key flight) →
    ∃ j c, Owner s.requests j key flight c
  received : ∀ (i : Nat) key flight out, s.requests[i]? = some (.received key flight out) →
    ∃ j : Nat, s.requests[j]? = some (.led key flight out)
  room : 0 < s.maxFlights ∧ (s.flights.len : Int) ≤ s.maxFlights

theorem newCoherent (maxFlights : Int) : Coherent (newCoalescer maxFlights : State E X) where
  mapped key flight := by simp [newCoalescer,Table.get,FiniteMap.Map.getKeyed]
  contents i key flight c owner := by
    obtain ⟨r,found,-⟩ := owner
    cases found
  sole i j key flight c key' c' owner := by
    obtain ⟨r,found,-⟩ := owner
    cases found
  owned flight c there := by cases there
  followed i key flight found := by cases found
  received i key flight out found := by cases found
  room := by
    unfold newCoalescer defaultMaxFlights
    simp only [Table.len, List.length_nil]
    split <;> omega

variable {s : State E X} {rs : List (Role E X)} {i j : Nat} {key : Bytes} {flight : Nat} {c : Flight E X}
  {old new : Role E X}

theorem ownerJoin : Owner (rs ++ [new]) j key flight c ↔
    Owner rs j key flight c ∨ (j = rs.length ∧ new.owns = some (key,flight,c)) := by
  constructor
  · rintro ⟨r,there,owns⟩
    rcases Crew.atJoin there with before | ⟨last,rfl⟩
    · exact .inl ⟨r,before,owns⟩
    · exact .inr ⟨last,owns⟩
  · rintro (⟨r,there,owns⟩ | ⟨rfl,owns⟩)
    · exact ⟨r,Crew.keptJoin there new,owns⟩
    · exact ⟨new,List.getElem?_concat_length,owns⟩

theorem ownerMove (found : rs[i]? = some old) : Owner (rs.set i new) j key flight c ↔
    (j = i ∧ new.owns = some (key,flight,c)) ∨ (j ≠ i ∧ Owner rs j key flight c) := by
  constructor
  · rintro ⟨r,there,owns⟩
    rcases Crew.atMove found there with ⟨here,rfl⟩ | ⟨other,there⟩
    · exact .inl ⟨here,owns⟩
    · exact .inr ⟨other,r,there,owns⟩
  · rintro (⟨rfl,owns⟩ | ⟨other,r,there,owns⟩)
    · exact ⟨new,Crew.placed found new,owns⟩
    · exact ⟨r,Crew.keptMove there other new,owns⟩

theorem Coherent.bystander (start : Coherent s)
    (same : ∀ (j : Nat) r p, r.owns = some p → (rs[j]? = some r ↔ s.requests[j]? = some r))
    (followed : ∀ (j : Nat) key flight, rs[j]? = some (.following key flight) →
      ∃ k c, Owner s.requests k key flight c)
    (received : ∀ (j : Nat) key flight out, rs[j]? = some (.received key flight out) →
      ∃ k : Nat, s.requests[k]? = some (.led key flight out)) : Coherent { s with requests := rs } := by
  have owner : ∀ j key flight c, Owner rs j key flight c ↔ Owner s.requests j key flight c := by
    intro j key flight c
    constructor
    · rintro ⟨r,there,owns⟩
      exact ⟨r,(same j r _ owns).mp there,owns⟩
    · rintro ⟨r,there,owns⟩
      exact ⟨r,(same j r _ owns).mpr there,owns⟩
  constructor
  · intro key flight
    rw [start.mapped key flight]
    exact exists_congr fun j => (same j (.leading key flight) _ rfl).symm
  · intro j key flight c owns
    exact start.contents j key flight c ((owner ..).mp owns)
  · intro j k key flight c key' c' one another
    exact start.sole j k key flight c key' c' ((owner ..).mp one) ((owner ..).mp another)
  · intro flight c there
    obtain ⟨j,key,owns⟩ := start.owned flight c there
    exact ⟨j,key,(owner ..).mpr owns⟩
  · intro j key flight there
    obtain ⟨k,c,owns⟩ := followed j key flight there
    exact ⟨k,c,(owner ..).mpr owns⟩
  · intro j key flight out there
    obtain ⟨k,leader⟩ := received j key flight out there
    exact ⟨k,(same k (.led key flight out) _ rfl).mpr leader⟩
  · exact start.room

theorem Coherent.joins (start : Coherent s) (none : new.owns = none)
    (followed : ∀ key flight, new = .following key flight → ∃ k c, Owner s.requests k key flight c)
    (fresh : ∀ key flight out, new ≠ .received key flight out) : Coherent (s.join new) := by
  refine start.bystander ?_ ?_ ?_
  · intro j r p owns
    constructor
    · intro there
      rcases Crew.atJoin there with before | ⟨-,rfl⟩
      · exact before
      · rw [none] at owns
        cases owns
    · intro there
      exact Crew.keptJoin there new
  · intro j key flight there
    rcases Crew.atJoin there with before | ⟨-,same⟩
    · exact start.followed j key flight before
    · exact followed key flight same.symm
  · intro j key flight out there
    rcases Crew.atJoin there with before | ⟨-,same⟩
    · exact start.received j key flight out before
    · exact absurd same.symm (fresh key flight out)

theorem Coherent.moves (start : Coherent s) (found : s.requests[i]? = some old) (before : old.owns = none)
    (after : new.owns = none) (elsewhere : ∀ key flight, new ≠ .following key flight)
    (received : ∀ key flight out, new = .received key flight out →
      ∃ k : Nat, s.requests[k]? = some (.led key flight out)) : Coherent (s.move i new) := by
  refine start.bystander ?_ ?_ ?_
  · intro j r p owns
    constructor
    · intro there
      rcases Crew.atMove found there with ⟨-,rfl⟩ | ⟨-,there⟩
      · rw [after] at owns
        cases owns
      · exact there
    · intro there
      refine Crew.keptMove there ?_ new
      rintro rfl
      rw [Option.some.inj (there.symm.trans found),before] at owns
      cases owns
  · intro j key flight there
    rcases Crew.atMove found there with ⟨-,same⟩ | ⟨-,there⟩
    · exact absurd same.symm (elsewhere key flight)
    · exact start.followed j key flight there
  · intro j key flight out there
    rcases Crew.atMove found there with ⟨-,same⟩ | ⟨-,there⟩
    · exact received key flight out same.symm
    · exact start.received j key flight out there

theorem Coherent.leadMapped (start : Coherent s) (free : s.flights.get key = none) (key' : Bytes) (new flight : Nat) :
    (s.flights.insert key new).get key' = some flight ↔
      ∃ i : Nat, (s.requests ++ [.leading key new])[i]? = some (.leading key' flight) := by
  rw [Table.getInsert]
  constructor
  · intro there
    split at there
    · rename_i same
      cases there
      rw [same]
      exact ⟨_,List.getElem?_concat_length⟩
    · obtain ⟨j,leads⟩ := (start.mapped key' flight).mp there
      exact ⟨j,Crew.keptJoin leads _⟩
  · rintro ⟨j,there⟩
    rcases Crew.atJoin there with before | ⟨-,same⟩
    · have flying := (start.mapped key' flight).mpr ⟨j,before⟩
      have other : key' ≠ key := by
        rintro rfl
        rw [free] at flying
        cases flying
      rw [if_neg other,flying]
    · cases same
      exact if_pos rfl

theorem Coherent.leads (start : Coherent s) (free : s.flights.get key = none) (room : (s.flights.len : Int) < s.maxFlights) :
    Coherent { s.join (.leading key s.heap.length) with
      flights := s.flights.insert key s.heap.length
      heap := s.heap ++ [newFlight] } := by
  have fresh : ∀ j key c, ¬Owner s.requests j key s.heap.length c := by
    intro j key c owns
    have bound := (List.getElem?_eq_some_iff.mp (start.contents j key _ c owns)).1
    omega
  constructor
  · intro key' flight
    exact start.leadMapped free key' s.heap.length flight
  · intro j key' flight c owns
    rcases ownerJoin.mp owns with before | ⟨-,own⟩
    · exact Crew.keptJoin (start.contents j key' flight c before) _
    · cases own
      exact List.getElem?_concat_length
  · intro j k key' flight c key'' c' one another
    rcases ownerJoin.mp one with one | ⟨rfl,own⟩
    · rcases ownerJoin.mp another with another | ⟨rfl,own⟩
      · exact start.sole j k key' flight c key'' c' one another
      · cases own
        exact absurd one (fresh j key' c)
    · cases own
      rcases ownerJoin.mp another with another | ⟨rfl,-⟩
      · exact absurd another (fresh k key'' c')
      · rfl
  · intro flight c there
    rcases Crew.atJoin there with before | ⟨rfl,rfl⟩
    · obtain ⟨j,key',owns⟩ := start.owned flight c before
      exact ⟨j,key',ownerJoin.mpr (.inl owns)⟩
    · exact ⟨_,key,ownerJoin.mpr (.inr ⟨rfl,rfl⟩)⟩
  · intro j key' flight there
    rcases Crew.atJoin there with before | ⟨-,same⟩
    · obtain ⟨k,c,owns⟩ := start.followed j key' flight before
      exact ⟨k,c,ownerJoin.mpr (.inl owns)⟩
    · cases same
  · intro j key' flight out there
    rcases Crew.atJoin there with before | ⟨-,same⟩
    · obtain ⟨k,leader⟩ := start.received j key' flight out before
      exact ⟨k,Crew.keptJoin leader _⟩
    · cases same
  · refine ⟨start.room.1,?_⟩
    have more := s.flights.lenInsert key s.heap.length
    change ((s.flights.insert key s.heap.length).len : Int) ≤ s.maxFlights
    omega

theorem Coherent.turns {flights : Table Bytes Nat} {c' : Flight E X} (start : Coherent s)
    (found : s.requests[i]? = some old) (outstanding : old.outstanding = true)
    (before : old.owns = some (key,flight,c)) (after : new.owns = some (key,flight,c'))
    (mapped : ∀ key flight, flights.get key = some flight ↔
      ∃ j : Nat, (s.requests.set i new)[j]? = some (.leading key flight))
    (fewer : flights.len ≤ s.flights.len) :
    Coherent { s with flights := flights, heap := s.heap.set flight c', requests := s.requests.set i new } := by
  have own : Owner s.requests i key flight c := ⟨old,found,before⟩
  have there := start.contents i key flight c own
  -- Another owner has another flight.
  have others : ∀ j key' flight' d, j ≠ i → Owner s.requests j key' flight' d → flight' ≠ flight := by
    rintro j key' flight' d other owns rfl
    exact other (start.sole j i key' flight' d key c owns own)
  constructor
  · exact mapped
  · intro j key' flight' d owns
    rcases (ownerMove found).mp owns with ⟨-,own⟩ | ⟨other,owns⟩
    · cases after.symm.trans own
      exact Crew.placed there c'
    · exact Crew.keptMove (start.contents j key' flight' d owns) (others j key' flight' d other owns) c'
  · intro j k key' flight' d key'' d' one another
    rcases (ownerMove found).mp one with ⟨here,own'⟩ | ⟨other,one⟩
    · cases after.symm.trans own'
      rcases (ownerMove found).mp another with ⟨here',-⟩ | ⟨other,another⟩
      · exact here.trans here'.symm
      · exact absurd rfl (others k key'' _ d' other another)
    · rcases (ownerMove found).mp another with ⟨-,own'⟩ | ⟨-,another⟩
      · cases after.symm.trans own'
        exact absurd rfl (others j key' _ d other one)
      · exact start.sole j k key' flight' d key'' d' one another
  · intro flight' d there'
    rcases Crew.atMove there there' with ⟨rfl,rfl⟩ | ⟨other,there'⟩
    · exact ⟨i,key,(ownerMove found).mpr (.inl ⟨rfl,after⟩)⟩
    · obtain ⟨j,key',owns⟩ := start.owned flight' d there'
      refine ⟨j,key',(ownerMove found).mpr (.inr ⟨?_,owns⟩)⟩
      rintro rfl
      obtain ⟨r,at_,owns⟩ := owns
      cases Option.some.inj (at_.symm.trans found)
      cases before.symm.trans owns
      exact other rfl
  · intro j key' flight' there'
    rcases Crew.atMove found there' with ⟨-,same⟩ | ⟨-,there'⟩
    · rw [← same] at after
      cases after
    · obtain ⟨k,d,owns⟩ := start.followed j key' flight' there'
      by_cases here : k = i
      · subst here
        obtain ⟨r,at_,owns⟩ := owns
        cases Option.some.inj (at_.symm.trans found)
        cases before.symm.trans owns
        exact ⟨k,c',(ownerMove found).mpr (.inl ⟨rfl,after⟩)⟩
      · exact ⟨k,d,(ownerMove found).mpr (.inr ⟨here,owns⟩)⟩
  · intro j key' flight' out there'
    rcases Crew.atMove found there' with ⟨-,same⟩ | ⟨-,there'⟩
    · rw [← same] at after
      cases after
    · obtain ⟨k,leader⟩ := start.received j key' flight' out there'
      refine ⟨k,Crew.keptMove leader ?_ new⟩
      rintro rfl
      cases Option.some.inj (leader.symm.trans found)
      cases outstanding
  · have room := start.room
    refine ⟨room.1,?_⟩
    change (flights.len : Int) ≤ s.maxFlights
    omega

theorem Coherent.unlinked (start : Coherent s) (found : s.requests[i]? = some (.leading key flight))
    (moved : ∀ key flight, new ≠ .leading key flight) (key' : Bytes) (flight' : Nat) :
    (unlink s key flight).get key' = some flight' ↔
      ∃ j : Nat, (s.requests.set i new)[j]? = some (.leading key' flight') := by
  have flying := (start.mapped key flight).mpr ⟨i,found⟩
  rw [unlink,if_pos flying,Table.getErase]
  constructor
  · intro there
    split at there
    · cases there
    · rename_i other
      obtain ⟨j,leads⟩ := (start.mapped key' flight').mp there
      refine ⟨j,Crew.keptMove leads ?_ new⟩
      rintro rfl
      cases Option.some.inj (leads.symm.trans found)
      exact other rfl
  · rintro ⟨j,there⟩
    rcases Crew.atMove found there with ⟨-,same⟩ | ⟨other,leads⟩
    · exact absurd same.symm (moved key' flight')
    · have flying' := (start.mapped key' flight').mpr ⟨j,leads⟩
      have apart : key' ≠ key := by
        rintro rfl
        cases flying.symm.trans flying'
        exact other (start.sole j i _ _ _ _ _ ⟨_,leads,rfl⟩ ⟨_,found,rfl⟩)
      rw [if_neg apart,flying']

theorem Coherent.stays (start : Coherent s) (found : s.requests[i]? = some old)
    (before : ∀ key flight, old ≠ .leading key flight) (after : ∀ key flight, new ≠ .leading key flight)
    (key : Bytes) (flight : Nat) :
    s.flights.get key = some flight ↔ ∃ j : Nat, (s.requests.set i new)[j]? = some (.leading key flight) := by
  rw [start.mapped key flight]
  constructor
  · rintro ⟨j,leads⟩
    refine ⟨j,Crew.keptMove leads ?_ new⟩
    rintro rfl
    exact before key flight (Option.some.inj (found.symm.trans leads))
  · rintro ⟨j,there⟩
    rcases Crew.atMove found there with ⟨-,same⟩ | ⟨-,leads⟩
    · exact absurd same.symm (after key flight)
    · exact ⟨j,leads⟩

theorem stepCoherent {t : State E X} {a : Action E X} (start : Coherent s) (taken : step s a = some t) : Coherent t := by
  cases stepped taken with
  | turnedAway => exact start.joins rfl (by simp) (by simp)
  | @follows key flight flying =>
    obtain ⟨i,leads⟩ := (start.mapped key flight).mp flying
    refine start.joins rfl ?_ (by simp)
    rintro _ _ ⟨⟩
    exact ⟨i,_,_,leads,rfl⟩
  | leads free room => exact start.leads free (room start.room.1)
  | @unlinks i key flight out found =>
    have whole := start.contents i key flight newFlight ⟨_,found,rfl⟩
    obtain ⟨bound,same⟩ := List.getElem?_eq_some_iff.mp whole
    have after : (Role.finishing key flight out .result).owns = some (key,flight,newFlight) := rfl
    have turned := start.turns found rfl rfl after (start.unlinked found (by simp)) (unlinkLen s key flight)
    rwa [← same,List.set_getElem_self] at turned
  | @publishes i key flight out leg c found there =>
    have whole := start.contents i key flight _ ⟨_,found,rfl⟩
    cases Option.some.inj (whole.symm.trans there)
    refine start.turns found rfl rfl (ownsFinished key flight out leg) ?_ (Nat.le_refl _)
    exact start.stays found (by simp) (by cases leg <;> simp [finished,assign])
  | @receives i key flight timeout c found there closed =>
    refine start.moves found rfl rfl (by simp) ?_
    rintro _ _ _ ⟨⟩
    obtain ⟨j,d,owns⟩ := start.followed i key flight found
    cases Option.some.inj ((start.contents j key flight d owns).symm.trans there)
    obtain ⟨r,at_,owns⟩ := owns
    exact ⟨j,closedLed owns closed ▸ at_⟩
  | breaksAway found => exact start.moves found rfl rfl (by simp) (by simp)

theorem stepMaxFlights {t : State E X} {a : Action E X} (taken : step s a = some t) : t.maxFlights = s.maxFlights := by
  cases stepped taken <;> rfl

theorem runCoherent {maxFlights : Int} {as : List (Action E X)}
    (run : Runs step anyStep (newCoalescer maxFlights) as s) : Coherent s :=
  run.preserve Coherent (fun _ _ _ start _ taken => stepCoherent start taken) (newCoherent maxFlights)

theorem runMaxFlights {maxFlights : Int} {as : List (Action E X)}
    (run : Runs step anyStep (newCoalescer maxFlights) as s) :
    s.maxFlights = if maxFlights ≤ 0 then defaultMaxFlights else maxFlights :=
  run.preserve (fun s => s.maxFlights = if maxFlights ≤ 0 then defaultMaxFlights else maxFlights)
    (fun _ _ _ start _ taken => (stepMaxFlights taken).trans start) rfl

theorem ownedCloses {r : Role E X} (owns : r.owns = some (key,flight,c)) :
    c.closes = 0 ∨ c.closes = 1 ∧ ∃ out, r = .led key flight out := by
  cases r with
  | finishing key flight out leg =>
    cases owns
    exact .inl (by cases leg <;> rfl)
  | leading =>
    cases owns
    exact .inl rfl
  | led key flight out =>
    cases owns
    exact .inr ⟨rfl,out,rfl⟩
  | _ => cases owns

theorem Coherent.closes (start : Coherent s) (there : s.heap[flight]? = some c) :
    c.closes ≤ 1 ∧ (c.closes = 1 ↔ ∃ (i : Nat) (key : Bytes) (out : Outcome E X),
      s.requests[i]? = some (.led key flight out)) := by
  obtain ⟨i,key,r,found,owns⟩ := start.owned flight c there
  rcases ownedCloses owns with zero | ⟨one,out,rfl⟩
  · refine ⟨by omega,by omega,?_⟩
    rintro ⟨j,key',out,led⟩
    cases start.sole i j key flight c key' _ ⟨r,found,owns⟩ ⟨_,led,rfl⟩
    cases Option.some.inj (found.symm.trans led)
    cases owns
    cases zero
  · exact ⟨by omega,fun _ => ⟨i,key,out,found⟩,fun _ => one⟩

theorem Coherent.rests (start : Coherent s) (none : ∀ r ∈ s.requests, r.outstanding = false) :
    s.flights.entries = [] ∧ ∀ c ∈ s.heap, c.closes = 1 := by
  constructor
  · apply Table.emptyOf
    intro key flight flying
    obtain ⟨i,leads⟩ := (start.mapped key flight).mp flying
    cases none _ (Crew.member leads)
  · intro c inside
    obtain ⟨flight,there⟩ := List.getElem?_of_mem inside
    obtain ⟨i,key,r,found,owns⟩ := start.owned flight c there
    apply (start.closes there).2.mpr
    have rests := none r (Crew.member found)
    cases r with
    | led key flight out =>
      cases owns
      exact ⟨i,_,out,found⟩
    | leading => cases rests
    | finishing => cases rests
    | _ => cases owns

end

theorem coalescerKeeps {E X : Type} [Inhabited E] {maxFlights : Int} {as : List (Action E X)} {s : State E X}
    (run : Runs step anyStep (newCoalescer maxFlights) as s) :
    (∀ key, s.flights.entries.countP (fun e => e.1 = key) ≤ 1) ∧
    (∀ key flight, (key,flight) ∈ s.flights.entries → s.heap[flight]? = some newFlight ∧
      ∃! i : Nat, s.requests[i]? = some (.leading key flight)) ∧
    (s.flights.entries.length : Int) ≤ (if maxFlights ≤ 0 then defaultMaxFlights else maxFlights) ∧
    (∀ (flight : Nat) c, s.heap[flight]? = some c → c.closes ≤ 1 ∧
      (c.closes = 1 ↔ ∃ (i : Nat) (key : Bytes) (out : Outcome E X), s.requests[i]? = some (.led key flight out))) ∧
    (∀ (i : Nat) key flight out, s.requests[i]? = some (.received key flight out) →
      ∃ j, s.requests[j]? = some (.led key flight out) ∧ ∀ k key' c, Owner s.requests k key' flight c → k = j) ∧
    ((∀ r ∈ s.requests, r.outstanding = false) → s.flights.entries = [] ∧ ∀ c ∈ s.heap, c.closes = 1) := by
  have coherent := runCoherent run
  refine ⟨s.flights.countKey,?_,?_,fun _ _ => coherent.closes,?_,coherent.rests⟩
  · intro key flight flying
    obtain ⟨i,leads⟩ := (coherent.mapped key flight).mp (Table.getMember.mpr flying)
    refine ⟨coherent.contents i key flight newFlight ⟨_,leads,rfl⟩,i,leads,?_⟩
    intro j other
    exact coherent.sole j i key flight newFlight key newFlight ⟨_,other,rfl⟩ ⟨_,leads,rfl⟩
  · rw [← runMaxFlights run]
    exact coherent.room.2
  · intro i key flight out received
    obtain ⟨j,led⟩ := coherent.received i key flight out received
    refine ⟨j,led,?_⟩
    intro k key' c owns
    exact coherent.sole k j key' flight c key _ owns ⟨_,led,rfl⟩

def overlapping : List (Action Nat Unit) :=
  [.start [107],.start [107],.finish 0 ⟨7,true,none⟩,.publish 0,.start [107],.start [108],.publish 0,.publish 0,
    .publish 0,.wait 1 5 false]

theorem overlappingKeeps : ∃ s : State Nat Unit, Runs step anyStep (newCoalescer 1) overlapping s ∧
    s.requests = [.led [107] 0 ⟨7,true,none⟩,.received [107] 0 ⟨7,true,none⟩,.leading [107] 1,.alone] ∧
    (s.flights.entries.length : Int) ≤ 1 ∧ ∃ j : Nat, s.requests[j]? = some (.led [107] 0 ⟨7,true,none⟩) := by
  obtain ⟨s,ran,requests⟩ : ∃ s : State Nat Unit, runAll step anyStep (newCoalescer 1) overlapping = some s ∧
      s.requests = [.led [107] 0 ⟨7,true,none⟩,.received [107] 0 ⟨7,true,none⟩,.leading [107] 1,.alone] := ⟨_,rfl,rfl⟩
  have run := runAllRuns ran
  obtain ⟨-,-,room,-,received,-⟩ := coalescerKeeps run
  obtain ⟨j,led,-⟩ := received 1 [107] 0 ⟨7,true,none⟩ (by rw [requests]; rfl)
  exact ⟨s,run,requests,room,j,led⟩

end ReverseProxy.Coalescer
