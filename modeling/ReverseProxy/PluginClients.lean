import ReverseProxy.Crew
import ReverseProxy.Custody
import ReverseProxy.FiniteMap
import ReverseProxy.GoValues
import ReverseProxy.Transition

/-! The clients of plugin.Registry. GetClient looks for one under the lock, dials without it
and looks again under it; who comes second closes its own connection and takes the other.
Close empties the map under the lock and closes what was in it afterwards. Any number of
these calls take turns; connections are numbered in the order they are dialed. -/
namespace ReverseProxy.PluginClients
open FiniteMap Custody Transition

/- A call of GetClient, or of Close with the clients it has yet to close. -/
inductive Thread where
  | looking (addr : String)
  | dialing (addr : String)
  | dialed (addr : String) (client : Nat)
  | losing (addr : String) (client existing : Nat)
  | got (addr : String) (client : Nat)
  | failed (addr : String)
  | stopping (left : List Nat)
  | stopped
  deriving DecidableEq, Repr

namespace Thread

def hands : Thread → List Nat
  | .dialed _ client => [client]
  | .losing _ client _ => [client]
  | .stopping left => left
  | _ => []

end Thread

structure State where
  clients : Table String Nat := .empty
  ledger : Ledger := {}
  crew : List Thread := []

inductive Action where
  | call (addr : String)
  | look (i : Nat)
  | dial (i : Nat) (ok : Bool)
  | enter (i : Nat)
  | drop (i : Nat)
  | stop
  | closeNext (i : Nat)
  deriving DecidableEq, Repr

namespace State

def move (s : State) (i : Nat) (t : Thread) : State := { s with crew := s.crew.set i t }

def published (s : State) : List Nat := s.clients.entries.map (·.2)

end State

def step (s : State) : Action → Option State
  | .call addr => some { s with crew := s.crew ++ [.looking addr] }
  | .look i =>
    match s.crew[i]? with
    | some (.looking addr) =>
      match s.clients.get addr with
      | some client => some (s.move i (.got addr client))
      | none => some (s.move i (.dialing addr))
    | _ => none
  | .dial i ok =>
    match s.crew[i]? with
    | some (.dialing addr) =>
      if ok then some { s.move i (.dialed addr s.ledger.made) with ledger := s.ledger.make }
      else some (s.move i (.failed addr))
    | _ => none
  | .enter i =>
    match s.crew[i]? with
    | some (.dialed addr client) =>
      match s.clients.get addr with
      | some existing => some (s.move i (.losing addr client existing))
      | none => some { s.move i (.got addr client) with clients := s.clients.insert addr client }
    | _ => none
  | .drop i =>
    match s.crew[i]? with
    | some (.losing addr client existing) => some { s.move i (.got addr existing) with ledger := s.ledger.settle client }
    | _ => none
  | .stop => some { s with clients := .empty, crew := s.crew ++ [.stopping s.published] }
  | .closeNext i =>
    match s.crew[i]? with
    | some (.stopping (client :: left)) => some { s.move i (.stopping left) with ledger := s.ledger.settle client }
    | some (.stopping []) => some (s.move i .stopped)
    | _ => none

inductive Taken (s : State) : Action → State → Prop where
  | called {addr} : Taken s (.call addr) { s with crew := s.crew ++ [.looking addr] }
  | found {i addr client} (here : s.crew[i]? = some (.looking addr)) (there : s.clients.get addr = some client) :
      Taken s (.look i) (s.move i (.got addr client))
  | missed {i addr} (here : s.crew[i]? = some (.looking addr)) : Taken s (.look i) (s.move i (.dialing addr))
  | reached {i addr} (here : s.crew[i]? = some (.dialing addr)) :
      Taken s (.dial i true) { s.move i (.dialed addr s.ledger.made) with ledger := s.ledger.make }
  | unreached {i addr} (here : s.crew[i]? = some (.dialing addr)) : Taken s (.dial i false) (s.move i (.failed addr))
  | late {i addr client existing} (here : s.crew[i]? = some (.dialed addr client)) (there : s.clients.get addr = some existing) :
      Taken s (.enter i) (s.move i (.losing addr client existing))
  | entered {i addr client} (here : s.crew[i]? = some (.dialed addr client)) (free : s.clients.get addr = none) :
      Taken s (.enter i) { s.move i (.got addr client) with clients := s.clients.insert addr client }
  | dropped {i addr client existing} (here : s.crew[i]? = some (.losing addr client existing)) :
      Taken s (.drop i) { s.move i (.got addr existing) with ledger := s.ledger.settle client }
  | emptied : Taken s .stop { s with clients := .empty, crew := s.crew ++ [.stopping s.published] }
  | closed {i client left} (here : s.crew[i]? = some (.stopping (client :: left))) :
      Taken s (.closeNext i) { s.move i (.stopping left) with ledger := s.ledger.settle client }
  | ended {i} (here : s.crew[i]? = some (.stopping [])) : Taken s (.closeNext i) (s.move i .stopped)

theorem stepTaken {s t : State} {a : Action} (taken : step s a = some t) : Taken s a t := by
  cases a with
  | call addr =>
    cases taken
    exact .called
  | look i =>
    simp only [step] at taken
    split at taken
    · rename_i here
      split at taken
      · rename_i there
        cases taken
        exact .found here there
      · cases taken
        exact .missed here
    · cases taken
  | dial i ok =>
    simp only [step] at taken
    split at taken
    · rename_i here
      cases ok with
      | true =>
        cases taken
        exact .reached here
      | false =>
        cases taken
        exact .unreached here
    · cases taken
  | enter i =>
    simp only [step] at taken
    split at taken
    · rename_i here
      split at taken
      · rename_i there
        cases taken
        exact .late here there
      · rename_i free
        cases taken
        exact .entered here free
    · cases taken
  | drop i =>
    simp only [step] at taken
    split at taken
    · rename_i here
      cases taken
      exact .dropped here
    · cases taken
  | stop =>
    cases taken
    exact .emptied
  | closeNext i =>
    simp only [step] at taken
    split at taken
    · rename_i here
      cases taken
      exact .closed here
    · rename_i here
      cases taken
      exact .ended here
    · cases taken

def State.held (s : State) : List Nat := s.published ++ s.crew.flatMap Thread.hands

section
variable {s t : State}

theorem heldMove {i : Nat} {old new : Thread} (here : s.crew[i]? = some old) (same : new.hands = old.hands) :
    s.held.Perm (s.move i new).held := by
  obtain ⟨others,before,after⟩ := Crew.handsMove Thread.hands here new
  rw [← same] at before
  exact (before.trans after.symm).append_left _

theorem heldRelease {i client : Nat} {old : Thread} (new : Thread) (here : s.crew[i]? = some old) (had : old.hands = client :: new.hands) :
    s.held.Perm (client :: (s.move i new).held) := by
  obtain ⟨others,before,after⟩ := Crew.handsMove Thread.hands here new
  rw [had, List.cons_append] at before
  have whole : s.held.Perm (s.published ++ client :: (new.hands ++ others)) := before.append_left _
  exact whole.trans (List.perm_middle.trans ((after.symm.append_left _).cons client))

theorem balancedStep {a : Action} (balanced : Balances s.held s.ledger) (taken : step s a = some t) :
    Balances t.held t.ledger := by
  cases stepTaken taken with
  | called =>
    rename_i addr
    have nothing : Thread.hands (.looking addr) = [] := rfl
    unfold State.held State.published
    rw [Crew.handsJoin, nothing, List.append_nil]
    exact balanced
  | found here there => exact balanced.perm (heldMove here rfl)
  | missed here => exact balanced.perm (heldMove here rfl)
  | reached here =>
    rename_i i addr
    obtain ⟨others,before,after⟩ := Crew.handsMove Thread.hands here (.dialed addr s.ledger.made)
    refine balanced.make.perm ?_
    have whole : (s.ledger.made :: s.held).Perm (s.published ++ s.ledger.made :: others) :=
      ((before.append_left _).cons _).trans List.perm_middle.symm
    exact whole.trans (after.symm.append_left _)
  | unreached here => exact balanced.perm (heldMove here rfl)
  | late here there => exact balanced.perm (heldMove here rfl)
  | entered here free =>
    rename_i i addr client
    refine balanced.perm ((heldRelease (.got addr client) here rfl).trans ?_)
    have added : (s.clients.insert addr client).entries = (addr,client) :: s.clients.entries :=
      congrArg ((addr,client) :: ·) (Table.othersAbsent free)
    unfold State.held State.published
    dsimp only
    rw [added]
    exact .refl _
  | dropped here =>
    rename_i i addr client existing
    exact (balanced.perm (heldRelease (.got addr existing) here rfl)).settle
  | emptied =>
    refine balanced.perm ?_
    unfold State.held State.published
    rw [Crew.handsJoin]
    exact List.perm_append_comm
  | closed here =>
    rename_i i client left
    exact (balanced.perm (heldRelease (.stopping left) here rfl)).settle
  | ended here => exact balanced.perm (heldMove here rfl)

theorem noneDueStep {a : Action} (none_ : s.ledger.due = []) (taken : step s a = some t) : t.ledger.due = [] := by
  cases stepTaken taken with
  | _ => exact none_

theorem accountedRun {guard : State → Action → Prop} {as : List Action} (run : Runs step guard {} as s) :
    Balances s.held s.ledger ∧ s.ledger.due = [] :=
  run.preserve (fun s => Balances s.held s.ledger ∧ s.ledger.due = [])
    (fun _ _ _ kept _ taken => ⟨balancedStep kept.1 taken,noneDueStep kept.2 taken⟩) ⟨balancedEmpty,rfl⟩

theorem clientsAccounted {as : List Action} (run : Runs step anyStep {} as s) :
    (s.held ++ s.ledger.closed).Perm (List.range s.ledger.made) := by
  obtain ⟨balanced,none_⟩ := accountedRun run
  unfold Balances at balanced
  rw [none_, List.nil_append] at balanced
  exact balanced

end

def race : List Action :=
  [.call "a",.call "a",.look 0,.look 1,.dial 0 true,.dial 1 true,.enter 1,.enter 0,.drop 0]

def raced : State where
  clients := Table.empty.insert "a" 1
  ledger := ⟨2,[],[0]⟩
  crew := [.got "a" 1,.got "a" 1]

theorem raceAccounted : Runs step anyStep {} race raced ∧
    (raced.held ++ raced.ledger.closed).Perm (List.range raced.ledger.made) :=
  have run : Runs step anyStep {} race raced := runAllRuns rfl
  ⟨run,clientsAccounted run⟩

def NoStop (_ : State) (a : Action) : Prop := a ≠ .stop

instance (s : State) (a : Action) : Decidable (NoStop s a) := by
  unfold NoStop
  infer_instance

def Thread.gets : Thread → Option (String × Nat)
  | .got addr client => some (addr,client)
  | .losing addr _ existing => some (addr,existing)
  | _ => none

def Shared (s : State) : Prop :=
  ∀ (i : Nat) (t : Thread) (addr : String) (client : Nat), s.crew[i]? = some t → t.gets = some (addr,client) →
    s.clients.get addr = some client

section
variable {s t : State}

theorem sharedMove {i : Nat} {old new : Thread} (shared : Shared s) (here : s.crew[i]? = some old)
    (gets : ∀ addr client, new.gets = some (addr,client) → s.clients.get addr = some client) (ledger : Ledger) :
    Shared { s.move i new with ledger } := by
  intro j x addr client there is
  rcases Crew.atMove here there with ⟨-,rfl⟩ | ⟨-,other⟩
  · exact gets addr client is
  · exact shared j x addr client other is

theorem sharedStep {a : Action} (shared : Shared s) (allowed : NoStop s a) (taken : step s a = some t) : Shared t := by
  cases stepTaken taken with
  | called =>
    intro j x addr client there is
    rcases Crew.atJoin there with old | ⟨-,rfl⟩
    · exact shared j x addr client old is
    · cases is
  | found here there =>
    refine sharedMove shared here (fun addr client is => ?_) _
    cases is
    exact there
  | missed here => exact sharedMove shared here (fun _ _ is => by cases is) _
  | reached here => exact sharedMove shared here (fun _ _ is => by cases is) _
  | unreached here => exact sharedMove shared here (fun _ _ is => by cases is) _
  | late here there =>
    refine sharedMove shared here (fun addr client is => ?_) _
    cases is
    exact there
  | entered here free =>
    intro j x addr' client' there is
    dsimp only
    rw [Table.getInsert]
    rcases Crew.atMove here there with ⟨-,rfl⟩ | ⟨-,other⟩
    · cases is
      rw [if_pos rfl]
    · have known := shared j x addr' client' other is
      rw [if_neg (fun same => by rw [same, free] at known; cases known)]
      exact known
  | dropped here =>
    refine sharedMove shared here (fun addr client is => ?_) _
    cases is
    exact shared _ _ _ _ here rfl
  | emptied => exact absurd rfl allowed
  | closed here => exact sharedMove shared here (fun _ _ is => by cases is) _
  | ended here => exact sharedMove shared here (fun _ _ is => by cases is) _

theorem callersShare {as : List Action} (run : Runs step NoStop {} as s) {i j : Nat} {addr : String} {client other : Nat}
    (first : s.crew[i]? = some (.got addr client)) (second : s.crew[j]? = some (.got addr other)) :
    client = other ∧ client ∉ s.ledger.closed := by
  have shared : Shared s := run.preserve Shared (fun _ _ _ kept allowed taken => sharedStep kept allowed taken)
    (fun i t addr client there => by cases there)
  have published := shared i _ addr client first rfl
  refine ⟨Option.some.inj (published.symm.trans (shared j _ addr other second rfl)),fun closed => ?_⟩
  obtain ⟨balanced,-⟩ := accountedRun run
  have inside : client ∈ s.held :=
    List.mem_append_left _ (List.mem_map.mpr ⟨(addr,client),Table.getMember.mp published,rfl⟩)
  exact (List.nodup_append.mp balanced.apart).2.2 client inside client (List.mem_append_right _ closed) rfl

end

theorem raceShared : Runs step NoStop {} race raced ∧ 1 ∉ raced.ledger.closed := by
  have run : Runs step NoStop {} race raced := runAllRuns rfl
  have first : raced.crew[0]? = some (.got "a" 1) := rfl
  have second : raced.crew[1]? = some (.got "a" 1) := rfl
  exact ⟨run,(callersShare run first second).2⟩

end ReverseProxy.PluginClients
