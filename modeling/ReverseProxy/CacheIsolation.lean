import ReverseProxy.RequestFlow
import ReverseProxy.Transition

/-! Who may be answered from the cache or from a flight. Every entry and every
flight carries, through its key, the partition of the request that filled it; a
request is only answered under the key it built itself. -/
namespace ReverseProxy.CacheIsolation
open GoValues FiniteMap CacheKey RequestFlow Transition

def looked : Stage → Bool
  | .filtering _ | .admitting | .looking => false
  | _ => true

def Keyed (w : World) (key : Bytes) (p : Process) : Prop :=
  EndsWith key (cachePartition w.sha256 p.exchange.cache p.request.header)

def Origin (w : World) (s : Serving) (key : Bytes) (i : Nat) : Prop :=
  ∃ p, s.processes[i]? = some p ∧ looked p.stage = true ∧ Keyed w key p

def Started (keyOf : Nat → Bytes) (s : Serving) (key : Bytes) (n : Nat) : Prop := n < s.nextFlight ∧ keyOf n = key

def withKey (keyOf : Nat → Bytes) (flight : Nat) (key : Bytes) : Nat → Bytes :=
  fun n => if n = flight then key else keyOf n

def Shares (w : World) (s : Serving) (p : Process) (served : Served) : Prop :=
  ∀ e, served = .hit e ∨ served = .follower e → ∃ key, Keyed w key p ∧ Origin w s key e.origin

def TurnHolds (w : World) (keyOf : Nat → Bytes) (s : Serving) (p : Process) (turn : Option CacheTurn) : Prop :=
  ∀ t, turn = some t → Keyed w t.key p ∧ ∀ n, t.role = .leader n → Started keyOf s t.key n

def Stands (w : World) (keyOf : Nat → Bytes) (s : Serving) (p : Process) : Prop :=
  match p.stage with
  | .filtering _ | .admitting | .looking => True
  | .coalescing key => Keyed w key p
  | .waiting key n => Keyed w key p ∧ Started keyOf s key n
  | .trying turn _ => TurnHolds w keyOf s p turn
  | .responding turn _ => TurnHolds w keyOf s p turn
  | .closing key n result served =>
    Started keyOf s key n ∧ (∀ e, result.entry = some e → Origin w s key e.origin) ∧ Shares w s p served
  | .finished served => Shares w s p served

structure Sealed (w : World) (keyOf : Nat → Bytes) (s : Serving) : Prop where
  entries : ∀ key e, s.entries.get key = some e → Origin w s key e.origin
  flights : ∀ key n, s.flights.get key = some n → Started keyOf s key n
  results : ∀ n r e, s.results.get n = some r → r.entry = some e → n < s.nextFlight ∧ Origin w s (keyOf n) e.origin
  processes : ∀ p ∈ s.processes, Stands w keyOf s p

structure Extends (w : World) (keyOf : Nat → Bytes) (s : Serving) (keyOf' : Nat → Bytes) (t : Serving) : Prop where
  started : ∀ key n, Started keyOf s key n → Started keyOf' t key n
  origins : ∀ key i, Origin w s key i → Origin w t key i

section
variable {w : World} {keyOf keyOf' : Nat → Bytes} {s s' t : Serving} {i : Nat} {p p' : Process} {e : Event}

theorem Shares.extend {served : Served} (ext : Extends w keyOf s keyOf' t) (shares : Shares w s p served) :
    Shares w t p served := by
  intro e shared
  obtain ⟨key,keyed,origin⟩ := shares e shared
  exact ⟨key,keyed,ext.origins _ _ origin⟩

theorem TurnHolds.extend {turn : Option CacheTurn} (ext : Extends w keyOf s keyOf' t)
    (holds : TurnHolds w keyOf s p turn) : TurnHolds w keyOf' t p turn := by
  intro c same
  obtain ⟨keyed,leads⟩ := holds c same
  exact ⟨keyed,fun n role => ext.started _ _ (leads n role)⟩

theorem Stands.extend (ext : Extends w keyOf s keyOf' t) (stands : Stands w keyOf s p) : Stands w keyOf' t p := by
  unfold Stands at stands ⊢
  cases stage : p.stage with
  | filtering _ => trivial
  | admitting => trivial
  | looking => trivial
  | coalescing key =>
    rw [stage] at stands
    exact stands
  | waiting key n =>
    rw [stage] at stands
    exact ⟨stands.1,ext.started _ _ stands.2⟩
  | trying turn attempts =>
    rw [stage] at stands
    exact stands.extend ext
  | responding turn r =>
    rw [stage] at stands
    exact stands.extend ext
  | closing key n result served =>
    rw [stage] at stands
    obtain ⟨started,entry,shares⟩ := stands
    exact ⟨ext.started _ _ started,fun e same => ext.origins _ _ (entry e same),shares.extend ext⟩
  | finished served =>
    rw [stage] at stands
    exact stands.extend ext

theorem lookedKeeps (made : Moved w s i p e p' s') (past : looked p.stage = true) :
    looked p'.stage = true ∧ p'.request = p.request := by
  have out : ∀ stage, p.stage = stage → looked stage = false → looked p'.stage = true ∧ p'.request = p.request := by
    intro stage same before
    rw [same,before] at past
    cases past
  have leave : ∀ turn result served, looked (leaveWith turn result served) = true := by
    intro turn result served
    unfold leaveWith
    split <;> rfl
  have after : ∀ turn attempts contextErr v, looked (stageAfter turn attempts contextErr v) = true := by
    intro turn attempts contextErr v
    cases v with
    | again => rfl
    | response r => rfl
    | failed err => exact leave _ _ _
  cases made with
  | left stage _ => exact out _ stage rfl
  | stopped stage _ => exact out _ stage rfl
  | passed stage _ => exact out _ stage rfl
  | unnamed stage _ => rcases stage with stage | stage <;> exact out _ stage rfl
  | admitted stage _ => rcases stage with stage | stage <;> exact out _ stage rfl
  | denied stage _ => rcases stage with stage | stage <;> exact out _ stage rfl
  | hit stage _ _ => exact out _ stage rfl
  | missed stage _ => exact out _ stage rfl
  | bypassed stage => exact out _ stage rfl
  | untransported _ => exact ⟨leave _ _ _,rfl⟩
  | outOfTime _ _ => exact ⟨leave _ _ _,rfl⟩
  | tried _ => exact ⟨after _ _ _ _,rfl⟩
  | refused _ _ => exact ⟨leave _ _ _,rfl⟩
  | relayed _ => exact ⟨leave _ _ _,rfl⟩
  | unreadable _ => exact ⟨leave _ _ _,rfl⟩
  | filled _ => exact ⟨leave _ _ _,rfl⟩
  | _ => exact ⟨rfl,rfl⟩

theorem keyedKept {key : Bytes} (made : Moved w s i p e p' s') (past : looked p.stage = true) (keyed : Keyed w key p) :
    Keyed w key p' := by
  unfold Keyed
  rw [exchangeKept made,(lookedKeeps made past).2]
  exact keyed

theorem originKept {key : Bytes} {j : Nat} (present : s.processes[i]? = some p) (made : Moved w s i p e p' s')
    (origin : Origin w s key j) : Origin w { s' with processes := s.processes.set i p' } key j := by
  obtain ⟨q,found,past,keyed⟩ := origin
  by_cases same : i = j
  · subst same
    cases present.symm.trans found
    exact ⟨p',List.getElem?_set_self (List.getElem?_eq_some_iff.mp present).1,
      (lookedKeeps made past).1,keyedKept made past keyed⟩
  · exact ⟨q,(List.getElem?_set_ne same).trans found,past,keyed⟩

theorem notForwardedShares {served : Served} (own : served.forwarded = false) : Shares w s p served := by
  rintro e (rfl | rfl) <;> cases own

theorem standsLeave {turn : Option CacheTurn} {result : FlightResult} {served : Served}
    (holds : TurnHolds w keyOf s p turn)
    (entry : ∀ c e, turn = some c → result.entry = some e → Origin w s c.key e.origin) (shares : Shares w s p served) :
    Stands w keyOf s { p with stage := leaveWith turn result served } := by
  unfold leaveWith
  split
  · rename_i key flight
    obtain ⟨_,leads⟩ := holds _ rfl
    exact ⟨leads flight rfl,fun e same => entry _ e rfl same,shares⟩
  · exact shares

theorem standsFailed {turn : Option CacheTurn} (holds : TurnHolds w keyOf s p turn) (contextErr : Option ContextError)
    (err : Failure) : Stands w keyOf s { p with stage := failedStage turn contextErr err } :=
  standsLeave holds (fun _ _ _ none => nomatch none) (notForwardedShares (proxyErrorNotForwarded contextErr err))

theorem standsAfter {turn : Option CacheTurn} (holds : TurnHolds w keyOf s p turn) (attempts : Int)
    (contextErr : Option ContextError) (v : Verdict) :
    Stands w keyOf s { p with stage := stageAfter turn attempts contextErr v } := by
  cases v with
  | again => exact holds
  | response r => exact holds
  | failed err => exact standsFailed holds contextErr err

theorem builtKeyed (w : World) (p : Process) (stage : Stage) :
    Keyed w (built w p).1 { p with request := (built w p).2, stage := stage } :=
  buildKeyEnds w.runes w.text w.sha256 p.exchange.cache p.request

theorem soloTurn {key : Bytes} (keyed : Keyed w key p) : TurnHolds w keyOf s p (some ⟨key,.solo⟩) := by
  intro c same
  cases same
  exact ⟨keyed,fun n leads => nomatch leads⟩

namespace Sealed

theorem othersStand (sealed : Sealed w keyOf s) (ext : Extends w keyOf s keyOf' t) (stands : Stands w keyOf' t p') :
    ∀ q ∈ s.processes.set i p', Stands w keyOf' t q := by
  intro q member
  rcases List.mem_or_eq_of_mem_set member with old | rfl
  · exact (sealed.processes q old).extend ext
  · exact stands

theorem still (sealed : Sealed w keyOf s) (present : s.processes[i]? = some p) (made : Moved w s i p e p' s')
    (entries : ∀ key e, s'.entries.get key = some e → s.entries.get key = some e)
    (flights : s'.flights = s.flights) (results : s'.results = s.results) (next : s'.nextFlight = s.nextFlight)
    (stands : ∀ t, Extends w keyOf s keyOf t → Stands w keyOf t p') :
    Sealed w keyOf { s' with processes := s.processes.set i p' } := by
  have ext : Extends w keyOf s keyOf { s' with processes := s.processes.set i p' } := by
    refine ⟨?_,fun key j origin => originKept present made origin⟩
    intro key n started
    exact ⟨next ▸ started.1,started.2⟩
  refine ⟨?_,?_,?_,sealed.othersStand ext (stands _ ext)⟩
  · intro key e found
    exact ext.origins _ _ (sealed.entries key e (entries key e found))
  · intro key n found
    exact ext.started _ _ (sealed.flights key n (flights ▸ found))
  · intro n r e found entry
    obtain ⟨started,origin⟩ := sealed.results n r e (results ▸ found) entry
    exact ⟨next ▸ started,ext.origins _ _ origin⟩

theorem led {key : Bytes} (sealed : Sealed w keyOf s) (present : s.processes[i]? = some p)
    (stage : p.stage = .coalescing key) (made : Moved w s i p e p' s')
    (moved : p' = { p with stage := .trying (some ⟨key,.leader s.nextFlight⟩) 0 })
    (serving : s' = { s with
      flights := s.flights.insert key s.nextFlight
      nextFlight := s.nextFlight + 1
      activeFlights := s.activeFlights + 1 }) :
    Sealed w (withKey keyOf s.nextFlight key) { s' with processes := s.processes.set i p' } := by
  have keyed := sealed.processes p (List.mem_of_getElem? present)
  unfold Stands at keyed
  rw [stage] at keyed
  have newest : Started (withKey keyOf s.nextFlight key)
      { s' with processes := s.processes.set i p' } key s.nextFlight := by
    subst serving
    exact ⟨Nat.lt_succ_self _,if_pos rfl⟩
  have ext : Extends w keyOf s (withKey keyOf s.nextFlight key)
      { s' with processes := s.processes.set i p' } := by
    refine ⟨?_,fun key j origin => originKept present made origin⟩
    rintro key n ⟨below,same⟩
    subst serving
    exact ⟨Nat.lt_succ_of_lt below,(if_neg (Nat.ne_of_lt below)).trans same⟩
  have stands : Stands w (withKey keyOf s.nextFlight key)
      { s' with processes := s.processes.set i p' } p' := by
    subst moved
    intro c same
    cases same
    refine ⟨keyed,?_⟩
    intro n role
    cases role
    exact newest
  refine ⟨?_,?_,?_,sealed.othersStand ext stands⟩
  · intro x e found
    exact ext.origins _ _ (sealed.entries x e (by rw [serving] at found; exact found))
  · intro x n found
    rw [serving] at found
    change (s.flights.insert key s.nextFlight).get x = some n at found
    rw [Map.getInsert] at found
    split at found
    · rename_i same
      cases found
      exact same ▸ newest
    · exact ext.started _ _ (sealed.flights x n found)
  · intro n r e found entry
    rw [serving] at found
    obtain ⟨below,origin⟩ := sealed.results n r e found entry
    have started := ext.started (keyOf n) n ⟨below,rfl⟩
    refine ⟨started.1,?_⟩
    rw [started.2]
    exact ext.origins _ _ origin

theorem filled {c : CacheTurn} {entry : Entry} (sealed : Sealed w keyOf s) (present : s.processes[i]? = some p)
    {r : Response} (stage : p.stage = .responding (some c) r) (own : entry.origin = i)
    (made : Moved w s i p e { p with stage := filledStage c entry } (setEntry s c.key entry)) :
    Sealed w keyOf { setEntry s c.key entry with processes := s.processes.set i { p with stage := filledStage c entry } } := by
  have holds := sealed.processes p (List.mem_of_getElem? present)
  unfold Stands at holds
  rw [stage] at holds
  have same : ∃ entries, setEntry s c.key entry = { s with entries := entries } ∧
      (entries = s.entries ∨ entries = s.entries.insert c.key entry) := by
    unfold setEntry
    split
    · exact ⟨s.entries,rfl,.inl rfl⟩
    · exact ⟨_,rfl,.inr rfl⟩
  obtain ⟨entries,after,change⟩ := same
  rw [after] at made ⊢
  have ext : Extends w keyOf s keyOf
      { s with entries := entries, processes := s.processes.set i { p with stage := filledStage c entry } } :=
    ⟨fun _ _ started => started,fun key j origin => originKept present made origin⟩
  have mine : Origin w { s with entries := entries, processes := s.processes.set i { p with stage := filledStage c entry } }
      c.key entry.origin := by
    rw [own]
    refine originKept present made ⟨p,present,?_,(holds c rfl).1⟩
    rw [stage]
    rfl
  refine ⟨?_,?_,?_,sealed.othersStand ext ?_⟩
  · intro key e found
    rcases change with old | new
    · exact ext.origins _ _ (sealed.entries key e (by rw [← old]; exact found))
    · have found : entries.get key = some e := found
      rw [new,Map.getInsert] at found
      split at found
      · rename_i at_
        cases found
        exact at_ ▸ mine
      · exact ext.origins _ _ (sealed.entries key e found)
  · intro key n found
    exact sealed.flights key n found
  · intro n r e found entry
    obtain ⟨below,origin⟩ := sealed.results n r e found entry
    exact ⟨below,ext.origins _ _ origin⟩
  · refine standsLeave (TurnHolds.extend ext holds) ?_ ?_
    · intro d e turn result
      cases turn
      cases result
      exact mine
    · rintro e (shared | shared) <;> cases shared

theorem closed {key : Bytes} {flight : Nat} {result : FlightResult} {served : Served} (sealed : Sealed w keyOf s)
    (present : s.processes[i]? = some p) (stage : p.stage = .closing key flight result served)
    (made : Moved w s i p e { p with stage := .finished served } (closeStep s p key flight result served).2) :
    Sealed w keyOf { (closeStep s p key flight result served).2 with
      processes := s.processes.set i { p with stage := .finished served } } := by
  have holds := sealed.processes p (List.mem_of_getElem? present)
  unfold Stands at holds
  rw [stage] at holds
  obtain ⟨started,entry,shares⟩ := holds
  have ext : Extends w keyOf s keyOf { (closeStep s p key flight result served).2 with
      processes := s.processes.set i { p with stage := .finished served } } :=
    ⟨fun _ _ started => started,fun key j origin => originKept present made origin⟩
  refine ⟨?_,?_,?_,sealed.othersStand ext ?_⟩
  · intro key e found
    exact ext.origins _ _ (sealed.entries key e found)
  · intro x n found
    refine sealed.flights x n ?_
    simp only [closeStep] at found
    split at found
    · rw [Map.getErase] at found
      split at found
      · cases found
      · exact found
    · exact found
  · intro n r e found held
    have found : (s.results.insert flight result).get n = some r := found
    rw [Map.getInsert] at found
    split at found
    · rename_i same
      cases found
      refine ⟨same ▸ started.1,ext.origins _ _ ?_⟩
      rw [same,started.2]
      exact entry e held
    · obtain ⟨below,origin⟩ := sealed.results n r e found held
      exact ⟨below,ext.origins _ _ origin⟩
  · exact Shares.extend ext shares

theorem stage {stage : Stage} (sealed : Sealed w keyOf s) (present : s.processes[i]? = some p) (same : p.stage = stage) :
    Stands w keyOf s { p with stage := stage } := by
  have stands := sealed.processes p (List.mem_of_getElem? present)
  cases same
  exact stands

theorem quiet (sealed : Sealed w keyOf s) (present : s.processes[i]? = some p) (made : Moved w s i p e p' s')
    (same : ∃ breakers, s' = { s with breakers := breakers })
    (stands : ∀ t, Extends w keyOf s keyOf t → Stands w keyOf t p') :
    Sealed w keyOf { s' with processes := s.processes.set i p' } := by
  obtain ⟨breakers,rfl⟩ := same
  exact sealed.still present made (fun _ _ found => found) rfl rfl rfl stands

theorem hit {now : Int} {entry : Entry} (sealed : Sealed w keyOf s)
    (found : getEntry s (built w p).1 now = (some entry,s)) : Origin w s (built w p).1 entry.origin := by
  refine sealed.entries _ _ ?_
  unfold getEntry at found
  split at found
  · cases found
  · rename_i e there
    split at found <;> cases found
    exact there

theorem missed {now : Int} (sealed : Sealed w keyOf s) (present : s.processes[i]? = some p)
    (made : Moved w s i p e { p with request := (built w p).2, stage := .coalescing (built w p).1 } s')
    (found : getEntry s (built w p).1 now = (none,s')) :
    Sealed w keyOf { s' with
      processes := s.processes.set i { p with request := (built w p).2, stage := .coalescing (built w p).1 } } := by
  have stands : ∀ t, Extends w keyOf s keyOf t →
      Stands w keyOf t { p with request := (built w p).2, stage := .coalescing (built w p).1 } :=
    fun _ _ => builtKeyed w p _
  unfold getEntry at found
  split at found
  · cases found
    exact sealed.still present made (fun _ _ found => found) rfl rfl rfl stands
  · split at found <;> cases found
    refine sealed.still present made ?_ rfl rfl rfl stands
    intro key e kept
    have kept : (s.entries.erase (built w p).1).get key = some e := kept
    rw [Map.getErase] at kept
    split at kept
    · cases kept
    · exact kept

theorem acted (sealed : Sealed w keyOf s) (present : s.processes[i]? = some p) (made : Moved w s i p e p' s') :
    ∃ keyOf', Sealed w keyOf' { s' with processes := s.processes.set i p' } := by
  cases id made with
  | left _ _ => exact ⟨_,sealed.quiet present made ⟨_,rfl⟩ fun _ _ => trivial⟩
  | stopped _ turn =>
    exact ⟨_,sealed.quiet present made ⟨_,rfl⟩ fun _ _ => notForwardedShares (stopNotForwarded turn)⟩
  | passed stage turn =>
    refine ⟨_,sealed.quiet present made ⟨_,rfl⟩ fun _ _ => ?_⟩
    simp only [filterStep,turn]
    trivial
  | unnamed _ _ => exact ⟨_,sealed.quiet present made ⟨_,rfl⟩ fun _ _ => trivial⟩
  | admitted _ _ => exact ⟨_,sealed.quiet present made ⟨_,rfl⟩ fun _ _ => trivial⟩
  | denied _ _ => exact ⟨_,sealed.quiet present made ⟨_,rfl⟩ fun _ _ => notForwardedShares rfl⟩
  | @hit now entry _ _ found =>
    refine ⟨_,sealed.quiet present made ⟨_,rfl⟩ fun t ext => ?_⟩
    rintro e (same | same) <;> cases same
    exact ⟨_,builtKeyed w p _,ext.origins _ _ (sealed.hit found)⟩
  | missed _ found => exact ⟨_,sealed.missed present made found⟩
  | bypassed _ => exact ⟨_,sealed.quiet present made ⟨_,rfl⟩ fun _ _ _ none => by cases none⟩
  | alone stage =>
    have keyed := sealed.stage present stage
    exact ⟨_,sealed.quiet present made ⟨_,rfl⟩ fun _ _ => soloTurn keyed⟩
  | joined stage flying =>
    have keyed := sealed.stage present stage
    exact ⟨_,sealed.quiet present made ⟨_,rfl⟩ fun _ ext => ⟨keyed,ext.started _ _ (sealed.flights _ _ flying)⟩⟩
  | led stage _ => exact ⟨_,sealed.led present stage made rfl rfl⟩
  | @followed key flight entry stage _ shared =>
    obtain ⟨keyed,started⟩ := sealed.stage present stage
    refine ⟨_,sealed.quiet present made ⟨_,rfl⟩ fun t ext => ?_⟩
    rintro e (same | same) <;> cases same
    have origin := (sealed.results _ _ _ shared rfl).2
    rw [started.2] at origin
    exact ⟨key,keyed,ext.origins _ _ origin⟩
  | brokeAway stage =>
    have keyed := (sealed.stage present stage).1
    exact ⟨_,sealed.quiet present made ⟨_,rfl⟩ fun _ _ => soloTurn keyed⟩
  | untransported stage =>
    have holds := sealed.stage present stage
    exact ⟨_,sealed.quiet present made ⟨_,rfl⟩ fun _ ext => standsFailed (TurnHolds.extend ext holds) _ _⟩
  | outOfTime stage _ =>
    have holds := sealed.stage present stage
    exact ⟨_,sealed.quiet present made ⟨_,rfl⟩ fun _ ext => standsFailed (TurnHolds.extend ext holds) _ _⟩
  | @tried turn attempts a contextErr stage =>
    have holds := sealed.stage present stage
    exact ⟨_,sealed.quiet present made (reportAttemptKeeps s p.exchange a) fun t ext =>
      standsAfter (p := { p with probe := p.probe && (reported a.outcome).isNone }) (TurnHolds.extend ext holds) _ _ _⟩
  | refused stage stopped =>
    have holds := sealed.stage present stage
    exact ⟨_,sealed.quiet present made ⟨_,rfl⟩ fun _ ext => standsLeave (TurnHolds.extend ext holds)
      (fun _ _ _ none => by cases none) (notForwardedShares (responseStopNotForwarded stopped))⟩
  | relayed stage =>
    have holds := sealed.stage present stage
    refine ⟨_,sealed.quiet present made ⟨_,rfl⟩ fun _ ext => standsLeave (TurnHolds.extend ext holds)
      (fun _ _ _ none => by cases none) ?_⟩
    rintro e (same | same) <;> cases same
  | unreadable stage =>
    have holds := sealed.stage present stage
    exact ⟨_,sealed.quiet present made ⟨_,rfl⟩ fun _ ext => standsLeave (TurnHolds.extend ext holds)
      (fun _ _ _ none => by cases none) (notForwardedShares rfl)⟩
  | filled stage => exact ⟨_,sealed.filled present stage rfl made⟩
  | closed stage => exact ⟨_,sealed.closed present stage made⟩

theorem arrived (sealed : Sealed w keyOf s) (x : Exchange) :
    Sealed w keyOf { s with processes := s.processes ++ [{ exchange := x, request := x.request, stage := .filtering x.filters }] } := by
  have ext : Extends w keyOf s keyOf
      { s with processes := s.processes ++ [{ exchange := x, request := x.request, stage := .filtering x.filters }] } := by
    refine ⟨fun _ _ started => started,?_⟩
    rintro key i ⟨p,present,past,keyed⟩
    exact ⟨p,List.getElem?_append_left (List.getElem?_eq_some_iff.mp present).1 ▸ present,past,keyed⟩
  refine ⟨?_,sealed.flights,?_,?_⟩
  · intro key e found
    exact ext.origins _ _ (sealed.entries key e found)
  · intro n r e found entry
    obtain ⟨below,origin⟩ := sealed.results n r e found entry
    exact ⟨below,ext.origins _ _ origin⟩
  · intro p member
    rcases List.mem_append.mp member with old | last
    · exact (sealed.processes p old).extend ext
    · cases List.mem_singleton.mp last
      trivial

theorem step {a : Action} (sealed : Sealed w keyOf s) (taken : RequestFlow.step w s a = some t) :
    ∃ keyOf', Sealed w keyOf' t := by
  cases stepped taken with
  | arrived x => exact ⟨_,sealed.arrived x⟩
  | acted present made => exact sealed.acted present made
  | expired key => exact ⟨keyOf,sealed.entries,sealed.flights,sealed.results,sealed.processes⟩

end Sealed
end

theorem runSealed {w : World} {s t : Serving} {as : List Action} (start : ∃ keyOf, Sealed w keyOf s)
    (run : Runs (step w) anyStep s as t) : ∃ keyOf, Sealed w keyOf t := by
  refine run.preserve (fun s => ∃ keyOf, Sealed w keyOf s) ?_ start
  rintro s a t ⟨keyOf,sealed⟩ _ taken
  exact sealed.step taken

def emptyServing (maxFlights : Nat) (maxObjectBytes : Int) : Serving :=
  { maxFlights := maxFlights, maxObjectBytes := maxObjectBytes }

theorem emptySealed (w : World) (maxFlights : Nat) (maxObjectBytes : Int) :
    ∃ keyOf, Sealed w keyOf (emptyServing maxFlights maxObjectBytes) := by
  refine ⟨fun _ => [],?_,?_,?_,?_⟩
  · intro key e found
    cases found
  · intro key n found
    cases found
  · intro n r e found
    cases found
  · intro p member
    cases member

def auth (p : Process) : Bytes := authOf p.request.header

/- The truncated digests tell the Authorization values of these requests apart. -/
def DigestsApart (w : World) (ps : List Process) : Prop :=
  ∀ p ∈ ps, ∀ q ∈ ps, (w.sha256 (auth p)).take 16 = (w.sha256 (auth q)).take 16 → auth p = auth q

theorem privateResponsesStayPrivate {w : World} {t : Serving} {as : List Action} {maxFlights : Nat} {maxObjectBytes : Int}
    {p : Process} {e : Entry} (run : Runs (step w) anyStep (emptyServing maxFlights maxObjectBytes) as t)
    (apart : DigestsApart w t.processes) (member : p ∈ t.processes)
    (served : p.stage = .finished (.hit e) ∨ p.stage = .finished (.follower e)) :
    ∃ q, t.processes[e.origin]? = some q ∧
      (q.exchange.cache.isPublic = false → p.exchange.cache.isPublic = false ∧ auth p = auth q) := by
  obtain ⟨keyOf,sealed⟩ := runSealed (emptySealed w maxFlights maxObjectBytes) run
  have stands := sealed.processes p member
  unfold Stands at stands
  have shares : ∃ key, Keyed w key p ∧ Origin w t key e.origin := by
    rcases served with stage | stage <;> rw [stage] at stands
    · exact stands e (.inl rfl)
    · exact stands e (.inr rfl)
  obtain ⟨key,keyed,q,present,_,origin⟩ := shares
  refine ⟨q,present,?_⟩
  intro personal
  exact partitionAuth personal (apart q (List.mem_of_getElem? present) p member) (partitionUnique origin keyed)

def personalPage (credentials : String) : Exchange := { plainExchange with
  cache := ⟨true,false,minute,0,[],false,0,false⟩
  request := ⟨encodeText "GET",encodeText "h",encodeText "/",[],Map.empty.insert authorization [encodeText credentials]⟩ }

def twoUsers : List Action :=
  [.arrive (personalPage "a"),.act 0 (.enter second),.act 0 (.look second),.act 0 .coalesce,
    .act 0 (attemptAt second (.response okResponse)),.act 0 (.respond (fun _ => .expired) (.body []) second),
    .arrive (personalPage " a"),.act 1 (.enter second),.act 1 (.look second),
    .arrive (personalPage "b"),.act 2 (.enter second),.act 2 (.look second)]

theorem twoUsersKeptApart :
    ∃ t p q e, Runs (step plainWorld) anyStep (emptyServing 10 10) twoUsers t ∧ p ∈ t.processes ∧
      p.stage = .finished (.hit e) ∧ t.processes[e.origin]? = some q ∧ q.exchange.cache.isPublic = false ∧
      p.exchange.cache.isPublic = false ∧ auth p = auth q := by
  obtain ⟨t,p,e,ran,present,hit,values,personal⟩ : ∃ t p e,
      runAll (step plainWorld) anyStep (emptyServing 10 10) twoUsers = some t ∧ t.processes[1]? = some p ∧
      p.stage = .finished (.hit e) ∧ t.processes.map auth = [encodeText "a",encodeText "a",encodeText "b"] ∧
      (t.processes[e.origin]?.map (·.exchange.cache.isPublic)) = some false := ⟨_,_,_,rfl,rfl,rfl,rfl,rfl⟩
  have apart : DigestsApart plainWorld t.processes := by
    have values : ∀ x ∈ t.processes.map auth, ∀ y ∈ t.processes.map auth, x.take 16 = y.take 16 → x = y := by
      rw [values]
      decide
    exact fun p left q right => values _ (List.mem_map_of_mem left) _ (List.mem_map_of_mem right)
  have run := runAllRuns ran
  have member := List.mem_of_getElem? present
  obtain ⟨q,origin,kept⟩ := privateResponsesStayPrivate run apart member (.inl hit)
  rw [origin] at personal
  have personal := Option.some.inj personal
  exact ⟨t,p,q,e,run,member,hit,origin,personal,kept personal⟩

end ReverseProxy.CacheIsolation
