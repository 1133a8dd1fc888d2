import ReverseProxy.PoolMembership
import ReverseProxy.Rounds

/-! The turns of a pool. A pick goes through the eligible endpoints, without any through
those that do not drain, or else through all; one counter is read modulo the length of
whichever list it is. As long as the list stays the same, every full round picks each of
its places once. -/
namespace ReverseProxy.RoundRobin
open PoolRegistry PoolMembership Rounds
open ServingPools (pickFromSome)

section
variable (p : PoolRuntime) (scan : List String) (outlierEjected : String → Bool) (now : Int)

def eligibleOf : List (String × EndpointRuntime) := (p.candidates scan).filter (PoolRuntime.eligible outlierEjected now)

def nonDrainingOf : List (String × EndpointRuntime) := (p.candidates scan).filter (fun e => !e.2.isDraining)

def used : List (String × EndpointRuntime) :=
  if eligibleOf p scan outlierEjected now ≠ [] then eligibleOf p scan outlierEjected now
  else if nonDrainingOf p scan ≠ [] then nonDrainingOf p scan
  else p.candidates scan

end

structure Turn where
  eligible : List String
  list : List String
  index : Nat
  result : PickResult

def turnOf (p : PoolRuntime) (scan : List String) (outlierEjected : String → Bool) (now : Int) : Turn where
  eligible := (eligibleOf p scan outlierEjected now).map Prod.fst
  list := (used p scan outlierEjected now).map Prod.fst
  index := p.rr % 2^64 % (used p scan outlierEjected now).length
  result := (p.pick scan outlierEjected now).1

def turns (p : PoolRuntime) : List Operation → List Turn
  | [] => []
  | .pick scan outlierEjected now :: rest =>
    turnOf p scan outlierEjected now :: turns (operate p (.pick scan outlierEjected now)) rest
  | operation :: rest => turns (operate p operation) rest

section
variable {p : PoolRuntime} {scan : List String} {outlierEjected : String → Bool} {now : Int}

theorem pickUsed (some_ : used p scan outlierEjected now ≠ []) :
    ∃ picked, (used p scan outlierEjected now)[p.rr % 2^64 % (used p scan outlierEjected now).length]? = some picked ∧
      (p.pick scan outlierEjected now).1.addr = picked.1 ∧ (p.pick scan outlierEjected now).2.rr = p.rr + 1 := by
  obtain ⟨picked,-,found⟩ := @pickFromSome p _ some_
  refine ⟨picked,found,?_⟩
  change p.pickFrom _ = some picked at found
  unfold used eligibleOf nonDrainingOf at found
  unfold PoolRuntime.pick
  dsimp only
  split
  · rename_i healthy
    rw [if_pos healthy] at found
    rw [found]
    exact ⟨rfl,rfl⟩
  · rename_i healthy
    rw [if_neg healthy] at found
    rw [found]
    exact ⟨rfl,rfl⟩

theorem usedEligible (some_ : eligibleOf p scan outlierEjected now ≠ []) :
    used p scan outlierEjected now = eligibleOf p scan outlierEjected now := if_pos some_

theorem usedSome (scanned : ∀ addr, (p.endpoints.get addr).isSome → addr ∈ scan) {addr : String}
    (member : (p.endpoints.get addr).isSome) : used p scan outlierEjected now ≠ [] := by
  obtain ⟨e,found⟩ := Option.isSome_iff_exists.mp member
  have candidates : p.candidates scan ≠ [] := by
    unfold PoolRuntime.candidates
    dsimp only
    split
    · exact List.ne_nil_of_mem (List.mem_filterMap.mpr ⟨addr,scanned addr member,by rw [found]; rfl⟩)
    · assumption
  unfold used
  split
  · assumption
  · split <;> assumption

theorem turnWithin (some_ : used p scan outlierEjected now ≠ []) :
    let t := turnOf p scan outlierEjected now
    t.index < t.list.length ∧ t.list[t.index]? = some t.result.addr := by
  obtain ⟨picked,found,answer,-⟩ := pickUsed some_
  constructor
  · rw [turnOf,List.length_map]
    exact Nat.mod_lt _ (List.length_pos_iff.mpr some_)
  · rw [turnOf,List.getElem?_map,found,answer]
    rfl

end

theorem turnsIndexes {addrs : List String} (some_ : addrs ≠ []) (operations : List Operation) (p : PoolRuntime)
    (same : ∀ t ∈ turns p operations, t.list = addrs) :
    (turns p operations).map Turn.index =
      (List.range' p.rr (turns p operations).length).map (fun v => v % 2^64 % addrs.length) := by
  induction operations generalizing p with
  | nil => rfl
  | cons operation rest ih =>
    cases operation with
    | pick scan outlierEjected now =>
      have list : (used p scan outlierEjected now).map Prod.fst = addrs := same _ (List.mem_cons_self ..)
      have listed : used p scan outlierEjected now ≠ [] := by
        intro none
        exact some_ (by rw [← list,none]; rfl)
      obtain ⟨-,-,-,counted⟩ := pickUsed listed
      have later := ih _ (fun t inside => same t (List.mem_cons_of_mem _ inside))
      rw [turns,List.map_cons,later,List.length_cons,List.range'_succ,List.map_cons]
      rw [← list,List.length_map]
      change _ :: _ = _ :: List.map _ (List.range' (p.rr + 1) _)
      rw [← counted]
      rfl
    | reconcile => exact ih _ same
    | reap => exact ih _ same
    | report => exact ih _ same

theorem unwrappedValues {rr m : Nat} (unwrapped : rr % 2^64 + m ≤ 2^64) (n : Nat) :
    (List.range' rr m).map (fun v => v % 2^64 % n) = (List.range' (rr % 2^64) m).map (· % n) := by
  rw [List.range'_eq_map_range,List.range'_eq_map_range,List.map_map,List.map_map]
  refine List.map_congr_left (fun i inside => ?_)
  have early := List.mem_range.mp inside
  have value : (rr + i) % 2^64 = rr % 2^64 + i := by omega
  exact congrArg (· % n) value

theorem fullRounds {p : PoolRuntime} {operations : List Operation} {addrs : List String} {k : Nat}
    (same : ∀ t ∈ turns p operations, t.list = addrs) (rounds : (turns p operations).length = k * addrs.length)
    (unwrapped : p.rr % 2^64 + k * addrs.length ≤ 2^64) {i : Nat} (inside : i < addrs.length) :
    ((turns p operations).map Turn.index).count i = k := by
  have some_ : addrs ≠ [] := List.length_pos_iff.mp (by omega)
  rw [turnsIndexes some_ operations p same,rounds,unwrappedValues unwrapped]
  exact countPlace inside _ k

theorem turnTaken {t : Turn} (operations : List Operation) (p : PoolRuntime) (taken : t ∈ turns p operations) :
    ∃ q scan outlierEjected now, t = turnOf q scan outlierEjected now := by
  induction operations generalizing p with
  | nil => cases taken
  | cons operation rest ih =>
    cases operation with
    | pick scan outlierEjected now =>
      rcases List.mem_cons.mp taken with rfl | later
      · exact ⟨p,scan,outlierEjected,now,rfl⟩
      · exact ih _ later
    | reconcile => exact ih _ taken
    | reap => exact ih _ taken
    | report => exact ih _ taken

theorem turnEligible {p : PoolRuntime} {operations : List Operation} {t : Turn} (taken : t ∈ turns p operations)
    (some_ : t.eligible ≠ []) : t.list = t.eligible ∧ t.eligible[t.index]? = some t.result.addr := by
  obtain ⟨q,scan,outlierEjected,now,rfl⟩ := turnTaken operations p taken
  have eligible : eligibleOf q scan outlierEjected now ≠ [] := by
    intro none
    exact some_ (by rw [turnOf,none]; rfl)
  have list : (turnOf q scan outlierEjected now).list = (turnOf q scan outlierEjected now).eligible := by
    rw [turnOf,usedEligible eligible]
  have within := (turnWithin (p := q) (by rwa [usedEligible eligible])).2
  exact ⟨list,list ▸ within⟩

theorem eligibleRounds :
    (∀ (p : PoolRuntime) (operations : List Operation) (addrs : List String) (k : Nat),
      (∀ t ∈ turns p operations, t.eligible = addrs) → (turns p operations).length = k * addrs.length →
      p.rr % 2^64 + k * addrs.length ≤ 2^64 →
      (∀ i < addrs.length, ((turns p operations).map Turn.index).count i = k) ∧
      ∀ t ∈ turns p operations, addrs[t.index]? = some t.result.addr) ∧
    ∀ (p : PoolRuntime) (scan : List String) (outlierEjected : String → Bool) (now : Int),
      (∀ addr, (p.endpoints.get addr).isSome → addr ∈ scan) → (∃ addr, (p.endpoints.get addr).isSome) →
      let t := turnOf p scan outlierEjected now
      t.index < t.list.length ∧ t.list[t.index]? = some t.result.addr := by
  constructor
  · intro p operations addrs k same rounds unwrapped
    have eligible : ∀ t ∈ turns p operations, t.list = addrs ∧ addrs[t.index]? = some t.result.addr := by
      intro t taken
      have some_ : t.eligible ≠ [] := by
        intro none
        have empty : addrs = [] := (same t taken).symm.trans none
        have idle : turns p operations = [] := by simpa [empty] using rounds
        rw [idle] at taken
        cases taken
      have picked := turnEligible taken some_
      rwa [same t taken] at picked
    exact ⟨fun i inside => fullRounds (fun t taken => (eligible t taken).1) rounds unwrapped inside,
      fun t taken => (eligible t taken).2⟩
  · intro p scan outlierEjected now scanned ⟨addr,member⟩
    exact turnWithin (usedSome scanned member)

def doubled : PoolRuntime := { live (.new strict 10) [.reconcile ["b","a","b"] strict 10 3] with rr := 7 }

def oneRound : List Operation :=
  [.pick [] (fun _ => false) 4,.report "a" .passiveSuccess,.pick [] (fun _ => false) 5,.pick [] (fun _ => false) 6]

theorem doubledScanned (addr : String) (member : (doubled.endpoints.get addr).isSome) : addr ∈ ["a","b"] := by
  have shape := congrArg (·.get addr) (reconciledShape (.new strict 10) ["b","a","b"] strict 10 3)
  have seen : (doubled.endpoints.get addr).map EndpointRuntime.isDraining =
      if addr ∈ ["b","a","b"] then some false else none := shape
  split at seen
  · grind
  · rw [Option.map_eq_none_iff.mp seen] at member
    cases member

theorem doubledRound :
    (∀ i < 3, ((turns doubled oneRound).map Turn.index).count i = 1) ∧
    (turnOf doubled ["a","b"] (fun _ => true) 4).index < 3 :=
  ⟨(eligibleRounds.1 doubled oneRound ["b","a","b"] 1 (by decide) (by decide) (by decide)).1,
    (eligibleRounds.2 doubled ["a","b"] (fun _ => true) 4 doubledScanned ⟨"a",by decide⟩).1⟩

end ReverseProxy.RoundRobin
