import ReverseProxy.Crew
import ReverseProxy.Transition

/-! runtime.InflightTracker: the count of requests inside ServeHTTP and the channel
that shutdown waits on. Inc and Dec change the count in one step and the channel in
another, under the mutex, so the two can be seen in different orders. -/
namespace ReverseProxy.InflightTracker
open Transition (Runs anyStep runAllRuns runAll)

/- A request: Inc has counted it as the first one and has not yet made a channel,
Inc has returned, Dec has counted it out as the last one and has not yet closed the
channel, or it is gone. -/
inductive Request where
  | making
  | inside
  | closing
  | gone
  deriving DecidableEq, Repr

/- Channels are numbered in the order they are made. A close that panics keeps the
mutex, which no deferred call unlocks. `count` is an int64 without its wrap: it never
passes the number of requests. -/
structure Tracker where
  count : Int := 0
  zeroCh : Nat := 0
  made : Nat := 1
  closed : Nat → Bool := fun _ => false
  panicked : Bool := false
  requests : List Request := []

def newInflightTracker : Tracker := { closed := fun ch => ch == 0 }

inductive Action where
  | inc
  | turn (i : Nat)
  deriving DecidableEq, Repr

/- The select of Wait on the channel it read under the mutex. -/
def Tracker.waitReturns (t : Tracker) : Bool := t.closed t.zeroCh

def Tracker.move (t : Tracker) (i : Nat) (r : Request) : Tracker := { t with requests := t.requests.set i r }

def stepRequest (t : Tracker) (i : Nat) : Request → Option Tracker
  | .making =>
    if t.panicked then none else some { t.move i .inside with zeroCh := t.made, made := t.made + 1 }
  | .inside => some { t.move i (if t.count - 1 = 0 then .closing else .gone) with count := t.count - 1 }
  | .closing =>
    if t.panicked then none
    else if t.closed t.zeroCh then some { t.move i .gone with panicked := true }
    else some { t.move i .gone with closed := fun ch => if ch = t.zeroCh then true else t.closed ch }
  | .gone => none

def step (t : Tracker) : Action → Option Tracker
  | .inc => some { t with
      count := t.count + 1
      requests := t.requests ++ [if t.count + 1 = 1 then .making else .inside] }
  | .turn i => t.requests[i]?.bind (stepRequest t i)

inductive Stepped (t : Tracker) : Action → Tracker → Prop where
  | first (zero : t.count + 1 = 1) :
      Stepped t .inc { t with count := t.count + 1, requests := t.requests ++ [.making] }
  | further (other : t.count + 1 ≠ 1) :
      Stepped t .inc { t with count := t.count + 1, requests := t.requests ++ [.inside] }
  | makes {i} (found : t.requests[i]? = some .making) (calm : t.panicked = false) :
      Stepped t (.turn i) { t.move i .inside with zeroCh := t.made, made := t.made + 1 }
  | last {i} (found : t.requests[i]? = some .inside) (zero : t.count - 1 = 0) :
      Stepped t (.turn i) { t.move i .closing with count := t.count - 1 }
  | leaves {i} (found : t.requests[i]? = some .inside) (other : t.count - 1 ≠ 0) :
      Stepped t (.turn i) { t.move i .gone with count := t.count - 1 }
  | panics {i} (found : t.requests[i]? = some .closing) (calm : t.panicked = false) (shut : t.waitReturns = true) :
      Stepped t (.turn i) { t.move i .gone with panicked := true }
  | closes {i} (found : t.requests[i]? = some .closing) (calm : t.panicked = false) (isOpen : t.waitReturns = false) :
      Stepped t (.turn i) { t.move i .gone with closed := fun ch => if ch = t.zeroCh then true else t.closed ch }

theorem stepped {t t' : Tracker} {a : Action} (taken : step t a = some t') : Stepped t a t' := by
  cases a with
  | inc =>
    cases taken
    by_cases zero : t.count + 1 = 1
    · simpa only [zero, if_true] using Stepped.first zero
    · simpa only [zero, if_false] using Stepped.further zero
  | turn i =>
    obtain ⟨r,found,moved⟩ := Option.bind_eq_some_iff.mp taken
    cases r with
    | making =>
      simp only [stepRequest] at moved
      split at moved <;> cases moved
      exact .makes found (by simpa using ‹¬t.panicked = true›)
    | inside =>
      cases moved
      by_cases zero : t.count - 1 = 0
      · simpa only [zero, if_true] using Stepped.last found zero
      · simpa only [zero, if_false] using Stepped.leaves found zero
    | closing =>
      simp only [stepRequest] at moved
      split at moved <;> try cases moved
      rename_i calm
      split at moved <;> cases moved
      · exact .panics found (by simpa using calm) (by assumption)
      · exact .closes found (by simpa using calm) (Bool.eq_false_iff.mpr (by assumption))
    | gone => cases moved

def Tracker.standing (t : Tracker) (r : Request) : Nat := t.requests.countP (· == r)

/- A channel is made only when no close is outstanding. -/
def inOrder (t : Tracker) : Action → Bool
  | .turn i => t.requests[i]? != some .making || t.requests.all (· != .closing)
  | .inc => true

/- Where the requests stand decides the channel: closed when nothing is counted, or
when the channel of the first one is still to be made, and no close is outstanding. -/
structure Balanced (count : Int) (making inside closing : Nat) (shut : Bool) : Prop where
  total : count = making + inside
  oneMaking : making ≤ 1
  oneClosing : closing ≤ 1
  outstanding : closing = 1 → making = 1 ∨ count = 0
  channel : shut = true ↔ closing = 0 ∧ (making = 1 ∨ count = 0)

section
variable {count : Int} {making inside closing making' inside' closing' : Nat} {shut : Bool}

theorem Balanced.first (start : Balanced count making inside closing shut) (zero : count + 1 = 1)
    (m : making' = making + 1) (n : inside' = inside) (k : closing' = closing) :
    Balanced (count + 1) making' inside' closing' shut := by
  obtain ⟨total,oneMaking,oneClosing,outstanding,channel⟩ := start
  exact ⟨by omega,by omega,by omega,by omega,channel.trans (by omega)⟩

theorem Balanced.further (start : Balanced count making inside closing shut) (other : count + 1 ≠ 1)
    (m : making' = making) (n : inside' = inside + 1) (k : closing' = closing) :
    Balanced (count + 1) making' inside' closing' shut := by
  obtain ⟨total,oneMaking,oneClosing,outstanding,channel⟩ := start
  exact ⟨by omega,by omega,by omega,by omega,channel.trans (by omega)⟩

theorem Balanced.makes (start : Balanced count making inside closing shut) (none : closing = 0)
    (m : making' + 1 = making) (n : inside' = inside + 1) (k : closing' = closing) :
    Balanced count making' inside' closing' false := by
  obtain ⟨total,oneMaking,oneClosing,outstanding,channel⟩ := start
  refine ⟨by omega,by omega,by omega,by omega,?_⟩
  simp only [Bool.false_eq_true, false_iff]
  omega

theorem Balanced.last (start : Balanced count making inside closing shut) (zero : count - 1 = 0)
    (m : making' = making) (n : inside' + 1 = inside) (k : closing' = closing + 1) :
    Balanced (count - 1) making' inside' closing' shut := by
  obtain ⟨total,oneMaking,oneClosing,outstanding,channel⟩ := start
  exact ⟨by omega,by omega,by omega,by omega,channel.trans (by omega)⟩

theorem Balanced.leaves (start : Balanced count making inside closing shut) (other : count - 1 ≠ 0)
    (m : making' = making) (n : inside' + 1 = inside) (k : closing' = closing) :
    Balanced (count - 1) making' inside' closing' shut := by
  obtain ⟨total,oneMaking,oneClosing,outstanding,channel⟩ := start
  exact ⟨by omega,by omega,by omega,by omega,channel.trans (by omega)⟩

theorem Balanced.closes (start : Balanced count making inside closing shut)
    (m : making' = making) (n : inside' = inside) (k : closing' + 1 = closing) :
    Balanced count making' inside' closing' true := by
  obtain ⟨total,oneMaking,oneClosing,outstanding,channel⟩ := start
  refine ⟨by omega,by omega,by omega,by omega,?_⟩
  simp only [true_iff]
  omega

end

structure Kept (t : Tracker) : Prop where
  balanced : Balanced t.count (t.standing .making) (t.standing .inside) (t.standing .closing) t.waitReturns
  fresh : ∀ ch, t.made ≤ ch → t.closed ch = false
  known : t.zeroCh < t.made
  calm : t.panicked = false

theorem standingMove {t : Tracker} {i : Nat} {old : Request} (found : t.requests[i]? = some old) (new r : Request) :
    (t.move i new).standing r + (old == r).toNat = t.standing r + (new == r).toNat :=
  Crew.countMove (· == r) found new

theorem standingJoin (t : Tracker) (new r : Request) :
    (t.requests ++ [new]).countP (· == r) = t.standing r + (new == r).toNat :=
  Crew.countJoin (· == r) t.requests new

theorem keptStep {t t' : Tracker} {a : Action} (start : Kept t) (ordered : inOrder t a = true) (taken : Stepped t a t') :
    Kept t' := by
  obtain ⟨balanced,fresh,known,calm⟩ := start
  cases taken with
  | first zero =>
    have joins := standingJoin t .making
    exact ⟨balanced.first zero (joins .making) (joins .inside) (joins .closing),fresh,known,calm⟩
  | further other =>
    have joins := standingJoin t .inside
    exact ⟨balanced.further other (joins .making) (joins .inside) (joins .closing),fresh,known,calm⟩
  | makes found =>
    have moves := standingMove found .inside
    have none : t.standing .closing = 0 := by
      simpa [inOrder,found,Tracker.standing,List.countP_eq_zero] using ordered
    have shut : t.closed t.made = false := fresh _ (Nat.le_refl _)
    refine ⟨?_,fun ch later => fresh ch (Nat.le_of_succ_le later),Nat.lt_succ_self _,calm⟩
    have kept := balanced.makes none (moves .making) (moves .inside) (moves .closing)
    rwa [← shut] at kept
  | last found zero =>
    have moves := standingMove found .closing
    exact ⟨balanced.last zero (moves .making) (moves .inside) (moves .closing),fresh,known,calm⟩
  | leaves found other =>
    have moves := standingMove found .gone
    exact ⟨balanced.leaves other (moves .making) (moves .inside) (moves .closing),fresh,known,calm⟩
  | panics found _ shut =>
    -- The channel is closed only when no close is outstanding.
    have none := (balanced.channel.mp shut).1
    have one := Crew.countPositive (· == Request.closing) (Crew.member found) rfl
    exact absurd none (Nat.ne_of_gt one)
  | closes found =>
    have moves := standingMove found .gone
    refine ⟨?_,?_,known,calm⟩
    · have shut : (if t.zeroCh = t.zeroCh then true else t.closed t.zeroCh) = true := if_pos rfl
      have kept := balanced.closes (moves .making) (moves .inside) (moves .closing)
      rwa [← shut] at kept
    · intro ch later
      have other : ch ≠ t.zeroCh := by
        rintro rfl
        exact absurd known (Nat.not_lt.mpr later)
      simpa [other] using fresh ch later

theorem keptStart : Kept newInflightTracker := by
  refine ⟨⟨rfl,Nat.zero_le _,Nat.zero_le _,by decide,by decide⟩,?_,Nat.one_pos,rfl⟩
  intro ch later
  exact beq_eq_false_iff_ne.mpr (Nat.ne_of_gt later)

def Tracker.settled (t : Tracker) : Prop := ∀ r ∈ t.requests, r ≠ .making ∧ r ≠ .closing

theorem waitMatchesCount {as : List Action} {t : Tracker}
    (run : Runs step (fun t a => inOrder t a = true) newInflightTracker as t) :
    t.panicked = false ∧ (t.settled → (t.waitReturns = true ↔ t.count = 0)) ∧ 0 ≤ t.count ∧ t.count ≤ t.requests.length := by
  have kept : Kept t := run.preserve Kept (fun _ _ _ start ordered taken => keptStep start ordered (stepped taken)) keptStart
  have apart : t.standing .making + t.standing .inside ≤ t.requests.length := by
    rw [List.length_eq_countP_add_countP (· == Request.making)]
    exact Nat.add_le_add_left (List.countP_mono_left fun r _ here => by cases r <;> simp_all) _
  have total := kept.balanced.total
  refine ⟨kept.calm,?_,by omega,by omega⟩
  intro settled
  have making : t.standing .making = 0 := by
    simpa [Tracker.standing,List.countP_eq_zero] using fun r present => (settled r present).1
  have closing : t.standing .closing = 0 := by
    simpa [Tracker.standing,List.countP_eq_zero] using fun r present => (settled r present).2
  rw [kept.balanced.channel, making, closing]
  simp

theorem waitsForBoth :
    ∃ t u, Runs step (fun t a => inOrder t a = true) newInflightTracker [.inc,.turn 0,.inc,.turn 0] t ∧
      Runs step (fun t a => inOrder t a = true) newInflightTracker [.inc,.turn 0,.inc,.turn 0,.turn 1,.turn 1] u ∧
      t.requests = [.gone,.inside] ∧ u.requests = [.gone,.gone] ∧ t.waitReturns = false ∧ u.waitReturns = true := by
  obtain ⟨t,ran,requests,one⟩ : ∃ t, runAll step (fun t a => inOrder t a = true) newInflightTracker
      [.inc,.turn 0,.inc,.turn 0] = some t ∧ t.requests = [.gone,.inside] ∧ t.count = 1 := ⟨_,rfl,rfl,rfl⟩
  obtain ⟨u,ended,left,zero⟩ : ∃ u, runAll step (fun t a => inOrder t a = true) newInflightTracker
      [.inc,.turn 0,.inc,.turn 0,.turn 1,.turn 1] = some u ∧ u.requests = [.gone,.gone] ∧ u.count = 0 := ⟨_,rfl,rfl,rfl⟩
  have waits := (waitMatchesCount (runAllRuns ran)).2.1 (by simp [Tracker.settled,requests])
  have returns := (waitMatchesCount (runAllRuns ended)).2.1 (by simp [Tracker.settled,left])
  exact ⟨t,u,runAllRuns ran,runAllRuns ended,requests,left,by simp [← Bool.not_eq_true,waits,one],returns.mpr zero⟩

theorem closedUnderRequest :
    (∃ as t, Runs step anyStep newInflightTracker as t ∧ t.settled ∧ t.waitReturns = true ∧ t.count = 1) ∧
    ∃ as t, Runs step anyStep newInflightTracker as t ∧ t.panicked = true := by
  refine ⟨⟨[.inc,.turn 0,.turn 0,.inc,.turn 1,.turn 0],_,runAllRuns rfl,?_,rfl,rfl⟩,
    ⟨[.inc,.turn 0,.turn 0,.inc,.turn 1,.turn 0,.turn 1,.turn 1],_,runAllRuns rfl,rfl⟩⟩
  simp [Tracker.settled,Tracker.move,newInflightTracker]

end ReverseProxy.InflightTracker
