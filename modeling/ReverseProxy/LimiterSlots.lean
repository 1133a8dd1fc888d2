import ReverseProxy.Crew
import ReverseProxy.TrafficRegistry

/-! traffic.OverloadLimiter: Acquire and the release it returns as their channel
operations. A caller owns a slot of `inflight`, a place in `queue`, or for a moment
both; the two channels hold one token for each. -/
namespace ReverseProxy.LimiterSlots
open TrafficRegistry (OverloadLimiter)

structure Channels where
  inflight : Nat := 0
  queue : Nat := 0
  deriving DecidableEq, Repr

/- Before trySend on inflight, before trySend on queue, in the select, in the select's
first branch or in one of the other two before they leave the queue, and what Acquire
and release have led to. -/
inductive Place where
  | entering
  | turned
  | queued
  | slotted
  | expired
  | past
  | refused
  | released
  deriving DecidableEq, Repr

def Place.holds : Place → Bool
  | .slotted => true
  | .past => true
  | _ => false

def Place.waits : Place → Bool
  | .queued => true
  | .slotted => true
  | .expired => true
  | _ => false

def Place.done : Place → Bool
  | .refused => true
  | .released => true
  | _ => false

inductive Move where
  | tryInflight
  | tryQueue
  | getSlot
  | timeout
  | cancelled
  | leaveQueue
  | release
  deriving DecidableEq, Repr

def Move.takes : Move → Bool
  | .tryInflight => true
  | .getSlot => true
  | _ => false

/- A nil queue has no room, as maxQueue is 0 then. A send without room and a receive
without a token block, trySend apart. -/
def move (l : OverloadLimiter) (c : Channels) : Place → Move → Option (Place × Channels)
  | .entering,.tryInflight =>
    if (c.inflight : Int) < l.maxInflight then some (.past,{ c with inflight := c.inflight + 1 }) else some (.turned,c)
  | .turned,.tryQueue =>
    if (c.queue : Int) < l.maxQueue then some (.queued,{ c with queue := c.queue + 1 }) else some (.refused,c)
  | .queued,.getSlot =>
    if (c.inflight : Int) < l.maxInflight then some (.slotted,{ c with inflight := c.inflight + 1 }) else none
  | .queued,.timeout => some (.expired,c)
  | .queued,.cancelled => some (.expired,c)
  | .slotted,.leaveQueue => if 0 < c.queue then some (.past,{ c with queue := c.queue - 1 }) else none
  | .expired,.leaveQueue => if 0 < c.queue then some (.refused,{ c with queue := c.queue - 1 }) else none
  | .past,.release => if 0 < c.inflight then some (.released,{ c with inflight := c.inflight - 1 }) else none
  | _,_ => none

inductive Moved (l : OverloadLimiter) (c : Channels) : Place → Move → Place → Channels → Prop where
  | took (room : (c.inflight : Int) < l.maxInflight) :
      Moved l c .entering .tryInflight .past { c with inflight := c.inflight + 1 }
  | turned (full : ¬(c.inflight : Int) < l.maxInflight) : Moved l c .entering .tryInflight .turned c
  | queued (room : (c.queue : Int) < l.maxQueue) : Moved l c .turned .tryQueue .queued { c with queue := c.queue + 1 }
  | refused (full : ¬(c.queue : Int) < l.maxQueue) : Moved l c .turned .tryQueue .refused c
  | slotted (room : (c.inflight : Int) < l.maxInflight) :
      Moved l c .queued .getSlot .slotted { c with inflight := c.inflight + 1 }
  | timedOut : Moved l c .queued .timeout .expired c
  | cancelled : Moved l c .queued .cancelled .expired c
  | passed (token : 0 < c.queue) : Moved l c .slotted .leaveQueue .past { c with queue := c.queue - 1 }
  | gaveUp (token : 0 < c.queue) : Moved l c .expired .leaveQueue .refused { c with queue := c.queue - 1 }
  | released (token : 0 < c.inflight) : Moved l c .past .release .released { c with inflight := c.inflight - 1 }

section
variable {l : OverloadLimiter} {c c' : Channels} {place place' : Place} {mv : Move}

theorem moved (went : move l c place mv = some (place',c')) : Moved l c place mv place' c' := by
  unfold move at went
  split at went
  · split at went <;> cases went
    · exact .took (by assumption)
    · exact .turned (by assumption)
  · split at went <;> cases went
    · exact .queued (by assumption)
    · exact .refused (by assumption)
  · split at went <;> cases went
    exact .slotted (by assumption)
  · cases went
    exact .timedOut
  · cases went
    exact .cancelled
  · split at went <;> cases went
    exact .passed (by assumption)
  · split at went <;> cases went
    exact .gaveUp (by assumption)
  · split at went <;> cases went
    exact .released (by assumption)
  · cases went

theorem Moved.slots (went : Moved l c place mv place' c') :
    c'.inflight + place.holds.toNat = c.inflight + place'.holds.toNat := by
  cases went <;> simp [Place.holds]
  omega

theorem Moved.capped (went : Moved l c place mv place' c') (capped : c.inflight ≤ l.maxInflight.toNat) :
    c'.inflight ≤ l.maxInflight.toNat := by
  cases went with
  | took room =>
    dsimp only
    omega
  | slotted room =>
    dsimp only
    omega
  | released token => exact Nat.le_trans (Nat.sub_le ..) capped
  | _ => exact capped

theorem Moved.places (went : Moved l c place mv place' c') : c'.queue + place.waits.toNat = c.queue + place'.waits.toNat := by
  cases went <;> simp [Place.waits]
  all_goals omega

theorem Moved.queueCapped (went : Moved l c place mv place' c') (capped : c.queue ≤ l.maxQueue.toNat) :
    c'.queue ≤ l.maxQueue.toNat := by
  cases went with
  | queued room =>
    dsimp only
    omega
  | passed token => exact Nat.le_trans (Nat.sub_le ..) capped
  | gaveUp token => exact Nat.le_trans (Nat.sub_le ..) capped
  | _ => exact capped

theorem Moved.takes (went : Moved l c place mv place' c') (before : place.holds = false) (after : place'.holds = true) :
    mv.takes = true := by
  cases went with
  | took => rfl
  | slotted => rfl
  | passed => cases before
  | _ => cases after

end
end ReverseProxy.LimiterSlots
