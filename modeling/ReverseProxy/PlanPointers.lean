import ReverseProxy.Deployments
import ReverseProxy.PlanHistory

/-! Where traffic plans are pointed to from. A route gets its plan from the Plan call
of its build; from there the pointer is in the goroutine's replies, in the snapshot it
compiled, and in whatever still has that snapshot: the store, a request, or a rollout
that may put it back. Plans outlive all of them, with their limiters. -/
namespace ReverseProxy.PlanPointers
open GoValues CallScript ConfigData SnapshotBuild SnapshotStore Deployments PlanHistory
open ControlPlane (Worker callWorker linked)

def Assigns (compiled : Compiled) (id : String) (p : Nat) : Prop := ∃ r ∈ compiled.routes, r.id = id ∧ r.trafficPlan = some p

def workerAssigns : Worker → String → Nat → Prop
  | .calling _ _ replies,id,p => (id,some p) ∈ replies.flatten
  | .finished (.ok r),id,p => Assigns r.compiled id p
  | _,_,_ => False

def Known (s : State) (snapshot : Snapshot) : Prop :=
  s.plane.live.store.current = some snapshot ∨ some snapshot ∈ s.plane.requests ∨ ∃ origin, Remembers s snapshot origin

def Planned (s : State) (id : String) (p : Nat) : Prop :=
  (∃ snapshot, Known s snapshot ∧ Assigns snapshot.compiled id p) ∨ ∃ w, Awaits s w ∧ workerAssigns w id p

theorem linkedAssigns {replies : List Reply} {compiled : Compiled} {id : String} {p : Nat}
    (assigns : Assigns (linkPlans replies compiled) id p) : (id,some p) ∈ replies.flatten := by
  obtain ⟨r,member,named,plan⟩ := assigns
  obtain ⟨route,-,rfl⟩ := List.mem_map.mp member
  obtain ⟨reply,found,is⟩ := Option.bind_eq_some_iff.mp plan
  have own : reply.1 = route.id := by simpa using List.find?_some found
  have whole : reply = (id,some p) := Prod.ext (own.trans named) is
  exact whole ▸ List.mem_of_find?_eq_some found

section
variable {platform : Platform} {rm : Rollout.Manager} {m : ApplyManager.Manager} {s s' : State} {a : Action}

theorem knownFrom (taken : step platform rm m s a = some s') {snapshot : Snapshot} (known : Known s' snapshot) :
    Known s snapshot ∨ ∃ r, Awaits s (.finished (.ok r)) ∧ snapshot.compiled = r.compiled := by
  rcases known with current | held | ⟨origin,kept⟩
  · cases (advances taken).installs with
    | kept same => exact .inl (.inl (same.symm.trans current))
    | @published _ r awaited now compiled =>
      cases Option.some.inj (now.symm.trans current)
      exact .inr ⟨r,awaited,compiled⟩
    | @putBack _ origin back now =>
      cases Option.some.inj (now.symm.trans current)
      exact .inl (.inr (.inr ⟨origin,putBackRemembered back⟩))
  · rcases heldFrom taken held with old | current
    · exact .inl (.inr (.inl old))
    · exact .inl (.inl current)
  · rcases remembered taken kept with old | ⟨current,-⟩
    · exact .inl (.inr (.inr ⟨origin,old⟩))
    · exact .inl (.inl current)

theorem movesFrom {w : Worker} {e : Effect} (moves : Moves platform s e w) {id : String} {p : Nat}
    (assigns : workerAssigns w id p) :
    (∃ w, Awaits s w ∧ workerAssigns w id p) ∨
      ∃ cfg now, e = .plan id cfg now ∧ ((traffic s).plan platform.runes id cfg now).1 = .ok (some p) := by
  cases moves with
  | @finished script made replies awaited all =>
    refine .inl ⟨_,awaited,?_⟩
    unfold linked at assigns
    cases result : script.result with
    | error e =>
      rw [result] at assigns
      cases assigns
    | ok r =>
      rw [result] at assigns
      exact linkedAssigns assigns
  | @called script made replies call now awaited next =>
    have more {reply : Reply} (either : (id,some p) ∈ (replies ++ [reply]).flatten) :
        (∃ w, Awaits s w ∧ workerAssigns w id p) ∨ (id,some p) ∈ reply := by
      rw [List.flatten_append, List.flatten_singleton] at either
      exact (List.mem_append.mp either).imp_left fun given => ⟨_,awaited,given⟩
    cases call with
    | plan routeID cfg =>
      simp only [perform] at assigns
      rw [show s.plane.live.registries.traffic = traffic s from rfl] at assigns
      cases answer : ((traffic s).plan platform.runes routeID cfg now).1 with
      | error e =>
        rw [answer] at assigns
        cases assigns
      | ok given =>
        rw [answer] at assigns
        rcases more assigns with old | new
        · exact .inl old
        · cases List.mem_singleton.mp new
          exact .inr ⟨cfg,now,rfl,answer⟩
    | reconcile key endpoints health opts => exact .inl ((more assigns).resolve_right (by simp))
    | prune desired => exact .inl ((more assigns).resolve_right (by simp))
    | outlier key endpoints cfg => exact .inl ((more assigns).resolve_right (by simp))
  | _ => cases assigns

theorem plannedFrom (taken : step platform rm m s a = some s') {id : String} {p : Nat} (planned : Planned s' id p) :
    Planned s id p ∨ ∃ cfg now, effect platform rm s a = .plan id cfg now ∧
      ((traffic s).plan platform.runes id cfg now).1 = .ok (some p) := by
  rcases planned with ⟨snapshot,known,assigns⟩ | ⟨w,awaits,assigns⟩
  · rcases knownFrom taken known with old | ⟨r,awaited,compiled⟩
    · exact .inl (.inl ⟨snapshot,old,assigns⟩)
    · rw [compiled] at assigns
      exact .inl (.inr ⟨_,awaited,assigns⟩)
  · rcases (advances taken).workers w awaits with old | moves
    · exact .inl (.inr ⟨w,old,assigns⟩)
    · exact (movesFrom moves assigns).imp_left .inr

theorem trafficContinues (start : Grounded platform.runes (traffic s)) (taken : step platform rm m s a = some s') :
    Continues platform.runes (traffic s) (traffic s') := by
  have same : traffic s' = _ := congrArg View.traffic (advances taken).view
  rw [same]
  cases effect platform rm s a with
  | plan routeID cfg now => exact operateContinues (.plan routeID cfg now) start
  | reapTraffic order now => exact operateContinues (.reap order now) start
  | drainUntil plan now => exact operateContinues (.drain plan now) start
  | _ => exact .refl start

end

def Has (q : TrafficRegistry.OverloadLimiter → Prop) (r : TrafficRegistry.Registry) (p : Nat) : Prop :=
  ∃ plan, r.plans.get p = some plan ∧ ∀ l, plan.overload = some l → q l

theorem Has.persists {q : TrafficRegistry.OverloadLimiter → Prop} {r t : TrafficRegistry.Registry} {p : Nat} (has : Has q r p)
    (kept : Persists r t) : Has q t p := by
  obtain ⟨plan,found,own⟩ := has
  obtain ⟨now,there,same⟩ := kept p plan found
  exact ⟨now,there,fun l is => own l ((congrArg Settings.overload same).symm.trans is)⟩

end ReverseProxy.PlanPointers
