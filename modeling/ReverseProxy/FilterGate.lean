import ReverseProxy.RequestFlow
import ReverseProxy.Transition

/-! A fail-closed filter as a gate in front of the cache, the flights and the
upstreams. The filter loop gives up without an error when it finds the request's
context expired, so the filters that are left are skipped; a cached response or a
finished flight is still served then. As long as no filter is skipped that way,
whatever is forwarded has passed every fail-closed filter of its route. -/
namespace ReverseProxy.FilterGate
open GoValues FiniteMap CacheKey RequestFlow Transition
open PolicyBuild (Breaker FailureMode Filter)

def Cleared (f : Filter) (p : Process) : Prop :=
  match p.stage with
  | .filtering left => f ∈ left ∨ f ∈ p.agreed
  | .finished served => served.forwarded = true → f ∈ p.agreed
  | _ => f ∈ p.agreed

def timely (f : Filter) (s : Serving) : Action → Bool
  | .act i (.filter .expired) =>
    match s.processes[i]? with
    | some p =>
      match p.stage with
      | .filtering left => !left.contains f
      | _ => true
    | none => true
  | _ => true

theorem clearedAgreed {f : Filter} {p : Process} (member : f ∈ p.agreed) : Cleared f p := by
  unfold Cleared
  split
  · exact .inr member
  · exact fun _ => member
  · exact member

theorem leaveExpired {f : Filter} {h : Header} {reply : FilterReply} (turn : filterTurn f h reply = .leave) :
    reply = .expired := by
  unfold filterTurn pluginFailure at turn
  repeat' split at turn
  all_goals first | rfl | cases turn

theorem failClosedProceeds {f : Filter} {h h' : Header} {reply : FilterReply} (mode : f.failureMode = .failClosed)
    (turn : filterTurn f h reply = .next h') : ∃ mutations, reply = .proceed mutations := by
  unfold filterTurn pluginFailure at turn
  rw [mode] at turn
  cases reply with
  | proceed mutations => exact ⟨mutations,rfl⟩
  | respond status =>
    dsimp only at turn
    split at turn <;> cases turn
  | _ => cases turn

section
variable {w : World} {s s' t : Serving} {i : Nat} {p p' : Process} {e : Event} {f : Filter}

theorem passedCleared {g : Filter} {left : List Filter} {reply : FilterReply} {h : Header}
    (mode : f.failureMode = .failClosed) (turn : filterTurn g p.request.header reply = .next h)
    (before : f ∈ g :: left ∨ f ∈ p.agreed) : Cleared f (filterStep p g left reply) := by
  have stage : (filterStep p g left reply).stage = .filtering left := by
    unfold filterStep
    rw [turn]
  have kept : f ∈ p.agreed → f ∈ (filterStep p g left reply).agreed := by
    intro member
    unfold filterStep
    rw [turn]
    cases reply with
    | proceed mutations => exact List.mem_cons_of_mem g member
    | _ => exact member
  unfold Cleared
  rw [stage]
  rcases before with coming | agreed
  · rcases List.mem_cons.mp coming with rfl | later
    · obtain ⟨mutations,rfl⟩ := failClosedProceeds mode turn
      refine .inr ?_
      unfold filterStep
      rw [turn]
      exact List.mem_cons_self
    · exact .inl later
  · exact .inr (kept agreed)

theorem agreedAfter {stage : Stage} (cleared : Cleared f p) (same : p.stage = stage)
    (filtered : ∀ left, stage ≠ .filtering left) (unended : ∀ served, stage ≠ .finished served) : f ∈ p.agreed := by
  unfold Cleared at cleared
  split at cleared
  · exact absurd (same.symm.trans ‹_›) (filtered _)
  · exact absurd (same.symm.trans ‹_›) (unended _)
  · exact cleared

theorem agreedAtGate (cleared : Cleared f p) (stage : p.stage = .admitting ∨ p.stage = .filtering []) :
    f ∈ p.agreed := by
  unfold Cleared at cleared
  rcases stage with stage | stage <;> rw [stage] at cleared
  · exact cleared
  · exact cleared.resolve_left List.not_mem_nil

theorem movedCleared (mode : f.failureMode = .failClosed) (made : Moved w s i p e p' s') (cleared : Cleared f p)
    (onTime : e = .filter .expired → ∀ left, p.stage = .filtering left → f ∉ left) : Cleared f p' := by
  cases made with
  | left stage turn =>
    have gone := onTime (congrArg _ (leaveExpired turn)) _ stage
    unfold Cleared at cleared
    rw [stage] at cleared
    exact clearedAgreed (p := { p with stage := .admitting }) (cleared.resolve_left gone)
  | stopped stage turn => exact fun forwarded => nomatch (stopNotForwarded turn).symm.trans forwarded
  | passed stage turn =>
    unfold Cleared at cleared
    rw [stage] at cleared
    exact passedCleared mode turn cleared
  | unnamed stage _ =>
    have member := agreedAtGate cleared stage
    exact member
  | admitted stage _ =>
    have member := agreedAtGate cleared stage
    exact member
  | denied _ _ => exact fun forwarded => nomatch forwarded
  | _ =>
    have member : f ∈ p.agreed := agreedAfter cleared ‹p.stage = _› (fun _ => Stage.noConfusion) (fun _ => Stage.noConfusion)
    exact clearedAgreed member

theorem stepCleared {a : Action} (mode : f.failureMode = .failClosed) (onTime : timely f s a = true)
    (taken : step w s a = some t) (cleared : ∀ p ∈ s.processes, f ∈ p.exchange.filters → Cleared f p) :
    ∀ p ∈ t.processes, f ∈ p.exchange.filters → Cleared f p := by
  cases stepped taken with
  | arrived x =>
    intro p member routed
    rcases List.mem_append.mp member with old | last
    · exact cleared p old routed
    · cases List.mem_singleton.mp last
      exact .inl routed
  | @acted i e q q' s' present made =>
    intro p member routed
    rcases List.mem_or_eq_of_mem_set member with old | rfl
    · exact cleared p old routed
    · rw [exchangeKept made] at routed
      refine movedCleared mode made (cleared q (List.mem_of_getElem? present) routed) ?_
      rintro rfl left stage inside
      simp [timely,present,stage,inside] at onTime
  | expired key => exact cleared

theorem runCleared {as : List Action} (mode : f.failureMode = .failClosed)
    (run : Runs (step w) (timely f · · = true) s as t)
    (cleared : ∀ p ∈ s.processes, f ∈ p.exchange.filters → Cleared f p) :
    ∀ p ∈ t.processes, f ∈ p.exchange.filters → Cleared f p :=
  run.preserve (fun s => ∀ p ∈ s.processes, f ∈ p.exchange.filters → Cleared f p)
    (fun _ _ _ kept onTime taken => stepCleared mode onTime taken kept) cleared

end

theorem forwardedPassedGate {w : World} {f : Filter} {s t : Serving} {as : List Action} {p : Process} {served : Served}
    (mode : f.failureMode = .failClosed) (unserved : s.processes = [])
    (run : Runs (step w) (timely f · · = true) s as t) (member : p ∈ t.processes) (routed : f ∈ p.exchange.filters)
    (written : p.stage.wrote = some served) (forwarded : served.forwarded = true) : f ∈ p.agreed := by
  have start : ∀ p ∈ s.processes, f ∈ p.exchange.filters → Cleared f p := by
    rw [unserved]
    exact fun _ member => nomatch member
  have cleared := runCleared mode run start p member routed
  unfold Cleared at cleared
  cases stage : p.stage with
  | closing key flight result sent =>
    rw [stage] at cleared
    exact cleared
  | finished sent =>
    rw [stage] at cleared written
    cases written
    exact cleared forwarded
  | _ =>
    rw [stage] at written
    cases written

def filterNamed (name : String) (mode : FailureMode) : Filter :=
  ⟨name,"127.0.0.1:9000",second,second,mode,⟨false,0,0,0⟩⟩

def gatedPage : Exchange := { plainExchange with
  filters := [filterNamed "tags" .failOpen,filterNamed "auth" .failClosed] }

def letIn : List Action :=
  [.arrive gatedPage,.act 0 (.filter (.proceed [])),.act 0 (.filter (.proceed [])),.act 0 (.enter second),
    .act 0 (.look second),.act 0 .coalesce,.act 0 (attemptAt second (.response okResponse)),
    .act 0 (.respond (fun _ => .done []) (.body []) second)]

def slipPast : List Action :=
  [.arrive gatedPage,.act 1 (.filter (.callError true)),.act 1 (.filter .expired),.act 1 (.enter second),
    .act 1 (.look second)]

theorem expiredRequestSkipsGate :
    ∃ t p served, Runs (step plainWorld) anyStep {} (letIn ++ slipPast) t ∧ p ∈ t.processes ∧
      filterNamed "auth" .failClosed ∈ p.exchange.filters ∧ p.stage.wrote = some served ∧ served.forwarded = true ∧
      filterNamed "auth" .failClosed ∉ p.agreed := by
  obtain ⟨t,p,served,ran,present,routed,written,forwarded,skipped⟩ : ∃ t p served,
      runAll (step plainWorld) anyStep {} (letIn ++ slipPast) = some t ∧ t.processes[1]? = some p ∧
      p.exchange.filters = gatedPage.filters ∧ p.stage.wrote = some served ∧ served.forwarded = true ∧ p.agreed = [] :=
    ⟨_,_,_,rfl,rfl,rfl,rfl,rfl,rfl⟩
  exact ⟨t,p,served,runAllRuns ran,List.mem_of_getElem? present,by rw [routed]; decide,written,forwarded,
    by rw [skipped]; decide⟩

theorem letInPassesGate :
    ∃ t p, Runs (step plainWorld) (timely (filterNamed "auth" .failClosed) · · = true) {} letIn t ∧
      p ∈ t.processes ∧ filterNamed "auth" .failClosed ∈ p.agreed := by
  obtain ⟨t,p,served,ran,present,routed,written,forwarded⟩ : ∃ t p served,
      runAll (step plainWorld) (timely (filterNamed "auth" .failClosed) · · = true) {} letIn = some t ∧
      t.processes[0]? = some p ∧ p.exchange.filters = gatedPage.filters ∧ p.stage.wrote = some served ∧
      served.forwarded = true := ⟨_,_,_,rfl,rfl,rfl,rfl,rfl⟩
  have run := runAllRuns ran
  have member := List.mem_of_getElem? present
  exact ⟨t,p,run,member,forwardedPassedGate rfl rfl run member (by rw [routed]; decide) written forwarded⟩

end ReverseProxy.FilterGate
