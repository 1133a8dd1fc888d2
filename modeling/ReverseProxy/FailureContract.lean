import ReverseProxy.ApplyManager
import ReverseProxy.Crew
import ReverseProxy.RequestIntake
import ReverseProxy.Transition

/-! The whole of Handler.ServeHTTP for any number of requests at once, with the error
category its recorder ends up with, and which categories a request that has been sent
to an upstream can still be recorded under. -/
namespace ReverseProxy.FailureContract
open GoValues RequestFlow RequestIntake
open PolicyBuild (Filter)
open Transition (Runs runAll runAllRuns)

/- A request: its number in the machine of the filters and attempts once it has got
there, the recorder's error category, and what the code does not keep: whether a round
trip was made for it, and whether its handling has panicked. -/
structure Ticket where
  process : Option Nat := none
  category : String := ""
  contacted : Bool := false
  panicked : Bool := false
  deriving DecidableEq, Repr

structure State where
  serving : Serving := {}
  tickets : List Ticket := []

/- `crash` is a request whose handling panics before its filters. -/
inductive Action where
  | arrive (around : Around) (r : Inbound)
  | crash
  | act (t : Nat) (e : Event)
  | panic (t : Nat)
  | expire (key : String)

/- WriteProxyError sets the recorder's category; no other answer does. -/
def noted (before : String) : Served → String
  | .proxyError _ category _ => category
  | _ => before

def contacts (p : Process) : Event → Bool
  | .attempt a _ =>
    match p.stage,a.outcome with
    | .trying _ _,.noUpstream => false
    | .trying _ _,_ =>
      decide (0 < computePerTryTimeout p.exchange.retry.perTryTimeout a.remainingOuter a.remainingBudget)
    | _,_ => false
  | _ => false

/- What is left of a request after a panic: a leader's deferred Finish. -/
def unwound : Stage → Stage
  | .trying turn _ => leaveWith turn (noEntry false) .nothing
  | .responding turn _ => leaveWith turn (noEntry false) .nothing
  | .closing key flight result served => .closing key flight result served
  | _ => .finished .nothing

def recorded (t : Ticket) (p : Process) (e : Event) (stage : Stage) : Ticket :=
  { t with
    category := if t.panicked then t.category else stage.wrote.elim t.category (noted t.category)
    contacted := t.contacted || contacts p e }

def step (w : World) (s : State) : Action → Option State
  | .arrive around r =>
    match intake around r with
    | .error served => some { s with tickets := s.tickets ++ [{ category := noted "" served }] }
    | .ok x => (RequestFlow.step w s.serving (.arrive x)).map (fun serving =>
        { serving := serving, tickets := s.tickets ++ [{ process := some s.serving.processes.length }] })
  | .crash => some { s with tickets := s.tickets ++ [{ category := "panic", panicked := true }] }
  | .act t e => do
    let ticket ← s.tickets[t]?
    let i ← ticket.process
    let p ← s.serving.processes[i]?
    let r ← move w s.serving i p e
    some {
      serving := { r.2 with processes := s.serving.processes.set i r.1 }
      tickets := s.tickets.set t (recorded ticket p e r.1.stage) }
  | .panic t => do
    let ticket ← s.tickets[t]?
    let i ← ticket.process
    let p ← s.serving.processes[i]?
    if p.stage.done then none
    else some {
      serving := { s.serving with processes := s.serving.processes.set i { p with stage := unwound p.stage } }
      tickets := s.tickets.set t { ticket with category := "panic", panicked := true } }
  | .expire key => (RequestFlow.step w s.serving (.expire key)).map (fun serving => { s with serving := serving })

/- The categories of FAILURE_MODES.md under which no upstream has been contacted. -/
def beforeContact : List String :=
  ["no_route","overloaded","circuit_open","plugin_timeout","plugin_unavailable","mtls_required","request_too_large",
    "headers_too_large","uri_too_long"]

def Past : Stage → Prop
  | .trying _ _ => True
  | .responding _ _ => True
  | .closing _ _ _ served => noted "" served ∉ beforeContact
  | .finished served => noted "" served ∉ beforeContact
  | _ => False

theorem unnamedFree : "" ∉ beforeContact := by decide

theorem panicFree : "panic" ∉ beforeContact := by decide

theorem leavePast {served : Served} (free : noted "" served ∉ beforeContact) (turn : Option CacheTurn) (result : FlightResult) :
    Past (leaveWith turn result served) := by
  unfold leaveWith
  split <;> exact free

theorem failedPast (turn : Option CacheTurn) (contextErr : Option ContextError) (err : Failure) :
    Past (failedStage turn contextErr err) := by
  refine leavePast ?_ turn (noEntry true)
  unfold proxyErrorFor badGateway
  repeat' split
  all_goals decide

theorem stageAfterPast (turn : Option CacheTurn) (attempts : Int) (contextErr : Option ContextError) (v : Verdict) :
    Past (stageAfter turn attempts contextErr v) := by
  cases v with
  | again => trivial
  | response r => trivial
  | failed err => exact failedPast turn contextErr err

theorem contactsTrying {p : Process} {e : Event} (contact : contacts p e = true) : ∃ turn attempts, p.stage = .trying turn attempts := by
  unfold contacts at contact
  split at contact
  · split at contact
    · cases contact
    · rename_i stage _
      exact ⟨_,_,stage⟩
    · cases contact
  · cases contact

theorem notedFree {category : String} {stage : Stage} (free : category ∉ beforeContact) (past : Past stage) :
    stage.wrote.elim category (noted category) ∉ beforeContact := by
  have named (served : Served) (after : noted "" served ∉ beforeContact) : noted category served ∉ beforeContact := by
    cases served with
    | proxyError status other message => exact after
    | _ => exact free
  cases stage with
  | closing key flight result served => exact named served past
  | finished served => exact named served past
  | _ => exact free

def answered : ResponseReply → Bool
  | .expired => true
  | .done _ => true
  | _ => false

theorem responseStops {f : Filter} {h : CacheKey.Header} {reply : ResponseReply} {served : Served}
    (stops : responseTurn f h reply = .stop served) : f.failureMode = .failClosed ∧ answered reply = false := by
  cases mode : f.failureMode with
  | failOpen => cases reply <;> simp [responseTurn,pluginFailure,mode] at stops
  | failClosed =>
    refine ⟨rfl,?_⟩
    cases reply with
    | expired => cases stops
    | done mutations => cases stops
    | _ => rfl

theorem answeredPasses {replies : Nat → ResponseReply} {n : Nat} {filters : List Filter} {h : CacheKey.Header} {served : Served}
    (all : ∀ k f, filters[k]? = some f → f.failureMode = .failClosed → answered (replies (n + k)) = true) :
    applyResponsePlugins replies n filters h ≠ .error served := by
  induction filters generalizing n h with
  | nil =>
    intro stopped
    cases stopped
  | cons f rest ih =>
    intro stopped
    unfold applyResponsePlugins at stopped
    split at stopped
    · cases stopped
    · rename_i turn
      obtain ⟨closed,failed⟩ := responseStops turn
      have fine := all 0 f rfl closed
      rw [Nat.add_zero, failed] at fine
      cases fine
    · refine ih ?_ stopped
      intro k g found closed
      rw [Nat.add_assoc, Nat.add_comm 1 k]
      exact all (k + 1) g found closed

def Answered (s : State) : Action → Prop
  | .act t (.respond replies _ _) => ∀ ticket i p, s.tickets[t]? = some ticket → ticket.process = some i →
      s.serving.processes[i]? = some p → ∀ k f, p.exchange.filters[k]? = some f → f.failureMode = .failClosed →
        answered (replies k) = true
  | _ => True

theorem pastMoves {w : World} {s s' : Serving} {i : Nat} {p p' : Process} {e : Event} (made : Moved w s i p e p' s')
    (fine : ∀ replies answer now, e = .respond replies answer now →
      ∀ k f, p.exchange.filters[k]? = some f → f.failureMode = .failClosed → answered (replies k) = true)
    (past : Past p.stage) : Past p'.stage := by
  cases made with
  | untransported stage => exact failedPast _ _ _
  | outOfTime stage late => exact failedPast _ _ _
  | tried stage => exact stageAfterPast _ _ _ _
  | refused stage stopped =>
    refine absurd stopped (answeredPasses ?_)
    intro k f found closed
    rw [Nat.zero_add]
    exact fine _ _ _ rfl k f found closed
  | relayed stage =>
    refine leavePast ?_ _ _
    exact unnamedFree
  | unreadable stage => exact leavePast (by decide) _ _
  | filled stage =>
    refine leavePast ?_ _ _
    exact unnamedFree
  | closed stage =>
    rw [stage] at past
    exact past
  | unnamed stage _ => rcases stage with stage | stage <;> simp [stage,Past] at past
  | admitted stage _ => rcases stage with stage | stage <;> simp [stage,Past] at past
  | denied stage _ => rcases stage with stage | stage <;> simp [stage,Past] at past
  | _ => simp_all only [Past]

structure Fits (processes : List Process) (t : Ticket) : Prop where
  bound : ∀ i, t.process = some i → i < processes.length
  unwritten : ∀ i p, t.process = some i → processes[i]? = some p → t.panicked = false → p.stage.wrote = none → t.category = ""
  panic : t.panicked = true → t.category = "panic"
  free : t.contacted = true → t.category ∉ beforeContact
  past : t.contacted = true → t.panicked = false → ∀ i p, t.process = some i → processes[i]? = some p → Past p.stage

structure Kept (s : State) : Prop where
  fits : ∀ (t : Nat) (ticket : Ticket), s.tickets[t]? = some ticket → Fits s.serving.processes ticket
  apart : ∀ (t u : Nat) (ticket other : Ticket) (i : Nat), s.tickets[t]? = some ticket → s.tickets[u]? = some other →
    ticket.process = some i → other.process = some i → t = u

theorem Fits.carries {processes processes' : List Process} {t : Ticket} (fits : Fits processes t)
    (same : ∀ i, t.process = some i → processes'[i]? = processes[i]?) : Fits processes' t := by
  refine ⟨?_,?_,fits.panic,fits.free,?_⟩
  · intro i is
    have there := List.getElem?_eq_getElem (fits.bound i is)
    rw [← same i is] at there
    exact (List.getElem?_eq_some_iff.mp there).1
  · intro i p is found
    exact fits.unwritten i p is ((same i is).symm.trans found)
  · intro contacted calm i p is found
    exact fits.past contacted calm i p is ((same i is).symm.trans found)

theorem Fits.joined {processes : List Process} {t : Ticket} (fits : Fits processes t) (new : Process) :
    Fits (processes ++ [new]) t :=
  fits.carries fun i is => List.getElem?_append_left (fits.bound i is)

theorem Fits.others {processes : List Process} {t : Ticket} (fits : Fits processes t) {i : Nat} (other : t.process ≠ some i)
    (p : Process) : Fits (processes.set i p) t :=
  fits.carries fun _ is => List.getElem?_set_ne fun here => other (is.trans (congrArg some here.symm))

theorem fitsAlone {processes : List Process} {t : Ticket} (none : t.process = none) (untouched : t.contacted = false)
    (panic : t.panicked = true → t.category = "panic") : Fits processes t := by
  refine ⟨?_,?_,panic,?_,?_⟩
  · intro i is
    rw [none] at is
    cases is
  · intro i p is
    rw [none] at is
    cases is
  · intro contacted
    rw [untouched] at contacted
    cases contacted
  · intro contacted
    rw [untouched] at contacted
    cases contacted

theorem fitsPanicked {processes : List Process} {t : Ticket} (bound : ∀ i, t.process = some i → i < processes.length) :
    Fits processes { t with category := "panic", panicked := true } := by
  refine ⟨bound,?_,fun _ => rfl,fun _ => panicFree,?_⟩
  · intro i p is found calm
    cases calm
  · intro contacted calm
    cases calm

theorem unwrittenBefore {w : World} {s s' : Serving} {i : Nat} {p p' : Process} {e : Event} (made : Moved w s i p e p' s')
    (unwritten : p'.stage.wrote = none) : p.stage.wrote = none := by
  cases made with
  | closed stage => cases unwritten
  | unnamed stage _ => rcases stage with stage | stage <;> simp [stage,Stage.wrote]
  | admitted stage _ => rcases stage with stage | stage <;> simp [stage,Stage.wrote]
  | denied stage _ => rcases stage with stage | stage <;> simp [stage,Stage.wrote]
  | _ => simp only [Stage.wrote, *]

theorem Fits.act {w : World} {s s' : Serving} {i : Nat} {p p' : Process} {e : Event} {t : Ticket}
    (fits : Fits s.processes t) (is : t.process = some i) (present : s.processes[i]? = some p) (made : Moved w s i p e p' s')
    (fine : ∀ replies answer now, e = .respond replies answer now →
      ∀ k f, p.exchange.filters[k]? = some f → f.failureMode = .failClosed → answered (replies k) = true) :
    Fits (s.processes.set i p') (recorded t p e p'.stage) := by
  have own {j : Nat} {q : Process} (here : t.process = some j) (found : (s.processes.set i p')[j]? = some q) : q = p' := by
    cases Option.some.inj (is.symm.trans here)
    rw [List.getElem?_set_self (List.getElem?_eq_some_iff.mp present).1] at found
    exact (Option.some.inj found).symm
  have past (calm : t.panicked = false) (contacted : (t.contacted || contacts p e) = true) : Past p.stage := by
    rcases Bool.or_eq_true_iff.mp contacted with before | now
    · exact fits.past before calm i p is present
    · obtain ⟨turn,attempts,stage⟩ := contactsTrying now
      rw [stage]
      trivial
  have before (calm : t.panicked = false) (contacted : (t.contacted || contacts p e) = true) : t.category ∉ beforeContact := by
    rcases Bool.or_eq_true_iff.mp contacted with before | now
    · exact fits.free before
    · obtain ⟨turn,attempts,stage⟩ := contactsTrying now
      rw [fits.unwritten i p is present calm (by rw [stage]; rfl)]
      exact unnamedFree
  refine ⟨?_,?_,?_,?_,?_⟩
  · intro j here
    rw [List.length_set]
    exact fits.bound j here
  · intro j q here found calm none
    cases own here found
    simp only [recorded] at calm ⊢
    rw [calm, none]
    exact fits.unwritten i p is present calm (unwrittenBefore made none)
  · intro panicked
    simp only [recorded] at panicked ⊢
    rw [if_pos panicked]
    exact fits.panic panicked
  · intro contacted
    simp only [recorded] at contacted ⊢
    cases calm : t.panicked with
    | true =>
      rw [if_pos rfl, fits.panic calm]
      exact panicFree
    | false =>
      have after := pastMoves made fine (past calm contacted)
      rw [if_neg Bool.false_ne_true]
      exact notedFree (before calm contacted) after
  · intro contacted calm j q here found
    cases own here found
    exact pastMoves made fine (past calm contacted)

section
variable {s : State}

theorem Kept.join (kept : Kept s) {ticket : Ticket} {serving : Serving} (fits : Fits serving.processes ticket)
    (old : ∀ (t : Nat) (other : Ticket), s.tickets[t]? = some other → Fits serving.processes other)
    (fresh : ∀ (t : Nat) (other : Ticket) (i : Nat), s.tickets[t]? = some other → other.process = some i → ticket.process ≠ some i) :
    Kept { serving := serving, tickets := s.tickets ++ [ticket] } := by
  refine ⟨?_,?_⟩
  · intro t x found
    rcases Crew.atJoin found with there | ⟨-,rfl⟩
    · exact old t x there
    · exact fits
  · intro t u x y i foundX foundY ofX ofY
    rcases Crew.atJoin foundX with there | ⟨rfl,rfl⟩
    · rcases Crew.atJoin foundY with also | ⟨rfl,rfl⟩
      · exact kept.apart t u x y i there also ofX ofY
      · exact absurd ofY (fresh t x i there ofX)
    · rcases Crew.atJoin foundY with also | ⟨rfl,rfl⟩
      · exact absurd ofX (fresh u y i also ofY)
      · rfl

theorem Kept.move (kept : Kept s) {t i : Nat} {ticket ticket' : Ticket} {p' : Process} {serving : Serving}
    (found : s.tickets[t]? = some ticket) (is : ticket.process = some i) (same : ticket'.process = ticket.process)
    (processes : serving.processes = s.serving.processes.set i p') (fits : Fits serving.processes ticket') :
    Kept { serving := serving, tickets := s.tickets.set t ticket' } := by
  refine ⟨?_,?_⟩
  · intro u x there
    rcases Crew.atMove found there with ⟨-,rfl⟩ | ⟨different,old⟩
    · exact fits
    · change Fits serving.processes x
      rw [processes]
      exact (kept.fits u x old).others (fun own => different (kept.apart u t x ticket i old found own is)) p'
  · intro u v x y j foundX foundY ofX ofY
    rcases Crew.atMove found foundX with ⟨rfl,rfl⟩ | ⟨different,old⟩
    · rcases Crew.atMove found foundY with ⟨rfl,rfl⟩ | ⟨-,also⟩
      · rfl
      · exact kept.apart u v ticket y j found also (same.symm.trans ofX) ofY
    · rcases Crew.atMove found foundY with ⟨rfl,rfl⟩ | ⟨-,also⟩
      · exact kept.apart u v x ticket j old found ofX (same.symm.trans ofY)
      · exact kept.apart u v x y j old also ofX ofY

theorem keptStep {w : World} {s' : State} {a : Action} (kept : Kept s) (fine : Answered s a) (taken : step w s a = some s') :
    Kept s' := by
  cases a with
  | arrive around r =>
    simp only [step] at taken
    split at taken
    · cases taken
      exact kept.join (fitsAlone rfl rfl (fun panicked => by cases panicked)) kept.fits (fun _ _ _ _ _ same => by cases same)
    · rename_i x _
      cases taken
      refine kept.join ?_ (fun t other found => (kept.fits t other found).joined _) ?_
      · refine ⟨?_,fun _ _ _ _ _ _ => rfl,?_,?_,?_⟩
        · intro i is
          cases is
          simp
        · intro panicked
          cases panicked
        · intro contacted
          cases contacted
        · intro contacted
          cases contacted
      · intro t other i found owns same
        cases same
        exact absurd ((kept.fits t other found).bound _ owns) (Nat.lt_irrefl _)
  | crash =>
    cases taken
    exact kept.join (fitsAlone rfl rfl (fun _ => rfl)) kept.fits (fun _ _ _ _ _ same => by cases same)
  | act t e =>
    simp only [step, Option.bind_eq_bind, Option.bind_eq_some_iff] at taken
    obtain ⟨ticket,found,i,is,p,present,r,ok,same⟩ := taken
    cases same
    refine kept.move found is rfl rfl ((kept.fits t ticket found).act is present (moved ok) ?_)
    rintro replies answer now rfl
    exact fine ticket i p found is present
  | panic t =>
    simp only [step, Option.bind_eq_bind, Option.bind_eq_some_iff] at taken
    obtain ⟨ticket,found,i,is,p,present,done⟩ := taken
    split at done
    · cases done
    · cases done
      refine kept.move found is rfl rfl (fitsPanicked ?_)
      intro j own
      rw [List.length_set]
      exact (kept.fits t ticket found).bound j own
  | expire key =>
    cases taken
    exact ⟨kept.fits,kept.apart⟩

end

theorem neverSentUpstream {w : World} {as : List Action} {s : State} (run : Runs (step w) Answered {} as s) {t : Ticket}
    (inside : t ∈ s.tickets) (refused : t.category ∈ beforeContact) : t.contacted = false := by
  have empty : Kept {} := by
    refine ⟨?_,?_⟩
    · intro t ticket found
      cases found
    · intro t u ticket other i found
      cases found
  have kept := run.preserve Kept (fun _ _ _ start fine taken => keptStep start fine taken) empty
  obtain ⟨n,found⟩ := List.mem_iff_getElem?.mp inside
  by_contra contacted
  exact (kept.fits n t found).free (Bool.not_eq_false _ ▸ contacted) refused

def filteredRoute : ConfigData.Route :=
  { id := "r", host := "h", pathPrefix := "/", pool := "p"
    policy := { plugins := ⟨true,some [{ name := "auth", addr := "10.0.0.9:9000", failureMode := "fail_closed" }]⟩ } }

def filtered : ConfigData.Config :=
  { routes := some [filteredRoute]
    pools := .single "p" { endpoints := some ["10.0.0.1:80"] } }

def filteredSnapshot : Option SnapshotStore.Snapshot :=
  (ApplyManager.applyResolvedVersion (ApplyManager.decoding filtered) {} ApplyManager.calm {} ApplyManager.document "boot" []
    .apply).live.store.current

def getRoot : Inbound :=
  { request := ⟨encodeText "GET",encodeText "h",encodeText "/",[],FiniteMap.Map.empty⟩
    requestURI := encodeText "/"
    headerCount := 0
    contentLength := 0
    body := none }

def answeredUpstream (t : Nat) : List Action :=
  [.arrive { snapshot := filteredSnapshot } getRoot,.act t (.filter (.proceed [])),.act t (.enter 0),.act t (.look 0),
    .act t (attemptAt 0 (.response okResponse))]

theorem responseFilterTimesOut :
    ∃ as s t, Runs (step plainWorld) Transition.anyStep {} as s ∧ t ∈ s.tickets ∧ t.category = "plugin_timeout" ∧
      t.category ∈ beforeContact ∧ t.contacted = true := by
  obtain ⟨s,ran,tickets⟩ :
      ∃ s, runAll (step plainWorld) Transition.anyStep {}
          (answeredUpstream 0 ++ [.act 0 (.respond (fun _ => .callError true) .notCacheable 0)]) = some s ∧
        s.tickets = [⟨some 0,"plugin_timeout",true,false⟩] :=
    ⟨_,rfl,rfl⟩
  exact ⟨_,s,_,runAllRuns ran,by rw [tickets]; exact List.mem_cons_self,rfl,by decide,rfl⟩

def responds : Action → Bool
  | .act _ (.respond _ _ _) => true
  | _ => false

theorem otherActionsAnswered (s : State) (a : Action) (other : responds a = false) : Answered s a := by
  cases a with
  | act t e =>
    cases e with
    | respond replies answer now => cases other
    | _ => trivial
  | _ => trivial

theorem requestFilterTimesOut :
    ∃ as s t, Runs (step plainWorld) Answered {} as s ∧ t ∈ s.tickets ∧ t.category ∈ beforeContact ∧ t.contacted = false := by
  obtain ⟨u,first,v,responded,s,rest,tickets⟩ :
      ∃ u, runAll (step plainWorld) (fun _ a => responds a = false) {} (answeredUpstream 0) = some u ∧
      ∃ v, step plainWorld u (.act 0 (.respond (fun _ => .done []) .notCacheable 0)) = some v ∧
      ∃ s, runAll (step plainWorld) (fun _ a => responds a = false) v
          [.arrive { snapshot := filteredSnapshot } getRoot,.act 1 (.filter (.callError true))] = some s ∧
        s.tickets = [⟨some 0,"",true,false⟩,⟨some 1,"plugin_timeout",false,false⟩] :=
    ⟨_,rfl,_,rfl,_,rfl,rfl⟩
  have answers : Answered u (.act 0 (.respond (fun _ => .done []) .notCacheable 0)) := by
    intro ticket i p found is present k f there closed
    rfl
  have run : Runs (step plainWorld) Answered {} _ s :=
    ((runAllRuns first).weaken otherActionsAnswered).append (.cons answers responded
      ((runAllRuns rest).weaken otherActionsAnswered))
  have inside : ⟨some 1,"plugin_timeout",false,false⟩ ∈ s.tickets := by
    rw [tickets]
    exact List.mem_cons_of_mem _ List.mem_cons_self
  have refused : "plugin_timeout" ∈ beforeContact := by decide
  exact ⟨_,s,_,run,inside,refused,neverSentUpstream run inside refused⟩

end ReverseProxy.FailureContract
