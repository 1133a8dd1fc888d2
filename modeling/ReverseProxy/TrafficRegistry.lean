import ReverseProxy.FiniteMap
import ReverseProxy.PolicyBuild

/-! Package traffic: plans and the registry that keeps one per route. Snapshots
hold plans by pointer, so plans live in a heap and entries name them; a plan
carries the flag that says whether its AutoDrain loop still runs. -/
namespace ReverseProxy.TrafficRegistry
open GoValues FiniteMap
open PolicyBuild (Traffic)

inductive CohortExtractor where
  | ip
  | header (name : String)
  deriving DecidableEq, Repr

/- The seven characters of "header:" are ASCII in the trimmed text as well, so
slicing seven bytes off is dropping seven characters. -/
def newCohortExtractor (runes : RuneTables) (spec : String) : Except Message (Option CohortExtractor) :=
  let trimmed := trimSpace spec
  if trimmed = "" then .ok none
  else if runes.equalFold trimmed "ip" then .ok (some .ip)
  else if hasPrefix (runes.lower trimmed) "header:" then
    let name := trimSpace (String.ofList (trimmed.toList.drop 7))
    if name = "" then .error (newError "cohort header key missing") else .ok (some (.header name))
  else .error (newError "unsupported cohort key")

structure Split where
  stableWeight : Int
  canaryWeight : Int
  deriving DecidableEq, Repr

/- A channel of capacity n is its capacity; maxQueue 0 is a nil queue. -/
structure OverloadLimiter where
  maxInflight : Int
  maxQueue : Int
  queueTimeout : Duration
  deriving DecidableEq, Repr

def newOverloadLimiter (maxInflight maxQueue : Int) (queueTimeout : Duration) : Option OverloadLimiter :=
  if maxInflight ≤ 0 then none else some ⟨maxInflight,if 0 < maxQueue then maxQueue else 0,queueTimeout⟩

structure AutoDrain where
  config : PolicyBuild.AutoDrain
  drainedUntil : Int := 0
  running : Bool := true
  deriving DecidableEq, Repr

structure Plan where
  split : Split
  cohort : Option CohortExtractor
  overload : Option OverloadLimiter
  statsWindow : Duration
  autoDrain : Option AutoDrain
  deriving DecidableEq, Repr

namespace Plan

def stop (p : Plan) : Plan := { p with autoDrain := p.autoDrain.map (fun a => { a with running := false }) }

def running (p : Plan) : Bool := p.autoDrain.any AutoDrain.running

@[simp] theorem stopRunning (p : Plan) : p.stop.running = false := by
  cases h : p.autoDrain <;> simp [running,stop,h]

end Plan

def buildPlan (runes : RuneTables) (cfg : Traffic) : Except Message (Option Plan) :=
  if !cfg.enabled then .ok none
  else do
    let cohort ← if cfg.cohort.enabled then newCohortExtractor runes cfg.cohort.key else .ok none
    .ok (some {
      split := ⟨cfg.stableWeight,cfg.canaryWeight⟩
      cohort := cohort
      overload := if cfg.overload.enabled then
          newOverloadLimiter cfg.overload.maxInflight cfg.overload.maxQueue cfg.overload.queueTimeout
        else none
      statsWindow := if cfg.autoDrain.window ≤ 0 then minute else cfg.autoDrain.window
      autoDrain := if cfg.autoDrain.enabled then some { config := cfg.autoDrain } else none })

theorem buildPlanOk {runes : RuneTables} {cfg : Traffic} {p : Plan} (built : buildPlan runes cfg = .ok (some p)) :
    p.split = ⟨cfg.stableWeight,cfg.canaryWeight⟩ ∧
      p.overload = (if cfg.overload.enabled then
        newOverloadLimiter cfg.overload.maxInflight cfg.overload.maxQueue cfg.overload.queueTimeout else none) ∧
      p.autoDrain = if cfg.autoDrain.enabled then some { config := cfg.autoDrain } else none := by
  unfold buildPlan at built
  split at built
  · cases built
  · cases on : cfg.cohort.enabled with
    | false =>
      simp only [on, Bool.false_eq_true, if_false, bind, Except.bind] at built
      cases built
      exact ⟨rfl,rfl,rfl⟩
    | true =>
      cases extracted : newCohortExtractor runes cfg.cohort.key with
      | error e => simp [on,extracted,bind,Except.bind] at built
      | ok extractor =>
        simp only [on, if_true, extracted, bind, Except.bind] at built
        cases built
        exact ⟨rfl,rfl,rfl⟩

theorem buildPlanSome {runes : RuneTables} {cfg : Traffic} (enabled : cfg.enabled = true) : buildPlan runes cfg ≠ .ok none := by
  unfold buildPlan
  rw [enabled]
  cases cfg.cohort.enabled with
  | false => simp [bind,Except.bind]
  | true => cases newCohortExtractor runes cfg.cohort.key <;> simp [bind,Except.bind]

/- `plan` is none for the nil plan of a disabled config. -/
structure Entry where
  config : Traffic
  plan : Option Nat
  lastSeen : Int
  deriving DecidableEq, Repr

structure Registry where
  routes : Map String Entry := Map.empty
  plans : Map Nat Plan := Map.empty
  next : Nat := 0
  ttl : Duration := 5 * minute

namespace Registry

def stopPlan (r : Registry) : Option Nat → Registry
  | none => r
  | some id =>
    match r.plans.get id with
    | none => r
    | some p => { r with plans := r.plans.insert id p.stop }

def store (r : Registry) (routeID : String) (cfg : Traffic) (now : Int) :
    Option Plan → Option Nat × Registry
  | none => (none,{ r with routes := r.routes.insert routeID ⟨cfg,none,now⟩ })
  | some p =>
    (some r.next,{ r with
      routes := r.routes.insert routeID ⟨cfg,some r.next,now⟩
      plans := r.plans.insert r.next p
      next := r.next + 1 })

/- The plan being replaced is stopped before its successor is built, so a build
that fails leaves the entry in place with its loop closed. -/
def replace (r : Registry) (runes : RuneTables) (routeID : String) (cfg : Traffic) (now : Int) :
    Except Message (Option Nat) × Registry :=
  let r := r.stopPlan ((r.routes.get routeID).bind Entry.plan)
  match buildPlan runes cfg with
  | .error e => (.error e,r)
  | .ok p =>
    let (id,r) := r.store routeID cfg now p
    (.ok id,r)

/- sameConfig compares every field of the two configs. -/
def plan (r : Registry) (runes : RuneTables) (routeID : String) (cfg : Traffic) (now : Int) :
    Except Message (Option Nat) × Registry :=
  if routeID = "" then (.error (newError "route id is empty"),r)
  else match r.routes.get routeID with
    | none => r.replace runes routeID cfg now
    | some current =>
      if current.config = cfg then
        (.ok current.plan,{ r with routes := r.routes.insert routeID { current with lastSeen := now } })
      else r.replace runes routeID cfg now

def reapEntry (r : Registry) (now : Int) (routeID : String) : Registry :=
  match r.routes.get routeID with
  | none => r
  | some e =>
    if e.lastSeen < now - r.ttl then
      { r.stopPlan e.plan with routes := (r.stopPlan e.plan).routes.erase routeID }
    else r

/- `order` is the order in which the range visits the routes. -/
def reapOnce (r : Registry) (order : List String) (now : Int) : Registry :=
  order.foldl (fun r routeID => r.reapEntry now routeID) r

def closeEntry (r : Registry) (routeID : String) : Registry := r.stopPlan ((r.routes.get routeID).bind Entry.plan)

def close (r : Registry) (order : List String) : Registry := order.foldl closeEntry r

/- AutoDrain.drainUntil on a plan's controller. -/
def drainUntil (r : Registry) (id : Nat) (now : Int) : Registry :=
  { r with plans := r.plans.adjust id (fun p => { p with autoDrain := p.autoDrain.map (fun a =>
      if a.config.cooloff ≤ 0 then a else { a with drainedUntil := max a.drainedUntil (wrap64 (now + a.config.cooloff)) }) }) }

/- What a config call may not disturb: each route's config and plan, and which
AutoDrain loops run. -/
def assigned (r : Registry) : Map String (Traffic × Option Nat) :=
  r.routes.mapValues (fun e => (e.config,e.plan))

def loops (r : Registry) : Map Nat Bool := r.plans.mapValues Plan.running

end Registry

abbrev Assigned := Map String (Traffic × Option Nat)

def Holds (assigned : Assigned) (routeID : String) (cfg : Traffic) : Prop :=
  routeID ≠ "" ∧ (assigned.get routeID).map (·.1) = some cfg

instance (assigned : Assigned) (routeID : String) (cfg : Traffic) : Decidable (Holds assigned routeID cfg) :=
  inferInstanceAs (Decidable (_ ∧ _))

theorem holdsEmpty {routeID : String} {cfg : Traffic} : ¬Holds Map.empty routeID cfg := by
  rintro ⟨-,config⟩
  cases config

def rejects (runes : RuneTables) (cfg : Traffic) : Bool := (buildPlan runes cfg).toOption.isNone

def loopRuns (assigned : Assigned) (loops : Map Nat Bool) (routeID : String) : Bool :=
  (((assigned.get routeID).bind (·.2)).bind loops.get).getD false

namespace Registry
variable (r : Registry) (runes : RuneTables) (routeID : String) (cfg : Traffic) (now : Int)

theorem assignedGet : r.assigned.get routeID = (r.routes.get routeID).map (fun e => (e.config,e.plan)) := rfl

@[simp] theorem stopPlanAssigned (id : Option Nat) : (r.stopPlan id).assigned = r.assigned := by
  unfold stopPlan
  split
  · rfl
  · split <;> rfl

theorem stopPlanLoops (id : Option Nat) :
    (r.stopPlan id).loops = r.loops ↔ (id.bind r.loops.get).getD false = false := by
  cases id with
  | none => simp [stopPlan]
  | some pid =>
    simp only [stopPlan, Option.bind_some]
    have look : r.loops.get pid = (r.plans.get pid).map Plan.running := rfl
    cases found : r.plans.get pid with
    | none => simp [look,found]
    | some p =>
      have stopped : (⟨r.routes,r.plans.insert pid p.stop,r.next,r.ttl⟩ : Registry).loops =
          r.loops.insert pid false := by
        apply Map.ext
        intro x
        simp only [loops, Map.getMapValues, Map.getInsert]
        split <;> simp
      rw [look, found]
      change (⟨r.routes,r.plans.insert pid p.stop,r.next,r.ttl⟩ : Registry).loops = _ ↔ _
      rw [stopped, Map.insertSameValue, look, found]
      simp

theorem planHolds (live : Holds r.assigned routeID cfg) :
    ∃ id t, r.plan runes routeID cfg now = (.ok id,t) ∧ t.assigned = r.assigned ∧ t.loops = r.loops := by
  obtain ⟨named,config⟩ := live
  rw [assignedGet] at config
  cases found : r.routes.get routeID with
  | none => simp [found] at config
  | some e =>
    have same : e.config = cfg := by simpa [found] using config
    refine ⟨e.plan,{ r with routes := r.routes.insert routeID { e with lastSeen := now } },?_,?_,rfl⟩
    · rw [plan, if_neg named, found]
      exact if_pos same
    · apply Map.ext
      intro x
      simp only [assigned, Map.getMapValues, Map.getInsert]
      split
      · rename_i eq
        rw [eq, found]
        rfl
      · rfl

theorem planUnnamed (unnamed : routeID = "") :
    r.plan runes routeID cfg now = (.error (newError "route id is empty"),r) := if_pos unnamed

theorem planReplaces (named : routeID ≠ "") (other : ¬Holds r.assigned routeID cfg) :
    r.plan runes routeID cfg now = r.replace runes routeID cfg now := by
  rw [plan, if_neg named]
  cases found : r.routes.get routeID with
  | none => rfl
  | some e =>
    have different : e.config ≠ cfg := by
      intro same
      exact other ⟨named,by rw [assignedGet, found]; exact congrArg some same⟩
    exact if_neg different

theorem replaceRejected (bad : rejects runes cfg = true) :
    ∃ e, r.replace runes routeID cfg now = (.error e,r.stopPlan ((r.routes.get routeID).bind Entry.plan)) := by
  unfold replace
  unfold rejects at bad
  cases built : buildPlan runes cfg with
  | error e => exact ⟨e,rfl⟩
  | ok p => simp [built,Except.toOption] at bad

theorem replaceStored (good : rejects runes cfg = false) :
    ∃ id t, r.replace runes routeID cfg now = (.ok id,t) ∧ t.assigned = r.assigned.insert routeID (cfg,id) := by
  unfold replace
  unfold rejects at good
  cases built : buildPlan runes cfg with
  | error e => simp [built,Except.toOption] at good
  | ok p =>
    refine ⟨_,_,rfl,?_⟩
    apply Map.ext
    intro x
    have kept := congrFun (stopPlanAssigned r ((r.routes.get routeID).bind Entry.plan)) x
    cases p <;> simp only [assigned, Map.getMapValues, Map.getInsert] <;> split <;>
      first | rfl | exact kept

end Registry

section
variable {r : Registry}

theorem stopPlanGet (id : Option Nat) (p : Nat) :
    (r.stopPlan id).plans.get p = if id = some p then (r.plans.get p).map Plan.stop else r.plans.get p := by
  cases id with
  | none => rfl
  | some q =>
    by_cases own : q = p
    · subst own
      cases found : r.plans.get q with
      | none => simp [Registry.stopPlan,found]
      | some plan => simp [Registry.stopPlan,found]
    · cases found : r.plans.get q with
      | none => simp [Registry.stopPlan,found,own]
      | some plan => simp [Registry.stopPlan,found,own,Map.getInsert,Ne.symm own]

theorem stopPlanRoutes (id : Option Nat) : (r.stopPlan id).routes = r.routes := by
  unfold Registry.stopPlan
  split
  · rfl
  · split <;> rfl

theorem stopPlanNext (id : Option Nat) : (r.stopPlan id).next = r.next := by
  unfold Registry.stopPlan
  split
  · rfl
  · split <;> rfl

theorem stopPlanTtl (id : Option Nat) : (r.stopPlan id).ttl = r.ttl := by
  unfold Registry.stopPlan
  split
  · rfl
  · split <;> rfl

theorem closeRoutes (order : List String) : (r.close order).routes = r.routes := by
  unfold Registry.close
  induction order generalizing r with
  | nil => rfl
  | cons routeID rest ih => rw [List.foldl_cons, ih, Registry.closeEntry, stopPlanRoutes]

theorem closeGet {order : List String} {id : Nat} {p : Plan} (found : (r.close order).plans.get id = some p) :
    (r.plans.get id = some p ∧ ∀ routeID ∈ order, (r.routes.get routeID).bind Entry.plan ≠ some id) ∨ p.running = false := by
  unfold Registry.close at found
  induction order generalizing r with
  | nil => exact .inl ⟨found,by simp⟩
  | cons routeID rest ih =>
    rcases ih found with ⟨there,apart⟩ | stopped
    · rw [Registry.closeEntry, stopPlanGet] at there
      rw [Registry.closeEntry, stopPlanRoutes] at apart
      split at there
      · obtain ⟨q,-,rfl⟩ := Option.map_eq_some_iff.mp there
        exact .inr q.stopRunning
      · rename_i other
        refine .inl ⟨there,fun visited inside => ?_⟩
        rcases List.mem_cons.mp inside with rfl | later
        · exact other
        · exact apart visited later
    · exact .inr stopped

theorem reapEntryCases (r : Registry) (now : Int) (routeID : String) :
    r.reapEntry now routeID = r ∨ ∃ e, r.routes.get routeID = some e ∧ e.lastSeen < now - r.ttl ∧
      r.reapEntry now routeID = { r.stopPlan e.plan with routes := r.routes.erase routeID } := by
  unfold Registry.reapEntry
  split
  · exact .inl rfl
  · rename_i e found
    split
    · rename_i old
      exact .inr ⟨e,found,old,by rw [stopPlanRoutes]⟩
    · exact .inl rfl

end

end ReverseProxy.TrafficRegistry
