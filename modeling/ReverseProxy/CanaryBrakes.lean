import ReverseProxy.PlanPointers

/-! The AutoDrain loops of the live configuration. A plan belongs to the traffic
registry and is used by snapshots; which steps of the process can close the loop of a
plan that the current snapshot uses. -/
namespace ReverseProxy.CanaryBrakes
open GoValues FiniteMap ConfigData SnapshotBuild SnapshotStore Deployments
open PlanPointers (Assigns workerAssigns movesFrom)
open TrafficRegistry (Registry Entry Plan buildPlan rejects stopPlanGet stopPlanRoutes stopPlanNext stopPlanTtl reapEntryCases)
open ApplyManager (CompileResult)
open ControlPlane (Worker)
open Transition (Runs anyStep runAll runAllRuns)

def hasBrake (r : Registry) (p : Nat) : Bool := (r.plans.get p).any (fun plan => plan.autoDrain.isSome)

def On (r : Registry) (p : Nat) : Prop := ∃ plan, r.plans.get p = some plan ∧ ∀ d, plan.autoDrain = some d → d.running = true

section
variable {r : Registry}

theorem On.here {p : Nat} (on : On r p) : (r.plans.get p).isSome = true := by
  obtain ⟨plan,found,-⟩ := on
  rw [found]
  rfl

theorem onUnbraked {p : Nat} (here : (r.plans.get p).isSome = true) (none : hasBrake r p = false) : On r p := by
  obtain ⟨plan,found⟩ := Option.isSome_iff_exists.mp here
  refine ⟨plan,found,?_⟩
  intro d brake
  simp [hasBrake,found,brake] at none

theorem stopPlanHas (id : Option Nat) (p : Nat) : hasBrake (r.stopPlan id) p = hasBrake r p := by
  unfold hasBrake
  rw [stopPlanGet]
  split
  · cases r.plans.get p with
    | none => rfl
    | some plan => exact Option.isSome_map
  · rfl

theorem stopPlanHere (id : Option Nat) (p : Nat) : ((r.stopPlan id).plans.get p).isSome = (r.plans.get p).isSome := by
  rw [stopPlanGet]
  split
  · exact Option.isSome_map
  · rfl

theorem stopPlanOn {id : Option Nat} {p : Nat} (on : On r p) (other : id = some p → hasBrake r p = false) :
    On (r.stopPlan id) p := by
  by_cases own : id = some p
  · exact onUnbraked ((stopPlanHere id p).trans on.here) ((stopPlanHas id p).trans (other own))
  · obtain ⟨plan,found,runs⟩ := on
    exact ⟨plan,by rw [stopPlanGet, if_neg own, found],runs⟩

structure Kept (r : Registry) : Prop where
  fresh : ∀ id e p, r.routes.get id = some e → e.plan = some p → p < r.next
  unique : ∀ id e id' e' p, r.routes.get id = some e → e.plan = some p → r.routes.get id' = some e' → e'.plan = some p → id = id'
  on : ∀ id e p, r.routes.get id = some e → e.plan = some p → On r p

theorem buildPlanRuns {runes : RuneTables} {cfg : PolicyBuild.Traffic} {plan : Plan} (built : buildPlan runes cfg = .ok (some plan))
    {d : TrafficRegistry.AutoDrain} (drains : plan.autoDrain = some d) : d.running = true := by
  rw [(TrafficRegistry.buildPlanOk built).2.2] at drains
  split at drains
  · cases drains
    rfl
  · cases drains

theorem storeOn {routeID : String} {cfg : PolicyBuild.Traffic} {now : Int} {built : Option Plan} {p : Nat} (on : On r p)
    (runs : ∀ plan d, built = some plan → plan.autoDrain = some d → d.running = true) :
    On (r.store routeID cfg now built).2 p := by
  cases built with
  | none => exact on
  | some new =>
    by_cases own : p = r.next
    · exact ⟨new,by rw [own]; exact Map.getInsertSame _ _ _,fun d => runs new d rfl⟩
    · obtain ⟨plan,found,stays⟩ := on
      exact ⟨plan,(Map.getInsertOther _ _ own).trans found,stays⟩

theorem storeHere (routeID : String) (cfg : PolicyBuild.Traffic) (now : Int) (built : Option Plan) {p : Nat}
    (here : (r.plans.get p).isSome = true) : ((r.store routeID cfg now built).2.plans.get p).isSome = true := by
  cases built with
  | none => exact here
  | some new =>
    simp only [Registry.store, Map.getInsert]
    split
    · rfl
    · exact here

theorem Kept.replace (kept : Kept r) {runes : RuneTables} {routeID : String} {cfg : PolicyBuild.Traffic} (now : Int)
    (good : rejects runes cfg = false) :
    Kept (r.replace runes routeID cfg now).2 ∧
      (∀ p, (r.replace runes routeID cfg now).1 = .ok (some p) → On (r.replace runes routeID cfg now).2 p) ∧
      ∀ p, On r p → ((r.routes.get routeID).bind Entry.plan = some p → hasBrake r p = false) →
        On (r.replace runes routeID cfg now).2 p := by
  unfold Registry.replace
  generalize owned : (r.routes.get routeID).bind Entry.plan = old
  cases built : buildPlan runes cfg with
  | error e => simp [rejects,built,Except.toOption] at good
  | ok plan =>
    have runs : ∀ new d, plan = some new → new.autoDrain = some d → d.running = true := by
      rintro new d rfl drains
      exact buildPlanRuns built drains
    have others {p : Nat} (on : On r p) (spared : old = some p → hasBrake r p = false) :
        On ((r.stopPlan old).store routeID cfg now plan).2 p := storeOn (stopPlanOn on spared) runs
    have routes : ((r.stopPlan old).store routeID cfg now plan).2.routes =
        r.routes.insert routeID ⟨cfg,((r.stopPlan old).store routeID cfg now plan).1,now⟩ := by
      cases plan <;> simp [Registry.store,stopPlanRoutes]
    have answer {p : Nat} (is : ((r.stopPlan old).store routeID cfg now plan).1 = some p) :
        p = r.next ∧ ((r.stopPlan old).store routeID cfg now plan).2.next = r.next + 1 ∧
          On ((r.stopPlan old).store routeID cfg now plan).2 p := by
      cases plan with
      | none => cases is
      | some new =>
        cases Option.some.inj is
        refine ⟨stopPlanNext old,by simp [Registry.store,stopPlanNext],?_⟩
        exact ⟨new,Map.getInsertSame _ _ _,fun d => runs new d rfl⟩
    have grown : r.next ≤ ((r.stopPlan old).store routeID cfg now plan).2.next := by
      cases plan <;> simp [Registry.store,stopPlanNext]
    have entry {id : String} {e : Entry} (found : ((r.stopPlan old).store routeID cfg now plan).2.routes.get id = some e) :
        (id = routeID ∧ e.plan = ((r.stopPlan old).store routeID cfg now plan).1) ∨ (id ≠ routeID ∧ r.routes.get id = some e) := by
      rw [routes, Map.getInsert] at found
      split at found
      · rename_i same
        cases Option.some.inj found
        exact .inl ⟨same,rfl⟩
      · exact .inr ⟨by assumption,found⟩
    refine ⟨⟨?_,?_,?_⟩,fun p is => (answer (Except.ok.inj is)).2.2,fun p => others⟩
    · intro id e p found plan
      rcases entry found with ⟨-,is⟩ | ⟨-,old⟩
      · obtain ⟨rfl,next,-⟩ := answer (is.symm.trans plan)
        exact Nat.lt_of_lt_of_eq (Nat.lt_succ_self r.next) next.symm
      · exact Nat.lt_of_lt_of_le (kept.fresh id e p old plan) grown
    · intro id e id' e' p found plan found' plan'
      rcases entry found with ⟨rfl,is⟩ | ⟨-,old⟩
      · rcases entry found' with ⟨rfl,-⟩ | ⟨-,old⟩
        · rfl
        · have below := kept.fresh id' e' p old plan'
          have new := (answer (is.symm.trans plan)).1
          omega
      · rcases entry found' with ⟨rfl,is⟩ | ⟨-,old'⟩
        · have below := kept.fresh id e p old plan
          have new := (answer (is.symm.trans plan')).1
          omega
        · exact kept.unique id e id' e' p old plan old' plan'
    · intro id e p found plan
      rcases entry found with ⟨-,is⟩ | ⟨different,there⟩
      · exact (answer (is.symm.trans plan)).2.2
      · refine others (kept.on id e p there plan) ?_
        intro shared
        rw [← owned] at shared
        obtain ⟨e',found',plan'⟩ := Option.bind_eq_some_iff.mp shared
        exact absurd (kept.unique id e routeID e' p there plan found' plan') different

structure Holds (needed : Nat → Prop) (r r' : Registry) : Prop where
  kept : Kept r'
  on : ∀ p, needed p → On r p → On r' p
  here : ∀ p, (r.plans.get p).isSome = true → (r'.plans.get p).isSome = true

theorem Kept.unchanged (kept : Kept r) (needed : Nat → Prop) : Holds needed r r :=
  ⟨kept,fun _ _ on => on,fun _ here => here⟩

def SparesPlan (runes : RuneTables) (needed : Nat → Prop) (r : Registry) (routeID : String) (cfg : PolicyBuild.Traffic) : Prop :=
  ∀ e, r.routes.get routeID = some e → e.config ≠ cfg →
    rejects runes cfg = false ∧ ∀ p, e.plan = some p → hasBrake r p = true → ¬needed p

def SparesReap (needed : Nat → Prop) (r : Registry) (order : List String) (now : Int) : Prop :=
  ∀ routeID ∈ order, ∀ e, r.routes.get routeID = some e → e.lastSeen < now - r.ttl →
    ∀ p, e.plan = some p → hasBrake r p = true → ¬needed p

theorem Kept.refresh (kept : Kept r) {routeID : String} {e e' : Entry} (found : r.routes.get routeID = some e)
    (same : e'.plan = e.plan) : Kept { r with routes := r.routes.insert routeID e' } := by
  have entry {id : String} {x : Entry} (there : (r.routes.insert routeID e').get id = some x) :
      ∃ y, r.routes.get id = some y ∧ y.plan = x.plan := by
    rw [Map.getInsert] at there
    split at there
    · rename_i here
      cases Option.some.inj there
      exact ⟨e,here ▸ found,same.symm⟩
    · exact ⟨x,there,rfl⟩
  refine ⟨?_,?_,?_⟩
  · intro id x p there plan
    obtain ⟨y,old,is⟩ := entry there
    exact kept.fresh id y p old (is.trans plan)
  · intro id x id' x' p there plan there' plan'
    obtain ⟨y,old,is⟩ := entry there
    obtain ⟨y',old',is'⟩ := entry there'
    exact kept.unique id y id' y' p old (is.trans plan) old' (is'.trans plan')
  · intro id x p there plan
    obtain ⟨y,old,is⟩ := entry there
    exact kept.on id y p old (is.trans plan)

theorem replaceHere (runes : RuneTables) (routeID : String) (cfg : PolicyBuild.Traffic) (now : Int) {p : Nat}
    (here : (r.plans.get p).isSome = true) : ((r.replace runes routeID cfg now).2.plans.get p).isSome = true := by
  unfold Registry.replace
  generalize (r.routes.get routeID).bind Entry.plan = old
  cases buildPlan runes cfg with
  | error e => exact (stopPlanHere old p).trans here
  | ok plan => exact storeHere routeID cfg now plan ((stopPlanHere old p).trans here)

theorem Kept.plan (kept : Kept r) {runes : RuneTables} {needed : Nat → Prop} {routeID : String} {cfg : PolicyBuild.Traffic}
    (now : Int) (spares : SparesPlan runes needed r routeID cfg) :
    Holds needed r (r.plan runes routeID cfg now).2 ∧
      ∀ p, (r.plan runes routeID cfg now).1 = .ok (some p) → On (r.plan runes routeID cfg now).2 p := by
  unfold Registry.plan
  split
  · exact ⟨kept.unchanged needed,by simp⟩
  · split
    · rename_i absent
      cases good : rejects runes cfg with
      | true =>
        obtain ⟨e,failed⟩ := Registry.replaceRejected r runes routeID cfg now good
        rw [failed,absent]
        exact ⟨kept.unchanged needed,by simp⟩
      | false =>
        obtain ⟨after,answer,others⟩ := kept.replace now good
        exact ⟨⟨after,fun p _ on => others p on (by simp [absent]),fun p => replaceHere runes routeID cfg now⟩,answer⟩
    · rename_i e found
      split
      · refine ⟨⟨kept.refresh found rfl,fun _ _ on => on,fun _ here => here⟩,?_⟩
        intro p is
        exact kept.on routeID e p found (Except.ok.inj is)
      · rename_i different
        obtain ⟨good,free⟩ := spares e found different
        obtain ⟨after,answer,others⟩ := kept.replace now good
        refine ⟨⟨after,fun p need on => others p on ?_,fun p => replaceHere runes routeID cfg now⟩,answer⟩
        intro owns
        rw [found] at owns
        cases brake : hasBrake r p with
        | false => rfl
        | true => exact absurd need (free p owns brake)

theorem Kept.reapEntry (kept : Kept r) {needed : Nat → Prop} {routeID : String} {now : Int}
    (spares : SparesReap needed r [routeID] now) : Holds needed r (r.reapEntry now routeID) := by
  rcases reapEntryCases r now routeID with same | ⟨e,found,old,goes⟩
  · rw [same]
    exact kept.unchanged needed
  · rw [goes]
    have entry {id : String} {x : Entry} (there : (r.routes.erase routeID).get id = some x) :
        id ≠ routeID ∧ r.routes.get id = some x := by
      rw [Map.getErase] at there
      split at there
      · cases there
      · exact ⟨by assumption,there⟩
    refine ⟨⟨?_,?_,?_⟩,?_,fun p here => (stopPlanHere e.plan p).trans here⟩
    · intro id x p there plan
      exact Nat.lt_of_lt_of_eq (kept.fresh id x p (entry there).2 plan) (stopPlanNext e.plan).symm
    · intro id x id' x' p there plan there' plan'
      exact kept.unique id x id' x' p (entry there).2 plan (entry there').2 plan'
    · intro id x p there plan
      obtain ⟨different,stays⟩ := entry there
      refine stopPlanOn (kept.on id x p stays plan) ?_
      intro owns
      exact absurd (kept.unique id x routeID e p stays plan found owns) different
    · intro p need on
      refine stopPlanOn on ?_
      intro owns
      cases brake : hasBrake r p with
      | false => rfl
      | true => exact absurd need (spares routeID List.mem_cons_self e found old p owns brake)

theorem Kept.reapOnce (kept : Kept r) {needed : Nat → Prop} {order : List String} {now : Int}
    (spares : SparesReap needed r order now) : Holds needed r (r.reapOnce order now) := by
  induction order generalizing r with
  | nil => exact kept.unchanged needed
  | cons routeID rest ih =>
    have first : Holds needed r (r.reapEntry now routeID) :=
      kept.reapEntry fun id only => spares id (List.mem_singleton.mp only ▸ List.mem_cons_self)
    -- an entry that is still there after this turn was there before it
    have later : SparesReap needed (r.reapEntry now routeID) rest now := by
      intro id inside e there old p owns brake
      rcases reapEntryCases r now routeID with same | ⟨x,-,-,goes⟩
      · rw [same] at there old brake
        exact spares id (List.mem_cons_of_mem _ inside) e there old p owns brake
      · rw [goes] at there old brake
        rw [Map.getErase] at there
        split at there
        · cases there
        · refine spares id (List.mem_cons_of_mem _ inside) e there ?_ p owns ?_
          · rw [← stopPlanTtl x.plan]
            exact old
          · rw [← stopPlanHas x.plan]
            exact brake
    have rest := ih first.kept later
    exact ⟨rest.kept,fun p need on => rest.on p need (first.on p need on),fun p here => rest.here p (first.here p here)⟩

theorem drainOn {p : Nat} (on : On r p) (plan : Nat) (now : Int) : On (r.drainUntil plan now) p := by
  obtain ⟨old,there,runs⟩ := on
  unfold On
  simp only [Registry.drainUntil, Map.getAdjust]
  split
  · refine ⟨_,by rw [there]; rfl,?_⟩
    intro d drains
    obtain ⟨a,was,rfl⟩ := Option.map_eq_some_iff.mp drains
    have before := runs a was
    split <;> exact before
  · exact ⟨old,there,runs⟩

theorem Kept.drainUntil (kept : Kept r) (needed : Nat → Prop) (plan : Nat) (now : Int) :
    Holds needed r (r.drainUntil plan now) := by
  refine ⟨⟨kept.fresh,kept.unique,?_⟩,?_,?_⟩
  · intro id e p found owns
    exact drainOn (kept.on id e p found owns) plan now
  · intro p _ on
    exact drainOn on plan now
  · intro p here
    simpa [Registry.drainUntil] using here

end

def plansOf (compiled : Compiled) : List Nat := compiled.routes.filterMap CompiledRoute.trafficPlan

def givenPlans (replies : List Reply) : List Nat := replies.flatten.filterMap (·.2)

def workerPlans : Worker → List Nat
  | .calling _ _ replies => givenPlans replies
  | .finished (.ok r) => plansOf r.compiled
  | _ => []

def Uses (v : View) (p : Nat) : Prop := ∃ snapshot, v.current = some snapshot ∧ p ∈ plansOf snapshot.compiled

def Needed (s : State) (p : Nat) : Prop := Uses (view s) p ∨ ∃ w, Awaits s w ∧ p ∈ workerPlans w

/- A Plan call or a reaper's tick spares the needed plans, and a rollback puts back a
snapshot whose AutoDrain plans the registry still has. -/
def Spares (platform : Platform) (rm : Rollout.Manager) (s : State) (a : Action) : Prop :=
  match effect platform rm s a with
  | .plan routeID cfg _ => SparesPlan platform.runes (Needed s) (traffic s) routeID cfg
  | .reapTraffic order now => SparesReap (Needed s) (traffic s) order now
  | .putBack snapshot _ => ∀ p ∈ plansOf snapshot.compiled, hasBrake (traffic s) p = true →
      ∃ id e, (traffic s).routes.get id = some e ∧ e.plan = some p
  | _ => True

structure Braked (s : State) : Prop where
  kept : Kept (traffic s)
  on : ∀ p, Needed s p → On (traffic s) p
  here : ∀ snapshot origin, Remembers s snapshot origin →
    ∀ p ∈ plansOf snapshot.compiled, ((traffic s).plans.get p).isSome = true

theorem workerPlansAssigned {w : Worker} {p : Nat} : p ∈ workerPlans w ↔ ∃ id, workerAssigns w id p := by
  cases w with
  | finished result =>
    cases result with
    | error e => simp [workerPlans,workerAssigns]
    | ok r =>
      simp only [workerPlans, plansOf, List.mem_filterMap, workerAssigns, Assigns]
      constructor
      · rintro ⟨route,listed,plan⟩
        exact ⟨route.id,route,listed,rfl,plan⟩
      · rintro ⟨id,route,listed,-,plan⟩
        exact ⟨route,listed,plan⟩
  | calling script made replies =>
    simp only [workerPlans, givenPlans, List.mem_filterMap, workerAssigns]
    constructor
    · rintro ⟨⟨id,plan⟩,listed,rfl⟩
      exact ⟨id,listed⟩
    · rintro ⟨id,listed⟩
      exact ⟨_,listed,rfl⟩
  | _ => simp [workerPlans,workerAssigns]

section
variable {platform : Platform} {rm : Rollout.Manager} {m : ApplyManager.Manager} {s s' : State} {a : Action}

theorem trafficHolds (start : Braked s) (spares : Spares platform rm s a)
    (seen : view s' = after platform.runes (view s) (effect platform rm s a)) : Holds (Needed s) (traffic s) (traffic s') := by
  have same := congrArg View.traffic seen
  change traffic s' = _ at same
  have unchanged := start.kept.unchanged (Needed s)
  unfold Spares at spares
  rw [same]
  cases done : effect platform rm s a with
  | plan routeID cfg now =>
    rw [done] at spares
    exact (start.kept.plan now spares).1
  | reapTraffic order now =>
    rw [done] at spares
    exact start.kept.reapOnce spares
  | drainUntil plan now => exact start.kept.drainUntil (Needed s) plan now
  | _ => exact unchanged

theorem usesOn (start : Braked s) (spares : Spares platform rm s a) (went : Advances platform s s' (effect platform rm s a))
    {p : Nat} (uses : Uses (view s') p) : On (traffic s') p := by
  have holds := trafficHolds start spares went.view
  have before (need : Needed s p) : On (traffic s') p := holds.on p need (start.on p need)
  obtain ⟨snapshot,current,inside⟩ := uses
  cases went.installs with
  | kept same => exact before (.inl ⟨snapshot,same.symm.trans current,inside⟩)
  | @published next r awaited now compiled =>
    cases Option.some.inj (now.symm.trans current)
    rw [compiled] at inside
    exact before (.inr ⟨_,awaited,inside⟩)
  | @putBack previous origin back now _ same =>
    cases Option.some.inj (now.symm.trans current)
    unfold Spares at spares
    rw [back] at spares
    rw [same]
    cases brake : hasBrake (traffic s) p with
    | false => exact onUnbraked (start.here snapshot origin (putBackRemembered back) p inside) brake
    | true =>
      obtain ⟨id,e,found,owns⟩ := spares p inside brake
      exact start.kept.on id e p found owns

theorem movesOn (start : Braked s) (spares : Spares platform rm s a) (went : Advances platform s s' (effect platform rm s a))
    {w : Worker} (moves : Moves platform s (effect platform rm s a) w) {p : Nat} (inside : p ∈ workerPlans w) :
    On (traffic s') p := by
  obtain ⟨id,assigns⟩ := workerPlansAssigned.mp inside
  rcases movesFrom moves assigns with ⟨w,awaited,given⟩ | ⟨cfg,now,plans,answer⟩
  · have need : Needed s p := .inr ⟨w,awaited,workerPlansAssigned.mpr ⟨id,given⟩⟩
    exact (trafficHolds start spares went.view).on p need (start.on p need)
  · have seen : traffic s' = _ := congrArg View.traffic went.view
    unfold Spares at spares
    rw [plans] at spares seen
    rw [seen]
    exact (start.kept.plan now spares).2 p answer

theorem brakedStep (start : Braked s) (spares : Spares platform rm s a) (taken : step platform rm m s a = some s') :
    Braked s' := by
  have went := advances taken
  have holds := trafficHolds start spares went.view
  refine ⟨holds.kept,?_,?_⟩
  · rintro p (uses | ⟨w,awaits,inside⟩)
    · exact usesOn start spares went uses
    · rcases went.workers w awaits with before | moves
      · have need : Needed s p := .inr ⟨w,before,inside⟩
        exact holds.on p need (start.on p need)
      · exact movesOn start spares went moves inside
  · intro snapshot origin now p inside
    refine holds.here p ?_
    rcases remembered taken now with before | ⟨current,-⟩
    · exact start.here snapshot origin before p inside
    · exact (start.on p (.inl ⟨snapshot,current,inside⟩)).here

theorem brakedEmpty : Braked {} := by
  refine ⟨⟨?_,?_,?_⟩,?_,fun snapshot origin now => absurd now remembersEmpty⟩
  · intro id e p found
    cases found
  · intro id e id' e' p found
    cases found
  · intro id e p found
    cases found
  · rintro p (⟨snapshot,current,-⟩ | ⟨w,awaits,-⟩)
    · cases current
    · exact absurd awaits awaitsEmpty

end

/- Every traffic plan of the current snapshot is there, and runs its AutoDrain loop. -/
def BrakesOn (s : State) : Prop :=
  ∀ snapshot, s.plane.live.store.current = some snapshot → ∀ r ∈ snapshot.compiled.routes, ∀ p, r.trafficPlan = some p →
    ∃ plan, (traffic s).plans.get p = some plan ∧ ∀ d, plan.autoDrain = some d → d.running = true

theorem brakesStayOn {platform : Platform} {rm : Rollout.Manager} {m : ApplyManager.Manager} {as : List Action} {s : State}
    (run : Runs (step platform rm m) (Spares platform rm) {} as s) : BrakesOn s := by
  have braked := run.preserve Braked (fun _ _ _ start spares taken => brakedStep start spares taken) brakedEmpty
  intro snapshot current r inside p plan
  exact braked.on p (.inl ⟨snapshot,current,List.mem_filterMap.mpr ⟨r,inside,plan⟩⟩)

def canaryRoute : Route :=
  { id := "r", host := "h", pathPrefix := "/", pool := "p", policy := { traffic := {
      enabled := true, stablePool := "p", canaryPool := "c", stableWeight := 90, canaryWeight := 10
      autoDrain := ⟨true,10000,20,2,60000⟩ } } }

theorem twoPools : ["p","c"].Nodup := by decide

def canaried : Config :=
  { routes := some [canaryRoute]
    pools := ⟨[("p",{ endpoints := some ["10.0.0.1:80"] }),("c",{ endpoints := some ["10.0.0.2:80"] })],twoPools⟩ }

theorem reaperReleasesBrake :
    ∃ as s, Runs (step (Rollout.codec canaried) {} {}) anyStep {} as s ∧ ¬BrakesOn s := by
  obtain ⟨s,ran,snapshot,r,p,plan,d,current,inside,points,found,drains,closed⟩ :
      ∃ s, runAll (step (Rollout.codec canaried) {} {}) anyStep {}
          (locksDown 6 ++ opensUp 6 ++ [.reapTraffic ["r"] (6 * minute)]) = some s ∧
      ∃ snapshot r p plan d, s.plane.live.store.current = some snapshot ∧ r ∈ snapshot.compiled.routes ∧
        r.trafficPlan = some p ∧ (traffic s).plans.get p = some plan ∧ plan.autoDrain = some d ∧ d.running = false :=
    ⟨_,rfl,_,_,_,_,_,rfl,List.mem_cons_self,rfl,rfl,rfl,rfl⟩
  refine ⟨_,s,runAllRuns ran,?_⟩
  intro on
  obtain ⟨plan',found',runs⟩ := on snapshot current r inside p points
  cases Option.some.inj (found.symm.trans found')
  rw [runs d drains] at closed
  cases closed

def gentle (platform : Platform) (rm : Rollout.Manager) (s : State) (a : Action) : Bool :=
  match effect platform rm s a with
  | .plan routeID cfg _ => ((traffic s).routes.get routeID).all (fun e => decide (e.config = cfg))
  | .reapTraffic order now => order.all (fun id =>
      ((traffic s).routes.get id).all (fun e => decide (now - (traffic s).ttl ≤ e.lastSeen)))
  | .putBack _ _ => false
  | _ => true

theorem gentleSpares (platform : Platform) (rm : Rollout.Manager) (s : State) (a : Action)
    (is : gentle platform rm s a = true) : Spares platform rm s a := by
  unfold gentle at is
  unfold Spares
  cases done : effect platform rm s a with
  | plan routeID cfg now =>
    simp only [done] at is
    intro e found different
    rw [found] at is
    exact absurd (of_decide_eq_true is) different
  | reapTraffic order now =>
    rw [done] at is
    intro id inside e found old
    have young := List.all_eq_true.mp is id inside
    rw [found] at young
    exact absurd (of_decide_eq_true young) (Int.not_le.mpr old)
  | putBack snapshot origin =>
    rw [done] at is
    cases is
  | _ => trivial

theorem earlyTickKeepsBrake :
    ∃ as s, Runs (step (Rollout.codec canaried) {} {}) (Spares (Rollout.codec canaried) {}) {} as s ∧
      (∃ snapshot r p, s.plane.live.store.current = some snapshot ∧ r ∈ snapshot.compiled.routes ∧ r.trafficPlan = some p ∧
        hasBrake (traffic s) p = true) ∧ BrakesOn s := by
  obtain ⟨s,ran,braked⟩ :
      ∃ s, runAll (step (Rollout.codec canaried) {} {}) (gentle (Rollout.codec canaried) {} · · = true) {}
          (locksDown 6 ++ [.reapTraffic ["r"] minute]) = some s ∧
        ∃ snapshot r p, s.plane.live.store.current = some snapshot ∧ r ∈ snapshot.compiled.routes ∧ r.trafficPlan = some p ∧
          hasBrake (traffic s) p = true :=
    ⟨_,rfl,_,_,_,rfl,List.mem_cons_self,rfl,rfl⟩
  have run := (runAllRuns ran).weaken (gentleSpares (Rollout.codec canaried) {})
  exact ⟨_,s,run,braked,brakesStayOn run⟩

end ReverseProxy.CanaryBrakes
