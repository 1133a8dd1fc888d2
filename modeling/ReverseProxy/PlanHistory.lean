import ReverseProxy.RegistryEffect

/-! A traffic registry over its life. Whatever is done to it, each entry's config is
one that builds, its plan is the one built from that config up to its AutoDrain
state, and a plan once handed out keeps its settings. So whether a
build can have its plans does not depend on what the registry has been through. -/
namespace ReverseProxy.PlanHistory
open GoValues FiniteMap CallScript PolicyBuild SnapshotBuild RegistryEffect
open TrafficRegistry (Registry Entry Plan Split CohortExtractor OverloadLimiter Holds buildPlan rejects stopPlanGet
  stopPlanRoutes stopPlanNext closeGet reapEntryCases)

/- What a plan keeps for as long as it lives. -/
structure Settings where
  split : Split
  cohort : Option CohortExtractor
  overload : Option OverloadLimiter
  statsWindow : Duration
  autoDrain : Option PolicyBuild.AutoDrain
  deriving DecidableEq, Repr

def settings (p : Plan) : Settings := ⟨p.split,p.cohort,p.overload,p.statsWindow,p.autoDrain.map (·.config)⟩

theorem settingsDrain (p : Plan) {change : TrafficRegistry.AutoDrain → TrafficRegistry.AutoDrain}
    (same : ∀ a, (change a).config = a.config) : settings { p with autoDrain := p.autoDrain.map change } = settings p := by
  cases drain : p.autoDrain <;> simp [settings,drain,same]

def Persists (r t : Registry) : Prop := ∀ id p, r.plans.get id = some p → ∃ q, t.plans.get id = some q ∧ settings q = settings p

theorem Persists.refl (r : Registry) : Persists r r := fun _ p found => ⟨p,found,rfl⟩

theorem Persists.trans {r s t : Registry} (first : Persists r s) (second : Persists s t) : Persists r t := by
  intro id p found
  obtain ⟨q,there,same⟩ := first id p found
  obtain ⟨q',there',same'⟩ := second id q there
  exact ⟨q',there',same'.trans same⟩

def Stands (r : Registry) : Option Nat → Option Plan → Prop
  | none,none => True
  | some id,some p => ∃ q, r.plans.get id = some q ∧ settings q = settings p
  | _,_ => False

theorem Stands.persists {r t : Registry} {id : Option Nat} {p : Option Plan} (stands : Stands r id p) (kept : Persists r t) :
    Stands t id p := by
  cases id <;> cases p <;> try exact stands
  obtain ⟨q,found,same⟩ := stands
  obtain ⟨q',there,same'⟩ := kept _ q found
  exact ⟨q',there,same'.trans same⟩

structure Grounded (runes : RuneTables) (r : Registry) : Prop where
  fresh : ∀ id p, r.plans.get id = some p → id < r.next
  built : ∀ routeID e, r.routes.get routeID = some e → ∃ made, buildPlan runes e.config = .ok made ∧ Stands r e.plan made

theorem groundedNew (runes : RuneTables) (ttl : Duration) : Grounded runes { ttl := ttl } := by
  constructor
  · intro id p found
    cases found
  · intro routeID e found
    cases found

structure Continues (runes : RuneTables) (r t : Registry) : Prop where
  grounded : Grounded runes t
  persists : Persists r t

section
variable {runes : RuneTables} {r t : Registry}

theorem Continues.refl (start : Grounded runes r) : Continues runes r r := ⟨start,.refl r⟩

theorem Continues.trans {s : Registry} (first : Continues runes r s) (second : Continues runes s t) : Continues runes r t :=
  ⟨second.grounded,first.persists.trans second.persists⟩

theorem Grounded.continue (start : Grounded runes r) (next : t.next = r.next) (persists : Persists r t)
    (known : ∀ id, (t.plans.get id).isSome = true → (r.plans.get id).isSome = true)
    (entries : ∀ routeID e, t.routes.get routeID = some e →
      ∃ e', r.routes.get routeID = some e' ∧ e'.config = e.config ∧ e'.plan = e.plan) : Continues runes r t := by
  refine ⟨⟨?_,?_⟩,persists⟩
  · intro id p found
    obtain ⟨q,there⟩ := Option.isSome_iff_exists.mp (known id (by rw [found]; rfl))
    rw [next]
    exact start.fresh id q there
  · intro routeID e found
    obtain ⟨e',there,config,plan⟩ := entries routeID e found
    obtain ⟨made,built,stands⟩ := start.built routeID e' there
    exact ⟨made,config ▸ built,plan ▸ stands.persists persists⟩

theorem stopPersists (id : Option Nat) : Persists r (r.stopPlan id) := by
  intro pid p found
  rw [stopPlanGet,found]
  split
  · exact ⟨p.stop,rfl,settingsDrain p fun _ => rfl⟩
  · exact ⟨p,rfl,rfl⟩

theorem Grounded.stopPlan (start : Grounded runes r) (id : Option Nat) : Continues runes r (r.stopPlan id) := by
  refine start.continue (stopPlanNext id) (stopPersists id) ?_ ?_
  · intro pid
    rw [stopPlanGet]
    split <;> simp
  · intro routeID e found
    rw [stopPlanRoutes] at found
    exact ⟨e,found,rfl,rfl⟩

theorem Grounded.store (start : Grounded runes r) {cfg : Traffic} {made : Option Plan} (built : buildPlan runes cfg = .ok made)
    (routeID : String) (now : Int) :
    Continues runes r (r.store routeID cfg now made).2 ∧
      Stands (r.store routeID cfg now made).2 (r.store routeID cfg now made).1 made := by
  have persists : Persists r (r.store routeID cfg now made).2 := by
    intro id p found
    cases made with
    | none => exact ⟨p,found,rfl⟩
    | some new =>
      have old : id ≠ r.next := Nat.ne_of_lt (start.fresh id p found)
      exact ⟨p,(Map.getInsertOther _ _ old).trans found,rfl⟩
  have stands : Stands (r.store routeID cfg now made).2 (r.store routeID cfg now made).1 made := by
    cases made with
    | none => trivial
    | some new => exact ⟨new,Map.getInsertSame _ _ _,rfl⟩
  have entry : (r.store routeID cfg now made).2.routes =
      r.routes.insert routeID ⟨cfg,(r.store routeID cfg now made).1,now⟩ := by cases made <;> rfl
  refine ⟨⟨⟨?_,?_⟩,persists⟩,stands⟩
  · intro id p found
    cases made with
    | none => exact start.fresh id p found
    | some new =>
      simp only [Registry.store, Map.getInsert] at found ⊢
      split at found
      · omega
      · exact Nat.lt_succ_of_lt (start.fresh id p found)
  · intro id e found
    rw [entry,Map.getInsert] at found
    split at found
    · cases found
      exact ⟨made,built,stands⟩
    · obtain ⟨old,was,stood⟩ := start.built id e found
      exact ⟨old,was,stood.persists persists⟩

theorem Grounded.replace (start : Grounded runes r) (routeID : String) (cfg : Traffic) (now : Int) :
    Continues runes r (r.replace runes routeID cfg now).2 ∧
      ∀ id, (r.replace runes routeID cfg now).1 = .ok id →
        ∃ made, buildPlan runes cfg = .ok made ∧ Stands (r.replace runes routeID cfg now).2 id made := by
  unfold Registry.replace
  have stopped := start.stopPlan ((r.routes.get routeID).bind Entry.plan)
  cases built : buildPlan runes cfg with
  | error e => exact ⟨stopped,by simp⟩
  | ok made =>
    obtain ⟨goes,stands⟩ := stopped.grounded.store built routeID now
    refine ⟨stopped.trans goes,?_⟩
    intro id answer
    cases answer
    exact ⟨made,rfl,stands⟩

theorem Grounded.plan (start : Grounded runes r) (routeID : String) (cfg : Traffic) (now : Int) :
    Continues runes r (r.plan runes routeID cfg now).2 ∧
      ∀ id, (r.plan runes routeID cfg now).1 = .ok id →
        ∃ made, buildPlan runes cfg = .ok made ∧ Stands (r.plan runes routeID cfg now).2 id made := by
  unfold Registry.plan
  split
  · exact ⟨.refl start,by simp⟩
  · split
    · exact start.replace routeID cfg now
    · rename_i current found
      split
      · rename_i same
        refine ⟨start.continue rfl (.refl r) (fun _ here => here) ?_,?_⟩
        · intro id e there
          simp only [Map.getInsert] at there
          split at there
          · rename_i own
            cases there
            exact ⟨current,own ▸ found,rfl,rfl⟩
          · exact ⟨e,there,rfl,rfl⟩
        · intro id answer
          cases answer
          obtain ⟨made,built,stands⟩ := start.built routeID current found
          exact ⟨made,same ▸ built,stands⟩
      · exact start.replace routeID cfg now

theorem Grounded.reapEntry (start : Grounded runes r) (now : Int) (routeID : String) :
    Continues runes r (r.reapEntry now routeID) := by
  rcases reapEntryCases r now routeID with same | ⟨e,-,-,goes⟩
  · rw [same]
    exact .refl start
  · rw [goes]
    have stopped := start.stopPlan e.plan
    refine stopped.trans (stopped.grounded.continue rfl (.refl _) (fun _ here => here) ?_)
    intro id x there
    rw [Map.getErase] at there
    split at there
    · cases there
    · exact ⟨x,by rw [stopPlanRoutes]; exact there,rfl,rfl⟩

theorem Grounded.drainUntil (start : Grounded runes r) (id : Nat) (now : Int) : Continues runes r (r.drainUntil id now) := by
  refine start.continue rfl ?_ (fun pid => by simp [Registry.drainUntil]) (fun routeID e found => ⟨e,found,rfl,rfl⟩)
  intro pid p found
  simp only [Registry.drainUntil, Map.getAdjust]
  split
  · refine ⟨_,by rw [found]; rfl,settingsDrain p fun a => ?_⟩
    split <;> rfl
  · exact ⟨p,found,rfl⟩

end

def Owned (r : Registry) : Prop :=
  ∀ id p, r.plans.get id = some p → p.running = true → ∃ routeID e, r.routes.get routeID = some e ∧ e.plan = some id

section
variable {runes : RuneTables} {r : Registry}

theorem stopRuns {id : Option Nat} {pid : Nat} {p : Plan} (found : (r.stopPlan id).plans.get pid = some p)
    (runs : p.running = true) : id ≠ some pid ∧ r.plans.get pid = some p := by
  rw [stopPlanGet] at found
  split at found
  · obtain ⟨q,-,rfl⟩ := Option.map_eq_some_iff.mp found
    rw [q.stopRunning] at runs
    cases runs
  · rename_i other
    exact ⟨other,found⟩

theorem Owned.store (owned : Owned r) {routeID : String} (cfg : Traffic) (now : Int) (made : Option Plan)
    (released : ∀ id p, r.plans.get id = some p → p.running = true → (r.routes.get routeID).bind Entry.plan ≠ some id) :
    Owned (r.store routeID cfg now made).2 := by
  have others : ∀ id p, r.plans.get id = some p → p.running = true → ∀ plan,
      ∃ other e, (r.routes.insert routeID ⟨cfg,plan,now⟩).get other = some e ∧ e.plan = some id := by
    intro id p found runs plan
    obtain ⟨other,e,there,own⟩ := owned id p found runs
    have apart : other ≠ routeID := by
      rintro rfl
      exact released id p found runs (by rw [there]; exact own)
    exact ⟨other,e,by rw [Map.getInsertOther _ _ apart]; exact there,own⟩
  intro id p found runs
  cases made with
  | none => exact others id p found runs none
  | some new =>
    simp only [Registry.store, Map.getInsert] at found
    split at found
    · rename_i here
      exact ⟨routeID,_,Map.getInsertSame _ _ _,by rw [here]⟩
    · exact others id p found runs (some r.next)

theorem Owned.replace (owned : Owned r) (routeID : String) (cfg : Traffic) (now : Int) :
    Owned (r.replace runes routeID cfg now).2 := by
  have stopped : Owned (r.stopPlan ((r.routes.get routeID).bind Entry.plan)) := by
    intro id p found runs
    rw [stopPlanRoutes]
    exact owned id p (stopRuns found runs).2 runs
  unfold Registry.replace
  cases buildPlan runes cfg with
  | error e => exact stopped
  | ok made =>
    refine stopped.store cfg now made fun id p found runs => ?_
    rw [stopPlanRoutes]
    exact (stopRuns found runs).1

theorem Owned.plan (owned : Owned r) (routeID : String) (cfg : Traffic) (now : Int) :
    Owned (r.plan runes routeID cfg now).2 := by
  unfold Registry.plan
  split
  · exact owned
  · split
    · exact owned.replace routeID cfg now
    · rename_i current found
      split
      · intro id p there runs
        obtain ⟨other,e,listed,own⟩ := owned id p there runs
        by_cases here : other = routeID
        · subst here
          cases Option.some.inj (found.symm.trans listed)
          exact ⟨other,_,Map.getInsertSame _ _ _,own⟩
        · exact ⟨other,e,by rw [Map.getInsertOther _ _ here]; exact listed,own⟩
      · exact owned.replace routeID cfg now

theorem Owned.closed (owned : Owned r) {order : List String}
    (visits : ∀ routeID e, r.routes.get routeID = some e → routeID ∈ order) {id : Nat} {p : Plan}
    (found : (r.close order).plans.get id = some p) : p.running = false := by
  rcases closeGet found with ⟨there,apart⟩ | stopped
  · cases runs : p.running with
    | false => rfl
    | true =>
      obtain ⟨routeID,e,listed,own⟩ := owned id p there runs
      exact absurd (by rw [listed]; exact own) (apart routeID (visits routeID e listed))
  · exact stopped

theorem planRuns {routeID : String} {cfg : Traffic} {now : Int} {id : Nat} {p : Plan}
    (found : (r.plan runes routeID cfg now).2.plans.get id = some p) (runs : p.running = true) :
    r.plans.get id = some p ∨ buildPlan runes cfg = .ok (some p) := by
  have replaced : (r.replace runes routeID cfg now).2.plans.get id = some p →
      r.plans.get id = some p ∨ buildPlan runes cfg = .ok (some p) := by
    intro there
    unfold Registry.replace at there
    cases built : buildPlan runes cfg with
    | error e =>
      rw [built] at there
      exact .inl (stopRuns there runs).2
    | ok made =>
      rw [built] at there
      cases made with
      | none => exact .inl (stopRuns there runs).2
      | some new =>
        simp only [Registry.store, Map.getInsert] at there
        split at there
        · exact .inr (by rw [Option.some.inj there])
        · exact .inl (stopRuns there runs).2
  unfold Registry.plan at found
  split at found
  · exact .inl found
  · split at found
    · exact replaced found
    · split at found
      · exact .inl found
      · exact replaced found

theorem planNew {routeID : String} {cfg : Traffic} {p : Plan} (named : routeID ≠ "") (new : r.routes.get routeID = none)
    (built : buildPlan runes cfg = .ok (some p)) (now : Int) :
    ∃ id, (r.plan runes routeID cfg now).2.plans.get id = some p := by
  have fresh : r.plan runes routeID cfg now = r.replace runes routeID cfg now := by
    rw [Registry.plan, if_neg named, new]
  rw [fresh, Registry.replace, built, new]
  exact ⟨r.next,Map.getInsertSame _ _ _⟩

end

inductive Operation where
  | plan (routeID : String) (cfg : Traffic) (now : Int)
  | reap (order : List String) (now : Int)
  | drain (id : Nat) (now : Int)
  | close (order : List String)

def operate (runes : RuneTables) (r : Registry) : Operation → Registry
  | .plan routeID cfg now => (r.plan runes routeID cfg now).2
  | .reap order now => r.reapOnce order now
  | .drain id now => r.drainUntil id now
  | .close order => r.close order

def live (runes : RuneTables) (r : Registry) (operations : List Operation) : Registry := operations.foldl (operate runes) r

def Lived (runes : RuneTables) (r : Registry) : Prop := ∃ ttl operations, r = live runes { ttl := ttl } operations

section
variable {runes : RuneTables} {r : Registry}

theorem foldContinues {α : Type} {step : Registry → α → Registry}
    (one : ∀ {r} a, Grounded runes r → Continues runes r (step r a)) (start : Grounded runes r) (all : List α) :
    Continues runes r (all.foldl step r) := by
  induction all generalizing r with
  | nil => exact .refl start
  | cons a rest ih =>
    have first := one a start
    exact first.trans (ih first.grounded)

theorem operateContinues (a : Operation) (start : Grounded runes r) : Continues runes r (operate runes r a) := by
  cases a with
  | plan routeID cfg now => exact (start.plan routeID cfg now).1
  | reap order now => exact foldContinues (fun routeID from_ => from_.reapEntry now routeID) start order
  | drain id now => exact start.drainUntil id now
  | close order => exact foldContinues (fun routeID from_ => from_.stopPlan _) start order

theorem Grounded.live (start : Grounded runes r) (operations : List Operation) :
    Continues runes r (live runes r operations) := foldContinues operateContinues start operations

theorem Lived.grounded (lived : Lived runes r) : Grounded runes r := by
  obtain ⟨ttl,operations,rfl⟩ := lived
  exact ((groundedNew runes ttl).live operations).grounded

theorem Grounded.holds (start : Grounded runes r) {routeID : String} {cfg : Traffic} (holds : Holds r.assigned routeID cfg) :
    rejects runes cfg = false := by
  obtain ⟨-,config⟩ := holds
  rw [Registry.assignedGet] at config
  cases found : r.routes.get routeID with
  | none => simp [found] at config
  | some e =>
    have same : e.config = cfg := by simpa [found] using config
    obtain ⟨made,built,-⟩ := start.built routeID e found
    simp [rejects,← same,built,Except.toOption]

theorem Grounded.fails (start : Grounded runes r) (call : Call) :
    callFails runes r.assigned call = callFails runes Map.empty call := by
  cases call with
  | plan routeID cfg =>
    have none : ¬Holds Map.empty routeID cfg := TrafficRegistry.holdsEmpty
    unfold callFails
    by_cases holds : Holds r.assigned routeID cfg
    · simp [start.holds holds]
    · simp [holds,none]
  | _ => rfl

def Answers (runes : RuneTables) (r : Registry) (entry : String × Option Nat) (asked : String × Traffic) : Prop :=
  entry.1 = asked.1 ∧ ∃ made, buildPlan runes asked.2 = .ok made ∧ Stands r entry.2 made

theorem Answers.persists {r r' : Registry} {entry : String × Option Nat} {asked : String × Traffic}
    (answers : Answers runes r entry asked) (kept : Persists r r') :
    Answers runes r' entry asked := by
  obtain ⟨named,made,built,stands⟩ := answers
  exact ⟨named,made,built,stands.persists kept⟩

theorem performGrounded {s : Registries} (start : Grounded runes s.traffic) (timed : Int × Call) :
    Continues runes s.traffic (perform runes s timed).2.traffic ∧
      ∀ reply, (perform runes s timed).1 = .ok reply →
        List.Forall₂ (Answers runes (perform runes s timed).2.traffic) reply (planned [timed.2]) := by
  obtain ⟨now,call⟩ := timed
  cases call with
  | plan routeID cfg =>
    obtain ⟨goes,answers⟩ := start.plan routeID cfg now
    refine ⟨goes,?_⟩
    intro reply ok
    change (s.traffic.plan runes routeID cfg now).1.map _ = _ at ok
    cases answer : (s.traffic.plan runes routeID cfg now).1 with
    | error e =>
      rw [answer] at ok
      cases ok
    | ok id =>
      rw [answer] at ok
      cases ok
      exact .cons ⟨rfl,answers id answer⟩ .nil
  | _ => exact ⟨.refl start,by rintro _ ⟨⟩; exact .nil⟩

theorem runGrounded {s : Registries} (start : Grounded runes s.traffic) (timed : List (Int × Call)) :
    Continues runes s.traffic (run (perform runes) s timed).2.traffic ∧
      ∀ replies, (run (perform runes) s timed).1 = .ok replies →
        List.Forall₂ (Answers runes (run (perform runes) s timed).2.traffic) replies.flatten (planned (timed.map (·.2))) := by
  induction timed generalizing s with
  | nil => exact ⟨.refl start,by rintro _ ⟨⟩; exact .nil⟩
  | cons head rest ih =>
    obtain ⟨goes,given⟩ := performGrounded start head
    unfold run
    cases first : perform runes s head with
    | mk answer t =>
      rw [first] at goes given
      cases answer with
      | error e => exact ⟨goes,by simp⟩
      | ok reply =>
        obtain ⟨later,others⟩ := ih goes.grounded
        dsimp only
        cases second : run (perform runes) t rest with
        | mk answers u =>
          rw [second] at later others
          cases answers with
          | error e => exact ⟨goes.trans later,by simp⟩
          | ok replies =>
            refine ⟨goes.trans later,?_⟩
            rintro _ ⟨⟩
            have own := (given reply rfl).imp fun _ _ answers => answers.persists later.persists
            have whole : planned ((head :: rest).map (·.2)) = planned [head.2] ++ planned (rest.map (·.2)) :=
              List.filterMap_append (l := [head.2])
            rw [List.flatten_cons,whole]
            exact List.rel_append own (others replies rfl)

end

def settingsAt (r : Registry) (plan : Option Nat) : Option Settings := plan.bind (fun id => (r.plans.get id).map settings)

def settingsOf (runes : RuneTables) (cfg : Traffic) : Option Settings :=
  match buildPlan runes cfg with
  | .ok (some p) => some (settings p)
  | _ => none

theorem Stands.settingsAt {r : Registry} {id : Option Nat} {p : Option Plan} (stands : Stands r id p) :
    settingsAt r id = p.map settings := by
  cases id <;> cases p <;> try cases stands
  · rfl
  · rename_i found
    exact (congrArg (Option.map settings) found.1).trans (congrArg some found.2)

theorem answersMember {runes : RuneTables} {r : Registry} {entries : Reply} {asked : List (String × Traffic)}
    (answers : List.Forall₂ (Answers runes r) entries asked) {entry : String × Option Nat} (inside : entry ∈ entries) :
    ∃ p ∈ asked, Answers runes r entry p := by
  induction answers with
  | nil => cases inside
  | cons one _ ih =>
    rcases List.mem_cons.mp inside with rfl | later
    · exact ⟨_,List.mem_cons_self,one⟩
    · obtain ⟨p,listed,own⟩ := ih later
      exact ⟨p,List.mem_cons_of_mem _ listed,own⟩

theorem answersFound {runes : RuneTables} {r : Registry} {entries : Reply} {asked : List (String × Traffic)}
    (answers : List.Forall₂ (Answers runes r) entries asked) (id : String) :
    settingsAt r ((entries.find? (fun e => e.1 = id)).bind (·.2)) =
      (asked.find? (fun p => p.1 = id)).bind (fun p => settingsOf runes p.2) := by
  induction answers with
  | nil => rfl
  | cons one _ ih =>
    obtain ⟨named,made,built,stands⟩ := one
    rw [List.find?_cons,List.find?_cons,named]
    split
    · rw [Option.bind_some,Option.bind_some,stands.settingsAt,settingsOf,built]
      cases made <;> rfl
    · exact ih

end ReverseProxy.PlanHistory
