import ReverseProxy.CanaryBrakes
import ReverseProxy.LimiterSlots
import ReverseProxy.PlanPointers

/-! Requests at the overload limiters of their routes while configurations change. A
limiter belongs to a traffic plan, and the registry makes a new plan for a route
whenever its traffic config is another one than before. Each limiter keeps to its own
bound; a route keeps to it while its requests hold slots of one limiter only. -/
namespace ReverseProxy.OverloadBound
open GoValues FiniteMap ConfigData SnapshotBuild SnapshotStore Deployments PlanHistory PlanPointers LimiterSlots
open TrafficRegistry (OverloadLimiter buildPlan newOverloadLimiter)
open Transition (Runs runAll runAllRuns)

structure Entrant where
  request : Nat
  route : CompiledRoute
  plan : Nat
  place : Place := .entering

structure State where
  process : Deployments.State := {}
  channels : Map Nat Channels := Map.empty
  entrants : List Entrant := []

inductive Action where
  | process (a : Deployments.Action)
  | enter (j k : Nat)
  | act (i : Nat) (mv : Move)

def limiter (s : Deployments.State) (p : Nat) : Option OverloadLimiter :=
  ((traffic s).plans.get p).bind TrafficRegistry.Plan.overload

def slots (s : State) (p : Nat) : Channels := (s.channels.get p).getD {}

def tooEarly (s : State) : Deployments.Action → Bool
  | .plane (.release j) => s.entrants.any (fun e => e.request == j && !e.place.done)
  | _ => false

/- A request that holds its snapshot matches the `k`th route, which has a limiter. -/
def entrant (s : State) (j k : Nat) : Option Entrant := do
  let snapshot ← s.process.plane.requests[j]?.bind id
  let route ← snapshot.compiled.routes[k]?
  let plan ← route.trafficPlan
  if (limiter s.process plan).isSome then some { request := j, route := route, plan := plan } else none

section
variable (platform : Platform) (rm : Rollout.Manager) (m : ApplyManager.Manager)

def step (s : State) : Action → Option State
  | .process a =>
    if tooEarly s a then none
    else (Deployments.step platform rm m s.process a).map (fun process => { s with process := process })
  | .enter j k =>
    if s.entrants.any (fun e => e.request == j) then none
    else (entrant s j k).map (fun e => { s with entrants := s.entrants ++ [e] })
  | .act i mv => do
    let e ← s.entrants[i]?
    let l ← limiter s.process e.plan
    let (place,c) ← move l (slots s e.plan) e.place mv
    some { s with channels := s.channels.insert e.plan c, entrants := s.entrants.set i { e with place := place } }

inductive Stepped (s : State) : Action → State → Prop where
  | processed {a process} (moved : Deployments.step platform rm m s.process a = some process) :
      Stepped s (.process a) { s with process := process }
  | entered {j k snapshot route plan l} (held : some snapshot ∈ s.process.plane.requests)
      (listed : route ∈ snapshot.compiled.routes) (planned : route.trafficPlan = some plan)
      (limited : limiter s.process plan = some l) :
      Stepped s (.enter j k) { s with entrants := s.entrants ++ [{ request := j, route := route, plan := plan }] }
  | acted {i mv e l place c} (found : s.entrants[i]? = some e) (limited : limiter s.process e.plan = some l)
      (went : Moved l (slots s e.plan) e.place mv place c) :
      Stepped s (.act i mv)
        { s with channels := s.channels.insert e.plan c, entrants := s.entrants.set i { e with place := place } }

theorem stepped {s s' : State} {a : Action} (taken : step platform rm m s a = some s') : Stepped platform rm m s a s' := by
  cases a with
  | process a =>
    simp only [step] at taken
    split at taken
    · cases taken
    · obtain ⟨process,moved,rfl⟩ := Option.map_eq_some_iff.mp taken
      exact .processed moved
  | enter j k =>
    simp only [step] at taken
    split at taken
    · cases taken
    · obtain ⟨e,came,rfl⟩ := Option.map_eq_some_iff.mp taken
      simp only [entrant, bind, Option.bind_eq_some_iff] at came
      obtain ⟨snapshot,⟨_,held,rfl⟩,route,listed,plan,planned,came⟩ := came
      split at came
      · rename_i some_
        cases came
        obtain ⟨l,limited⟩ := Option.isSome_iff_exists.mp some_
        exact .entered (List.mem_of_getElem? held) (List.mem_of_getElem? listed) planned limited
      · cases came
  | act i mv =>
    simp only [step, bind, Option.bind_eq_some_iff] at taken
    obtain ⟨e,found,l,limited,⟨place,c⟩,went,same⟩ := taken
    cases same
    exact .acted found limited (moved went)

end

def holdsOn (p : Nat) (e : Entrant) : Bool := decide (e.plan = p) && e.place.holds

structure Tallied (runes : RuneTables) (s : State) : Prop where
  grounded : Grounded runes (traffic s.process)
  limited : ∀ e ∈ s.entrants, ∃ l, limiter s.process e.plan = some l ∧ (slots s e.plan).inflight ≤ l.maxInflight.toNat
  counted : ∀ p, (slots s p).inflight = s.entrants.countP (holdsOn p)

theorem limiterKept {s s' : Deployments.State} (kept : Persists (traffic s) (traffic s')) {p : Nat} {l : OverloadLimiter}
    (limited : limiter s p = some l) : limiter s' p = some l := by
  obtain ⟨plan,found,own⟩ := Option.bind_eq_some_iff.mp limited
  obtain ⟨now,there,same⟩ := kept p plan found
  unfold limiter
  rw [there, Option.bind_some, show now.overload = plan.overload from congrArg Settings.overload same, own]

section
variable {platform : Platform} {rm : Rollout.Manager} {m : ApplyManager.Manager} {s s' : State} {a : Action}

theorem Tallied.enters (start : Tallied platform.runes s) {e : Entrant} {l : OverloadLimiter}
    (limited : limiter s.process e.plan = some l) (place : e.place = .entering) :
    Tallied platform.runes { s with entrants := s.entrants ++ [e] } := by
  refine ⟨start.grounded,?_,?_⟩
  · intro x inside
    rcases List.mem_append.mp inside with old | new
    · exact start.limited x old
    · cases List.mem_singleton.mp new
      refine ⟨l,limited,?_⟩
      change (slots s e.plan).inflight ≤ _
      rcases Nat.eq_zero_or_pos (slots s e.plan).inflight with none | some_
      · exact Nat.le_trans (Nat.le_of_eq none) (Nat.zero_le _)
      · rw [start.counted] at some_
        obtain ⟨y,there,on⟩ := List.countP_pos_iff.mp some_
        obtain ⟨same,-⟩ : y.plan = e.plan ∧ y.place.holds = true := by simpa [holdsOn] using on
        obtain ⟨l',limited',capped⟩ := start.limited y there
        rw [same] at limited' capped
        cases Option.some.inj (limited.symm.trans limited')
        exact capped
  · intro p
    change (slots s p).inflight = _
    rw [start.counted p, Crew.countJoin]
    simp [holdsOn,place,Place.holds]

theorem Tallied.acts (start : Tallied platform.runes s) {i : Nat} {mv : Move} {e : Entrant} {l : OverloadLimiter}
    {place : Place} {c : Channels} (found : s.entrants[i]? = some e) (limited : limiter s.process e.plan = some l)
    (went : Moved l (slots s e.plan) e.place mv place c) :
    Tallied platform.runes
      { s with channels := s.channels.insert e.plan c, entrants := s.entrants.set i { e with place := place } } := by
  have after (p : Nat) : slots { s with
        channels := s.channels.insert e.plan c, entrants := s.entrants.set i { e with place := place } } p =
      if p = e.plan then c else slots s p := by
    simp only [slots, Map.getInsert]
    split <;> rfl
  obtain ⟨l',limited',capped⟩ := start.limited e (Crew.member found)
  cases Option.some.inj (limited.symm.trans limited')
  refine ⟨start.grounded,?_,?_⟩
  · intro x inside
    rw [after]
    by_cases same : x.plan = e.plan
    · rw [if_pos same, same]
      exact ⟨l,limited,went.capped capped⟩
    · rw [if_neg same]
      rcases List.mem_or_eq_of_mem_set inside with old | rfl
      · exact start.limited x old
      · exact absurd rfl same
  · intro p
    have before := start.counted p
    rw [after]
    by_cases same : p = e.plan
    · subst same
      have moves := Crew.countMove (holdsOn e.plan) found { e with place := place }
      have slots := went.slots
      rw [if_pos rfl]
      simp only [holdsOn, decide_true, Bool.true_and] at moves before ⊢
      omega
    · rw [if_neg same, before]
      exact (Crew.countSame _ found (by simp [holdsOn,Ne.symm same])).symm

theorem talliedStep (start : Tallied platform.runes s) (taken : Stepped platform rm m s a s') : Tallied platform.runes s' := by
  cases taken with
  | processed moved =>
    have goes := trafficContinues start.grounded moved
    refine ⟨goes.grounded,?_,start.counted⟩
    intro e inside
    obtain ⟨l,limited,capped⟩ := start.limited e inside
    exact ⟨l,limiterKept goes.persists limited,capped⟩
  | entered held listed planned limited => exact start.enters limited rfl
  | acted found limited went => exact start.acts found limited went

end

structure Settings where
  maxInflight : Int
  maxQueue : Int
  queueTimeout : Duration
  deriving DecidableEq, Repr

def settingsOf (o : PolicyBuild.Overload) : Settings := ⟨o.maxInflight,o.maxQueue,o.queueTimeout⟩

def KeepsSettings (platform : Platform) (rm : Rollout.Manager) (id : String) (settings : Settings) (s : State) (a : Action) :
    Prop :=
  ∀ b cfg now, a = .process b → effect platform rm s.process b = .plan id cfg now → cfg.enabled = true →
    settingsOf cfg.overload = settings

def OneLimiter (id : String) (s : State) (a : Action) : Prop :=
  ∀ i mv e, a = .act i mv → s.entrants[i]? = some e → e.route.id = id → mv.takes = true →
    ∀ x ∈ s.entrants, x.route.id = id → x.place.holds = true → x.plan = e.plan

def Allows (settings : Settings) (l : OverloadLimiter) : Prop := l.maxInflight = settings.maxInflight

structure Ready (platform : Platform) (id : String) (settings : Settings) (s : Deployments.State) : Prop where
  grounded : Grounded platform.runes (traffic s)
  planned : ∀ p, Planned s id p → Has (Allows settings) (traffic s) p

structure Fitted (id : String) (settings : Settings) (s : State) : Prop where
  planned : ∀ p, Planned s.process id p → Has (Allows settings) (traffic s.process) p
  entered : ∀ e ∈ s.entrants, e.route.id = id → Has (Allows settings) (traffic s.process) e.plan
  single : ∀ x ∈ s.entrants, ∀ y ∈ s.entrants, x.route.id = id → y.route.id = id →
    x.place.holds = true → y.place.holds = true → x.plan = y.plan

theorem builtAllows {runes : RuneTables} {cfg : PolicyBuild.Traffic} {plan : TrafficRegistry.Plan} {settings : Settings}
    (built : buildPlan runes cfg = .ok (some plan)) (same : cfg.enabled = true → settingsOf cfg.overload = settings)
    {l : OverloadLimiter} (own : plan.overload = some l) : Allows settings l := by
  have enabled : cfg.enabled = true := by
    cases on : cfg.enabled with
    | true => rfl
    | false => simp [buildPlan,on] at built
  rw [(TrafficRegistry.buildPlanOk built).2.1] at own
  split at own
  · unfold newOverloadLimiter at own
    split at own <;> cases own
    rw [← same enabled]
    rfl
  · cases own

section
variable {platform : Platform} {rm : Rollout.Manager} {m : ApplyManager.Manager} {s s' : State} {a : Action}
  {id : String} {settings : Settings}

theorem Fitted.processes (start : Fitted id settings s) (grounded : Grounded platform.runes (traffic s.process))
    {b : Deployments.Action} {process : Deployments.State} (moved : Deployments.step platform rm m s.process b = some process)
    (keeps : KeepsSettings platform rm id settings s (.process b)) : Fitted id settings { s with process := process } := by
  have kept := (trafficContinues grounded moved).persists
  refine ⟨?_,fun e inside own => (start.entered e inside own).persists kept,start.single⟩
  intro p planned
  rcases plannedFrom moved planned with old | ⟨cfg,now,plans,answer⟩
  · exact (start.planned p old).persists kept
  · obtain ⟨made,built,stands⟩ := (grounded.plan id cfg now).2 (some p) answer
    have seen : traffic process = _ := congrArg View.traffic (advances moved).view
    rw [plans] at seen
    cases made with
    | none => cases stands
    | some plan =>
      obtain ⟨q,found,same⟩ := stands
      refine ⟨q,by rw [seen]; exact found,?_⟩
      intro l own
      exact builtAllows built (keeps b cfg now rfl plans) ((congrArg Settings.overload same).symm.trans own)

theorem Fitted.enters (start : Fitted id settings s) {e : Entrant} (place : e.place = .entering)
    (has : e.route.id = id → Has (Allows settings) (traffic s.process) e.plan) :
    Fitted id settings { s with entrants := s.entrants ++ [e] } := by
  have holder {x : Entrant} (inside : x ∈ s.entrants ++ [e]) (holds : x.place.holds = true) : x ∈ s.entrants := by
    rcases List.mem_append.mp inside with old | new
    · exact old
    · rw [List.mem_singleton.mp new, place] at holds
      cases holds
  refine ⟨start.planned,?_,?_⟩
  · intro x inside own
    rcases List.mem_append.mp inside with old | new
    · exact start.entered x old own
    · cases List.mem_singleton.mp new
      exact has own
  · intro x inside y inside' own own' holds holds'
    exact start.single x (holder inside holds) y (holder inside' holds') own own' holds holds'

theorem Fitted.acts (start : Fitted id settings s) {i : Nat} {e : Entrant} {place : Place} {c : Channels}
    (found : s.entrants[i]? = some e)
    (others : e.route.id = id → place.holds = true → ∀ x ∈ s.entrants, x.route.id = id → x.place.holds = true →
      x.plan = e.plan) :
    Fitted id settings
      { s with channels := s.channels.insert e.plan c, entrants := s.entrants.set i { e with place := place } } := by
  refine ⟨start.planned,?_,?_⟩
  · intro x inside own
    rcases List.mem_or_eq_of_mem_set inside with old | rfl
    · exact start.entered x old own
    · exact start.entered e (Crew.member found) own
  · intro x inside y inside' own own' holds holds'
    rcases List.mem_or_eq_of_mem_set inside with old | rfl
    · rcases List.mem_or_eq_of_mem_set inside' with old' | rfl
      · exact start.single x old y old' own own' holds holds'
      · exact others own' holds' x old own holds
    · rcases List.mem_or_eq_of_mem_set inside' with old' | rfl
      · exact (others own holds y old' own' holds').symm
      · rfl

theorem fittedStep (tally : Tallied platform.runes s) (start : Fitted id settings s)
    (keeps : KeepsSettings platform rm id settings s a) (one : OneLimiter id s a) (taken : Stepped platform rm m s a s') :
    Fitted id settings s' := by
  cases taken with
  | processed moved => exact start.processes tally.grounded moved keeps
  | @entered j k snapshot route plan l held listed planned limited =>
    refine start.enters rfl fun own => ?_
    exact start.planned plan (.inl ⟨snapshot,.inr (.inl held),route,listed,own,planned⟩)
  | @acted i mv e l place c found limited went =>
    refine start.acts found fun own holds x inside own' holds' => ?_
    -- it held its slot before, or the condition speaks of this move
    cases before : e.place.holds with
    | true => exact start.single x inside e (Crew.member found) own' own holds' before
    | false => exact one i mv e rfl found own (went.takes before holds) x inside own' holds'

def pastAcquire (id : String) (s : State) : Nat := s.entrants.countP (fun e => decide (e.route.id = id) && decide (e.place = .past))

theorem Fitted.bounded (tally : Tallied platform.runes s) (fitted : Fitted id settings s) :
    (pastAcquire id s : Int) ≤ max settings.maxInflight 0 := by
  rcases Nat.eq_zero_or_pos (pastAcquire id s) with none | some_
  · rw [none]
    exact Int.le_max_right ..
  · obtain ⟨e,inside,is⟩ := List.countP_pos_iff.mp some_
    obtain ⟨own,past⟩ : e.route.id = id ∧ e.place = .past := by simpa using is
    have held (x : Entrant) (there : x ∈ s.entrants) (is : (decide (x.route.id = id) && decide (x.place = .past)) = true) :
        holdsOn e.plan x = true := by
      obtain ⟨own',past'⟩ : x.route.id = id ∧ x.place = .past := by simpa using is
      have plan := fitted.single x there e inside own' own (by rw [past']; rfl) (by rw [past]; rfl)
      simp [holdsOn,plan,past',Place.holds]
    obtain ⟨l,limited,capped⟩ := tally.limited e inside
    obtain ⟨plan,found,overload⟩ := Option.bind_eq_some_iff.mp limited
    obtain ⟨plan',found',allows⟩ := fitted.entered e inside own
    cases Option.some.inj (found.symm.trans found')
    have bound : l.maxInflight = settings.maxInflight := allows l overload
    have holders : pastAcquire id s ≤ s.entrants.countP (holdsOn e.plan) := List.countP_mono_left held
    rw [tally.counted] at capped
    omega

end

theorem inflightBounded {platform : Platform} {rm : Rollout.Manager} {m : ApplyManager.Manager} {id : String}
    {settings : Settings} {start : Deployments.State} (ready : Ready platform id settings start) {as : List Action} {s : State}
    (run : Runs (step platform rm m) (fun s a => KeepsSettings platform rm id settings s a ∧ OneLimiter id s a)
      { process := start } as s) : (pastAcquire id s : Int) ≤ max settings.maxInflight 0 := by
  have kept : Tallied platform.runes s ∧ Fitted id settings s := by
    refine run.preserve (fun s => Tallied platform.runes s ∧ Fitted id settings s) ?_ ⟨?_,?_⟩
    · rintro s a t ⟨tally,fitted⟩ ⟨keeps,one⟩ taken
      have went := stepped platform rm m taken
      exact ⟨talliedStep tally went,fittedStep tally fitted keeps one went⟩
    · exact ⟨ready.grounded,by simp,fun p => rfl⟩
    · exact ⟨ready.planned,by simp,by simp⟩
  exact kept.2.bounded kept.1

theorem readyEmpty (platform : Platform) (id : String) (settings : Settings) : Ready platform id settings {} := by
  refine ⟨groundedNew platform.runes (5 * minute),?_⟩
  rintro p (⟨snapshot,current | held | ⟨origin,kept⟩,-⟩ | ⟨w,awaits,-⟩)
  · cases current
  · cases held
  · exact absurd kept remembersEmpty
  · exact absurd awaits awaitsEmpty

def limitedRoute : Route :=
  { id := "r", host := "h", pathPrefix := "/", pool := "p", policy := { traffic := {
      enabled := true, stablePool := "p", canaryPool := "c", stableWeight := 90, canaryWeight := 10
      overload := ⟨true,1,0,0⟩ } } }

def limitedConfig : Config :=
  { routes := some [limitedRoute]
    pools := ⟨[("p",{ endpoints := some ["10.0.0.1:80"] }),("c",{ endpoints := some ["10.0.0.2:80"] })],
      CanaryBrakes.twoPools⟩ }

def room : Settings := ⟨1,0,0⟩

def served (i : Nat) : List Action := [.process (.plane .acquire),.enter i 0,.act i .tryInflight]

def keeping (platform : Platform) (rm : Rollout.Manager) (settings : Settings) (s : State) : Action → Bool
  | .process b =>
    match effect platform rm s.process b with
    | .plan _ cfg _ => decide (settingsOf cfg.overload = settings)
    | _ => true
  | _ => true

def alone (s : State) : Action → Bool
  | .act i mv => s.entrants[i]?.all (fun e => !mv.takes || s.entrants.all (fun x => !x.place.holds || decide (x.plan = e.plan)))
  | _ => true

theorem keepingKeeps {platform : Platform} {rm : Rollout.Manager} {settings : Settings} {s : State} {a : Action}
    (is : keeping platform rm settings s a = true) (id : String) : KeepsSettings platform rm id settings s a := by
  rintro b cfg now rfl plans -
  simp only [keeping, plans] at is
  exact of_decide_eq_true is

theorem aloneOne {s : State} {a : Action} (is : alone s a = true) (id : String) : OneLimiter id s a := by
  rintro i mv e rfl found - takes x inside - holds
  simp only [alone, found, Option.all_some, takes, Bool.not_true, Bool.false_or] at is
  simpa [holds] using List.all_eq_true.mp is x inside

theorem rolloutDoublesRoom :
    ∃ as s, Runs (step (Rollout.codec limitedConfig) {} {}) (KeepsSettings (Rollout.codec limitedConfig) {} "r" room)
      { process := {} } as s ∧ room.maxInflight < pastAcquire "r" s := by
  obtain ⟨s,ran,two⟩ :
      ∃ s, runAll (step (Rollout.codec limitedConfig) {} {}) (keeping (Rollout.codec limitedConfig) {} room · · = true)
          { process := {} } ((locksDown 6).map .process ++ served 0 ++ (opensUp 6).map .process ++ served 1) = some s ∧
        pastAcquire "r" s = 2 :=
    ⟨_,rfl,rfl⟩
  exact ⟨_,s,(runAllRuns ran).weaken fun _ _ is => keepingKeeps is "r",by rw [two]; decide⟩

theorem turnsKeepRoom :
    ∃ as s, Ready (Rollout.codec limitedConfig) "r" room {} ∧
      Runs (step (Rollout.codec limitedConfig) {} {})
        (fun s a => KeepsSettings (Rollout.codec limitedConfig) {} "r" room s a ∧ OneLimiter "r" s a) { process := {} } as s ∧
      s.entrants.map (·.place) = [.released,.past,.refused] ∧ (pastAcquire "r" s : Int) ≤ max room.maxInflight 0 := by
  obtain ⟨s,ran,places⟩ :
      ∃ s, runAll (step (Rollout.codec limitedConfig) {} {})
          (fun s a => (keeping (Rollout.codec limitedConfig) {} room s a && alone s a) = true) { process := {} }
          ((locksDown 6).map .process ++ served 0 ++ [.act 0 .release] ++ (opensUp 6).map .process ++ served 1 ++ served 2 ++
            [.act 2 .tryQueue]) = some s ∧
        s.entrants.map (·.place) = [.released,.past,.refused] :=
    ⟨_,rfl,rfl⟩
  have run := (runAllRuns ran).weaken fun s a is => by
    obtain ⟨keeps,one⟩ := Bool.and_eq_true_iff.mp is
    exact And.intro (keepingKeeps keeps "r") (aloneOne one "r")
  have ready := readyEmpty (Rollout.codec limitedConfig) "r" room
  exact ⟨_,s,ready,run,places,inflightBounded ready run⟩

end ReverseProxy.OverloadBound
