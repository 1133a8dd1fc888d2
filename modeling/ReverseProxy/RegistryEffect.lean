import ReverseProxy.SnapshotBuild

/-! What the calls of a build do to the registries a rejected configuration should
leave alone. `View` is the part of the live state that is compared; `Idle` says, in
terms of the view before the first call, that the calls write only what is already
there. `unchangedIff` is exact: a call list leaves the view alone just when idle. -/
namespace ReverseProxy.RegistryEffect
open GoValues FiniteMap CallScript PolicyBuild SnapshotBuild
open PoolRegistry (PoolKey Settled reconcileShape reconcileShapeSame)
open TrafficRegistry (Assigned Holds rejects loopRuns)

structure View where
  pools : Map PoolKey (Map String Bool)
  assigned : Assigned
  loops : Map Nat Bool
  watched : Map String (Outlier × (String → Bool))

def view (s : Registries) : View :=
  ⟨s.registry.shape,s.traffic.assigned,s.traffic.loops,s.outlier.watched⟩

def poolStep (m : Map PoolKey (Map String Bool)) : Call → Map PoolKey (Map String Bool)
  | .reconcile key endpoints _ _ => m.insert key (reconcileShape ((m.get key).getD Map.empty) endpoints)
  | .prune desired => m.keep (fun key => decide (key ∈ desired))
  | _ => m

def PoolsIdle (m : Map PoolKey (Map String Bool)) (calls : List Call) : Prop :=
  (∀ p ∈ reconciled calls, ∃ shape, m.get p.1 = some shape ∧ Settled shape p.2) ∧
  ∀ desired, .prune desired ∈ calls → ∀ key, (m.get key).isSome → key ∈ desired

theorem performPools (runes : RuneTables) (s : Registries) (timed : Int × Call) :
    (perform runes s timed).2.registry.shape = poolStep s.registry.shape timed.2 := by
  obtain ⟨now,call⟩ := timed
  cases call with
  | reconcile key endpoints health opts => exact s.registry.reconciled key endpoints health now
  | prune desired => exact s.registry.pruned desired
  | plan routeID cfg => rfl
  | outlier key endpoints cfg => rfl

theorem afterPools (runes : RuneTables) (s : Registries) (timed : List (Int × Call)) :
    (after (perform runes) s timed).registry.shape = (timed.map (·.2)).foldl poolStep s.registry.shape := by
  induction timed generalizing s with
  | nil => rfl
  | cons head rest ih =>
    change (after (perform runes) (perform runes s head).2 rest).registry.shape = _
    rw [ih, performPools]
    rfl

theorem poolsFrame {m : Map PoolKey (Map String Bool)} {calls : List Call} {key : PoolKey}
    (absent : key ∉ (reconciled calls).map (·.1)) (kept : ∀ desired, .prune desired ∈ calls → key ∈ desired) :
    (calls.foldl poolStep m).get key = m.get key := by
  induction calls generalizing m with
  | nil => rfl
  | cons call rest ih =>
    have keptLater : ∀ desired, .prune desired ∈ rest → key ∈ desired :=
      fun desired member => kept desired (List.mem_cons_of_mem _ member)
    rw [List.foldl_cons]
    cases call with
    | reconcile k endpoints health opts =>
      have split : key ≠ k ∧ key ∉ (reconciled rest).map (·.1) := by
        simpa [reconciled,Call.pool?] using absent
      rw [ih split.2 keptLater]
      exact Map.getInsertOther _ _ split.1
    | prune desired =>
      rw [ih absent keptLater, poolStep, Map.getKeep, if_pos (by simpa using kept desired (by simp))]
    | plan routeID cfg => exact ih absent keptLater
    | outlier k endpoints cfg => exact ih absent keptLater

theorem poolsReconciled {m : Map PoolKey (Map String Bool)} {calls : List Call} (tidy : Tidy calls)
    {p : PoolKey × List String} (member : p ∈ reconciled calls) :
    (calls.foldl poolStep m).get p.1 = some (reconcileShape ((m.get p.1).getD Map.empty) p.2) := by
  induction calls generalizing m with
  | nil => simp [reconciled] at member
  | cons call rest ih =>
    have tail : Tidy rest := tidy.sublist (List.sublist_cons_self ..)
    rw [List.foldl_cons]
    cases call with
    | reconcile k endpoints health opts =>
      have distinct : k ∉ (reconciled rest).map (·.1) ∧ _ := List.nodup_cons.mp tidy.pools
      rcases List.mem_cons.mp member with rfl | later
      · -- the key is written here and, by tidiness, neither rewritten nor pruned later
        rw [poolsFrame distinct.1 (fun desired inside =>
          tidy.kept desired (List.mem_cons_of_mem _ inside) (k,endpoints) (by simp [reconciled,Call.pool?]))]
        exact Map.getInsertSame _ _ _
      · have other : p.1 ≠ k := fun same => distinct.1 (List.mem_map.mpr ⟨p,later,same⟩)
        rw [ih tail later, poolStep, Map.getInsertOther _ _ other]
    | prune desired =>
      have inside : p.1 ∈ desired := tidy.kept desired (by simp) p member
      rw [ih tail member, poolStep, Map.getKeep, if_pos (by simpa using inside)]
    | plan routeID cfg => exact ih tail member
    | outlier k endpoints cfg => exact ih tail member

theorem poolsPruned {m : Map PoolKey (Map String Bool)} {calls : List Call} {desired : List PoolKey} {key : PoolKey}
    (absent : key ∉ (reconciled calls).map (·.1)) (member : .prune desired ∈ calls) (outside : key ∉ desired) :
    (calls.foldl poolStep m).get key = none := by
  have gone : ∀ (rest : List Call) (n : Map PoolKey (Map String Bool)),
      key ∉ (reconciled rest).map (·.1) → n.get key = none → (rest.foldl poolStep n).get key = none := by
    intro rest
    induction rest with
    | nil => exact fun _ _ none => none
    | cons call rest ih =>
      intro n absent none
      rw [List.foldl_cons]
      cases call with
      | reconcile k endpoints health opts =>
        have split : key ≠ k ∧ key ∉ (reconciled rest).map (·.1) := by
          simpa [reconciled,Call.pool?] using absent
        exact ih _ split.2 (by rw [poolStep, Map.getInsertOther _ _ split.1, none])
      | prune wanted => exact ih _ absent (by rw [poolStep, Map.getKeep, none, ite_self])
      | plan routeID cfg => exact ih _ absent none
      | outlier k endpoints cfg => exact ih _ absent none
  obtain ⟨before,rest,rfl⟩ := List.append_of_mem member
  rw [List.foldl_append, List.foldl_cons]
  apply gone
  · intro inside
    apply absent
    rw [reconciled, List.filterMap_append, List.map_append]
    exact List.mem_append_right _ inside
  · rw [poolStep, Map.getKeep, if_neg (by simpa using outside)]

theorem poolsQuiet {m : Map PoolKey (Map String Bool)} {calls : List Call} (idle : PoolsIdle m calls) :
    calls.foldl poolStep m = m := by
  induction calls with
  | nil => rfl
  | cons call rest ih =>
    have first : poolStep m call = m := by
      cases call with
      | reconcile key endpoints health opts =>
        obtain ⟨shape,found,settled⟩ := idle.1 (key,endpoints) (by simp [reconciled,Call.pool?])
        rw [poolStep, Map.insertSameValue, found, Option.getD_some, reconcileShapeSame.mpr settled]
      | prune desired =>
        apply Map.ext
        intro key
        rw [poolStep, Map.getKeep]
        split
        · rfl
        · rename_i outside
          cases found : m.get key with
          | none => rfl
          | some shape =>
            have inside := idle.2 desired (by simp) key (by simp [found])
            exact absurd (by simpa using inside) outside
      | plan routeID cfg => rfl
      | outlier key endpoints cfg => rfl
    rw [List.foldl_cons, first]
    refine ih ⟨?_,fun desired member => idle.2 desired (List.mem_cons_of_mem _ member)⟩
    intro p member
    exact idle.1 p (((List.sublist_cons_self call rest).filterMap _).subset member)

theorem poolsUnchanged {m : Map PoolKey (Map String Bool)} {calls : List Call} (tidy : Tidy calls) :
    calls.foldl poolStep m = m ↔ PoolsIdle m calls := by
  refine ⟨?_,poolsQuiet⟩
  intro same
  refine ⟨?_,?_⟩
  · intro p member
    have written := poolsReconciled (m := m) tidy member
    rw [same] at written
    cases found : m.get p.1 with
    | none => simp [found] at written
    | some shape =>
      rw [found, Option.getD_some] at written
      exact ⟨shape,rfl,reconcileShapeSame.mp (Option.some.inj written).symm⟩
  · intro desired member key present
    apply Decidable.byContradiction
    intro outside
    have absent : key ∉ (reconciled calls).map (·.1) := by
      intro inside
      obtain ⟨p,listed,rfl⟩ := List.mem_map.mp inside
      exact outside (tidy.kept desired member p listed)
    have gone := poolsPruned (m := m) absent member outside
    rw [same] at gone
    simp [gone] at present

def WatchIdle (m : Map String (Outlier × (String → Bool))) (calls : List Call) : Prop :=
  ∀ key v, Map.lastWrite (calls.filterMap Call.watch?) key = some v → m.get key = some v

theorem afterWatched (runes : RuneTables) (s : Registries) (timed : List (Int × Call))
    (named : ∀ key endpoints cfg, .outlier key endpoints cfg ∈ timed.map (·.2) → key ≠ "") :
    (after (perform runes) s timed).outlier.watched =
      s.outlier.watched.writes ((timed.map (·.2)).filterMap Call.watch?) := by
  induction timed generalizing s with
  | nil => rfl
  | cons head rest ih =>
    obtain ⟨now,call⟩ := head
    have later : ∀ key endpoints cfg, .outlier key endpoints cfg ∈ rest.map (·.2) → key ≠ "" :=
      fun key endpoints cfg member => named key endpoints cfg (List.mem_cons_of_mem _ member)
    change (after (perform runes) (perform runes s (now,call)).2 rest).outlier.watched = _
    rw [ih _ later]
    cases call with
    | outlier key endpoints cfg =>
      have stored := s.outlier.reconcileWatched endpoints cfg now (named key endpoints cfg (by simp))
      change (s.outlier.reconcile key endpoints cfg now).watched.writes _ = _
      rw [stored]
      rfl
    | _ => rfl

def callFails (runes : RuneTables) (assigned : Assigned) : Call → Bool
  | .plan routeID cfg => decide (routeID = "") || (!decide (Holds assigned routeID cfg) && rejects runes cfg)
  | _ => false

theorem fullFails (runes : RuneTables) (assigned : Assigned) (order : List (String × ConfigData.Pool)) (names : List String)
    (later : List Call) :
    (order.map poolCall ++ .prune names :: later).any (callFails runes assigned) = later.any (callFails runes assigned) := by
  have pools : (order.map poolCall).any (callFails runes assigned) = false := by
    rw [List.any_eq_false]
    intro call member
    obtain ⟨e,-,rfl⟩ := List.mem_map.mp member
    exact Bool.false_ne_true
  rw [List.any_append,List.any_cons,pools]
  rfl

/- A Plan call that writes nothing: the plan is the live one, or the call fails
and there is no running loop for it to close on the way. -/
def PlanIdle (runes : RuneTables) (assigned : Assigned) (loops : Map Nat Bool) (p : String × Traffic) : Prop :=
  Holds assigned p.1 p.2 ∨ p.1 = "" ∨ (rejects runes p.2 = true ∧ loopRuns assigned loops p.1 = false)

section
variable {runes : RuneTables} {s : Registries}

theorem performFails (now : Int) (call : Call) :
    (perform runes s (now,call)).1.toOption.isNone = callFails runes s.traffic.assigned call := by
  cases call with
  | plan routeID cfg =>
    change ((s.traffic.plan runes routeID cfg now).1.map _).toOption.isNone = _
    unfold callFails
    by_cases unnamed : routeID = ""
    · rw [s.traffic.planUnnamed runes routeID cfg now unnamed]
      simp [unnamed,Except.map,Except.toOption]
    · by_cases live : Holds s.traffic.assigned routeID cfg
      · obtain ⟨id,t,answer,-,-⟩ := s.traffic.planHolds runes routeID cfg now live
        simp [answer,unnamed,live,Except.map,Except.toOption]
      · rw [s.traffic.planReplaces runes routeID cfg now unnamed live]
        cases bad : rejects runes cfg with
        | true =>
          obtain ⟨e,answer⟩ := s.traffic.replaceRejected runes routeID cfg now bad
          simp [answer,live,bad,Except.map,Except.toOption]
        | false =>
          obtain ⟨id,t,answer,-⟩ := s.traffic.replaceStored runes routeID cfg now bad
          simp [answer,unnamed,bad,Except.map,Except.toOption]
  | _ => rfl

theorem performOther {now : Int} {call : Call} {id : String} (other : ∀ p, call.route? = some p → p.1 ≠ id) :
    (perform runes s (now,call)).2.traffic.assigned.get id = s.traffic.assigned.get id := by
  cases call with
  | plan routeID cfg =>
    have different : id ≠ routeID := fun same => other (routeID,cfg) rfl same.symm
    change (s.traffic.plan runes routeID cfg now).2.assigned.get id = _
    by_cases unnamed : routeID = ""
    · rw [s.traffic.planUnnamed runes routeID cfg now unnamed]
    · by_cases live : Holds s.traffic.assigned routeID cfg
      · obtain ⟨plan,t,answer,same,-⟩ := s.traffic.planHolds runes routeID cfg now live
        rw [answer, same]
      · rw [s.traffic.planReplaces runes routeID cfg now unnamed live]
        cases bad : rejects runes cfg with
        | true =>
          obtain ⟨e,answer⟩ := s.traffic.replaceRejected runes routeID cfg now bad
          rw [answer, TrafficRegistry.Registry.stopPlanAssigned]
        | false =>
          obtain ⟨plan,t,answer,stored⟩ := s.traffic.replaceStored runes routeID cfg now bad
          rw [answer, stored, Map.getInsertOther _ _ different]
  | _ => rfl

theorem performPlanned {now : Int} {routeID : String} {cfg : Traffic}
    (ok : callFails runes s.traffic.assigned (.plan routeID cfg) = false) :
    Holds (perform runes s (now,.plan routeID cfg)).2.traffic.assigned routeID cfg := by
  change Holds (s.traffic.plan runes routeID cfg now).2.assigned routeID cfg
  have named : routeID ≠ "" := by
    intro unnamed
    simp [callFails,unnamed] at ok
  by_cases live : Holds s.traffic.assigned routeID cfg
  · obtain ⟨plan,t,answer,same,-⟩ := s.traffic.planHolds runes routeID cfg now live
    rw [answer, same]
    exact live
  · have good : rejects runes cfg = false := by simpa [callFails,named,live] using ok
    rw [s.traffic.planReplaces runes routeID cfg now named live]
    obtain ⟨plan,t,answer,stored⟩ := s.traffic.replaceStored runes routeID cfg now good
    rw [answer, stored]
    exact ⟨named,by rw [Map.getInsertSame]; rfl⟩

theorem holdsCongr {a b : Assigned} {routeID : String} {cfg : Traffic} (same : a.get routeID = b.get routeID) :
    Holds a routeID cfg ↔ Holds b routeID cfg := by
  unfold Holds
  rw [same]

theorem callFailsCongr {a b : Assigned} {call : Call}
    (same : ∀ p, call.route? = some p → a.get p.1 = b.get p.1) :
    callFails runes a call = callFails runes b call := by
  cases call with
  | plan routeID cfg =>
    have h := @holdsCongr a b routeID cfg (same (routeID,cfg) rfl)
    simp only [callFails, h]
  | _ => rfl

theorem planIdleQuiet {call : Call} {now : Int}
    (idle : ∀ p, call.route? = some p → PlanIdle runes s.traffic.assigned s.traffic.loops p) :
    (perform runes s (now,call)).2.traffic.assigned = s.traffic.assigned ∧
    (perform runes s (now,call)).2.traffic.loops = s.traffic.loops := by
  cases call with
  | plan routeID cfg =>
    change (s.traffic.plan runes routeID cfg now).2.assigned = _ ∧
      (s.traffic.plan runes routeID cfg now).2.loops = _
    by_cases unnamed : routeID = ""
    · rw [s.traffic.planUnnamed runes routeID cfg now unnamed]
      exact ⟨rfl,rfl⟩
    · by_cases live : Holds s.traffic.assigned routeID cfg
      · obtain ⟨plan,t,answer,same,loops⟩ := s.traffic.planHolds runes routeID cfg now live
        rw [answer]
        exact ⟨same,loops⟩
      · rcases idle (routeID,cfg) rfl with held | empty | ⟨bad,stopped⟩
        · exact absurd held live
        · exact absurd empty unnamed
        · obtain ⟨e,answer⟩ := s.traffic.replaceRejected runes routeID cfg now bad
          rw [s.traffic.planReplaces runes routeID cfg now unnamed live, answer]
          refine ⟨s.traffic.stopPlanAssigned _,(s.traffic.stopPlanLoops _).mpr ?_⟩
          simpa [loopRuns,s.traffic.assignedGet,Option.bind_map,Function.comp_def] using stopped
  | _ => exact ⟨rfl,rfl⟩

theorem plansQuiet {timed : List (Int × Call)}
    (idle : ∀ p ∈ planned (timed.map (·.2)), PlanIdle runes s.traffic.assigned s.traffic.loops p) :
    (after (perform runes) s timed).traffic.assigned = s.traffic.assigned ∧
    (after (perform runes) s timed).traffic.loops = s.traffic.loops := by
  induction timed generalizing s with
  | nil => exact ⟨rfl,rfl⟩
  | cons head rest ih =>
    obtain ⟨now,call⟩ := head
    have first := @planIdleQuiet runes s call now
      (fun p found => idle p (List.mem_filterMap.mpr ⟨call,by simp,found⟩))
    have later := ih (s := (perform runes s (now,call)).2) (by
      rw [first.1, first.2]
      intro p member
      exact idle p (((List.sublist_cons_self ..).filterMap _).subset member))
    exact ⟨later.1.trans first.1,later.2.trans first.2⟩

theorem assignedFrame {timed : List (Int × Call)} {id : String}
    (absent : id ∉ (planned (timed.map (·.2))).map (·.1)) :
    (after (perform runes) s timed).traffic.assigned.get id = s.traffic.assigned.get id := by
  induction timed generalizing s with
  | nil => rfl
  | cons head rest ih =>
    obtain ⟨now,call⟩ := head
    have rest_ : id ∉ (planned (rest.map (·.2))).map (·.1) := fun member =>
      absent ((((List.sublist_cons_self ..).filterMap _).map _).subset member)
    change (after (perform runes) (perform runes s (now,call)).2 rest).traffic.assigned.get id = _
    rw [ih rest_]
    apply performOther
    intro p found same
    exact absent (List.mem_map.mpr ⟨p,List.mem_filterMap.mpr ⟨call,by simp,found⟩,same⟩)

theorem assignedPlanned {timed : List (Int × Call)} {p : String × Traffic}
    (distinct : ((planned (timed.map (·.2))).map (·.1)).Nodup) (member : p ∈ planned (timed.map (·.2)))
    (ok : callFails runes s.traffic.assigned (.plan p.1 p.2) = false) :
    Holds (after (perform runes) s timed).traffic.assigned p.1 p.2 := by
  induction timed generalizing s with
  | nil => simp [planned] at member
  | cons head rest ih =>
    obtain ⟨now,call⟩ := head
    change Holds (after (perform runes) (perform runes s (now,call)).2 rest).traffic.assigned p.1 p.2
    cases found : call.route? with
    | none =>
      have plans : planned (((now,call) :: rest).map (·.2)) = planned (rest.map (·.2)) :=
        List.filterMap_cons_none found
      rw [plans] at distinct member
      refine ih distinct member ?_
      rw [← ok]
      exact callFailsCongr (fun q same => performOther (fun r own => by rw [found] at own; cases own))
    | some q =>
      have plans : planned (((now,call) :: rest).map (·.2)) = q :: planned (rest.map (·.2)) :=
        List.filterMap_cons_some found
      rw [plans] at distinct member
      obtain ⟨fresh,others⟩ := List.nodup_cons.mp distinct
      rcases List.mem_cons.mp member with rfl | later
      · rw [holdsCongr (assignedFrame fresh), Call.routeShape found]
        exact performPlanned ok
      · refine ih others later ?_
        rw [← ok]
        refine callFailsCongr (fun r same => performOther (fun own mine clash => ?_))
        cases same
        rw [found] at mine
        cases mine
        exact fresh (List.mem_map.mpr ⟨p,later,clash.symm⟩)

theorem laterFails {now : Int} {call : Call} {rest : List (Int × Call)}
    (distinct : ((planned (((now,call) :: rest).map (·.2))).map (·.1)).Nodup) :
    ∀ later ∈ rest.map (·.2), callFails runes (perform runes s (now,call)).2.traffic.assigned later =
      callFails runes s.traffic.assigned later := by
  intro later member
  refine callFailsCongr (fun p found => performOther ?_)
  intro q own clash
  have plans : planned (((now,call) :: rest).map (·.2)) = q :: planned (rest.map (·.2)) :=
    List.filterMap_cons_some own
  rw [plans] at distinct
  exact (List.nodup_cons.mp distinct).1
    (List.mem_map.mpr ⟨p,List.mem_filterMap.mpr ⟨later,member,found⟩,clash.symm⟩)

theorem reachedCalls {timed : List (Int × Call)} (distinct : ((planned (timed.map (·.2))).map (·.1)).Nodup) :
    (reached (perform runes) s timed).map (·.2) =
      through (callFails runes s.traffic.assigned) (timed.map (·.2)) := by
  induction timed generalizing s with
  | nil => rfl
  | cons head rest ih =>
    obtain ⟨now,call⟩ := head
    have fails := @performFails runes s now call
    have same := @laterFails runes s now call rest distinct
    have others : ((planned (rest.map (·.2))).map (·.1)).Nodup :=
      (((List.sublist_cons_self ..).filterMap _).map _).nodup distinct
    rw [List.map_cons, through]
    unfold reached
    cases answer : perform runes s (now,call) with
    | mk reply t =>
      rw [answer] at fails same
      cases reply with
      | error e => rw [if_pos (by simpa [Except.toOption] using fails.symm)]; rfl
      | ok r =>
        have goesOn : callFails runes s.traffic.assigned call = false := by
          simpa [Except.toOption] using fails.symm
        rw [goesOn, if_neg Bool.false_ne_true, List.map_cons, ih others, throughCongr same]

theorem runFails {timed : List (Int × Call)} (distinct : ((planned (timed.map (·.2))).map (·.1)).Nodup) :
    (run (perform runes) s timed).1.toOption.isNone = (timed.map (·.2)).any (callFails runes s.traffic.assigned) := by
  induction timed generalizing s with
  | nil => rfl
  | cons head rest ih =>
    obtain ⟨now,call⟩ := head
    have fails := @performFails runes s now call
    have same := @laterFails runes s now call rest distinct
    have others : ((planned (rest.map (·.2))).map (·.1)).Nodup :=
      (((List.sublist_cons_self ..).filterMap _).map _).nodup distinct
    rw [List.map_cons, List.any_cons, ← fails]
    unfold run
    cases answer : perform runes s (now,call) with
    | mk reply t =>
      rw [answer] at same
      cases reply with
      | error e => rfl
      | ok r =>
        have tail : (run (perform runes) t rest).1.toOption.isNone =
            (rest.map (·.2)).any (callFails runes s.traffic.assigned) := by
          rw [ih others, Bool.eq_iff_iff, List.any_eq_true, List.any_eq_true]
          exact exists_congr fun d => and_congr_right fun member => by rw [same d member]
        rw [← tail]
        cases later : run (perform runes) t rest with
        | mk replies u => cases replies <;> simp [later,Except.toOption]

/- The call that fails is the last one reached; the calls before it left the
plans alone, so the loop it would close is one that ran before the build. -/
theorem failedIdle {all before : List (Int × Call)} {init : List Call} {now : Int} {p : String × Traffic}
    (split : all = before ++ [(now,.plan p.1 p.2)]) (same : before.map (·.2) = init)
    (quiet : ∀ d ∈ init, callFails runes s.traffic.assigned d = false)
    (succeeded : ∀ q ∈ planned (all.map (·.2)),
      callFails runes s.traffic.assigned (.plan q.1 q.2) = false → Holds s.traffic.assigned q.1 q.2)
    (fails : callFails runes s.traffic.assigned (.plan p.1 p.2) = true)
    (loops : (after (perform runes) s all).traffic.loops = s.traffic.loops) :
    PlanIdle runes s.traffic.assigned s.traffic.loops p := by
  have earlier := @plansQuiet runes s before (by
    intro q member
    obtain ⟨call,inside,found⟩ := List.mem_filterMap.mp member
    cases Call.routeShape found
    refine .inl (succeeded q ?_ (quiet _ (same ▸ inside)))
    rw [split, List.map_append]
    exact ((List.sublist_append_left ..).filterMap _).subset member)
  rw [split, afterLast] at loops
  by_cases unnamed : p.1 = ""
  · exact .inr (.inl unnamed)
  · have replaced : ¬Holds s.traffic.assigned p.1 p.2 ∧ rejects runes p.2 = true := by
      simpa [callFails,unnamed] using fails
    refine .inr (.inr ⟨replaced.2,?_⟩)
    generalize after (perform runes) s before = t at earlier loops
    rw [← earlier.1] at replaced
    obtain ⟨e,answer⟩ := t.traffic.replaceRejected runes p.1 p.2 now replaced.2
    change (t.traffic.plan runes p.1 p.2 now).2.loops = _ at loops
    rw [t.traffic.planReplaces runes p.1 p.2 now unnamed replaced.1, answer, ← earlier.2] at loops
    have stopped := (t.traffic.stopPlanLoops _).mp loops
    rw [← earlier.1, ← earlier.2]
    simpa [loopRuns,t.traffic.assignedGet,Option.bind_map,Function.comp_def] using stopped

theorem plansUnchanged {timed : List (Int × Call)} (distinct : ((planned (timed.map (·.2))).map (·.1)).Nodup) :
    ((run (perform runes) s timed).2.traffic.assigned = s.traffic.assigned ∧
      (run (perform runes) s timed).2.traffic.loops = s.traffic.loops) ↔
    ∀ p ∈ planned (through (callFails runes s.traffic.assigned) (timed.map (·.2))),
      PlanIdle runes s.traffic.assigned s.traffic.loops p := by
  have calls := @reachedCalls runes s timed distinct
  have apart : ((planned ((reached (perform runes) s timed).map (·.2))).map (·.1)).Nodup := by
    rw [calls]
    exact (((throughSublist _ _).filterMap _).map _).nodup distinct
  rw [runState, ← calls]
  constructor
  · rintro ⟨assigned,loops⟩
    -- a call that does not fail leaves its config behind, so it found it there
    have succeeded : ∀ p ∈ planned ((reached (perform runes) s timed).map (·.2)),
        callFails runes s.traffic.assigned (.plan p.1 p.2) = false → Holds s.traffic.assigned p.1 p.2 := by
      intro p member ok
      have held := assignedPlanned apart member ok
      rwa [assigned] at held
    intro p member
    cases fails : callFails runes s.traffic.assigned (.plan p.1 p.2) with
    | false => exact .inl (succeeded p member fails)
    | true =>
      obtain ⟨call,inside,found⟩ := List.mem_filterMap.mp member
      cases Call.routeShape found
      obtain ⟨init,whole,quiet⟩ := throughLast (calls ▸ inside) fails
      obtain ⟨before,last,split,same,final⟩ := List.map_eq_append_iff.mp (calls.trans whole)
      obtain ⟨⟨now,call⟩,rfl,shape⟩ := List.map_eq_singleton_iff.mp final
      cases shape
      exact failedIdle split same quiet (fun q listed => succeeded q listed) fails loops
  · exact plansQuiet

structure Idle (runes : RuneTables) (v : View) (calls : List Call) : Prop where
  pools : PoolsIdle v.pools calls
  plans : ∀ p ∈ planned calls, PlanIdle runes v.assigned v.loops p
  watched : WatchIdle v.watched calls

def reachedFrom (runes : RuneTables) (v : View) (calls : List Call) : List Call :=
  through (callFails runes v.assigned) calls

theorem unchangedIff {timed : List (Int × Call)} (tidy : Tidy (timed.map (·.2))) :
    view (run (perform runes) s timed).2 = view s ↔
      Idle runes (view s) (reachedFrom runes (view s) (timed.map (·.2))) := by
  have calls := @reachedCalls runes s timed tidy.routes
  have short : Tidy (reachedFrom runes (view s) (timed.map (·.2))) := tidy.sublist (throughSublist _ _)
  have pools : (run (perform runes) s timed).2.registry.shape = s.registry.shape ↔
      PoolsIdle s.registry.shape (reachedFrom runes (view s) (timed.map (·.2))) := by
    rw [runState, afterPools, calls]
    exact poolsUnchanged short
  have watched : (run (perform runes) s timed).2.outlier.watched = s.outlier.watched ↔
      WatchIdle s.outlier.watched (reachedFrom runes (view s) (timed.map (·.2))) := by
    rw [runState, afterWatched runes s _ (by rw [calls]; exact short.named), calls]
    exact Map.writesUnchanged
  have plans := @plansUnchanged runes s timed tidy.routes
  constructor
  · intro same
    exact ⟨pools.mp (congrArg View.pools same),
      plans.mp ⟨congrArg View.assigned same,congrArg View.loops same⟩,
      watched.mp (congrArg View.watched same)⟩
  · intro idle
    have traffic := plans.mpr idle.plans
    unfold view
    rw [pools.mpr idle.pools, traffic.1, traffic.2, watched.mpr idle.watched]

end

end ReverseProxy.RegistryEffect
