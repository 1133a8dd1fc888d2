import ReverseProxy.ServingPools

/-! A pool over its life: reconciles with any lists, reaps, reports about its endpoints
and picks, in any order. The list of the last reconcile decides who belongs to the pool;
everybody else drains, and only those who drain are ever taken out. -/
namespace ReverseProxy.PoolMembership
open GoValues FiniteMap PoolRegistry
open ControlPlane (Report)
open PolicyBuild (Health)
open ServingPools (pickFromSome updateDraining)

inductive Operation where
  | reconcile (endpoints : List String) (cfg : Health) (drainTimeout : Duration) (now : Int)
  | reap (now : Int)
  | report (addr : String) (r : Report)
  | pick (scan : List String) (outlierEjected : String → Bool) (now : Int)

def Operation.reconciles : Operation → Bool
  | .reconcile .. => true
  | _ => false

def operate (p : PoolRuntime) : Operation → PoolRuntime
  | .reconcile endpoints cfg drainTimeout now => p.reconcile endpoints cfg drainTimeout now
  | .reap now => p.reap now
  | .report addr r => { p with endpoints := p.endpoints.adjust addr r.update }
  | .pick scan outlierEjected now => (p.pick scan outlierEjected now).2

def live (p : PoolRuntime) (operations : List Operation) : PoolRuntime := operations.foldl operate p

structure Sheds (p q : PoolRuntime) : Prop where
  order : q.order = p.order
  shape : ∀ addr, q.shape.get addr = p.shape.get addr ∨ (p.shape.get addr = some true ∧ q.shape.get addr = none)

theorem Sheds.refl (p : PoolRuntime) : Sheds p p := ⟨rfl,fun _ => .inl rfl⟩

theorem Sheds.settled {p q : PoolRuntime} (sheds : Sheds p q) {endpoints : List String}
    (settled : Settled p.shape endpoints) : Settled q.shape endpoints := by
  constructor
  · intro addr listed
    have active := settled.1 addr listed
    rcases sheds.shape addr with same | ⟨draining,-⟩
    · exact same.trans active
    · cases active.symm.trans draining
  · intro addr unlisted active
    rcases sheds.shape addr with same | ⟨-,gone⟩
    · exact settled.2 addr unlisted (same.symm.trans active)
    · cases gone.symm.trans active

def reapable (now : Int) (e : EndpointRuntime) : Bool := e.isDraining && e.drainDeadlineReached now && e.inflight == 0

theorem getReap (p : PoolRuntime) (now : Int) (addr : String) :
    (p.reap now).endpoints.get addr = (p.endpoints.get addr).filter (fun e => !reapable now e) := by
  change (p.reap now).endpoints addr = _
  unfold PoolRuntime.reap
  dsimp only
  cases p.endpoints.get addr with
  | none => rfl
  | some e =>
    change (if reapable now e then none else some e) = _
    cases removed : reapable now e <;> simp [Option.filter,removed]

theorem reapSheds (p : PoolRuntime) (now : Int) : Sheds p (p.reap now) := by
  refine ⟨rfl,fun addr => ?_⟩
  simp only [PoolRuntime.shape, Map.getMapValues, getReap]
  cases found : p.endpoints.get addr with
  | none => exact .inl rfl
  | some e =>
    cases removed : reapable now e with
    | false => exact .inl (by simp [Option.filter,removed])
    | true =>
      have draining : e.isDraining = true := by
        simp only [reapable, Bool.and_eq_true] at removed
        exact removed.1.1
      exact .inr ⟨congrArg some draining,by simp [Option.filter,removed]⟩

theorem adjustSheds (p : PoolRuntime) (addr : String) {f : EndpointRuntime → EndpointRuntime}
    (same : ∀ e, (f e).isDraining = e.isDraining) : Sheds p { p with endpoints := p.endpoints.adjust addr f } := by
  refine ⟨rfl,fun a => .inl ?_⟩
  simp only [PoolRuntime.shape, Map.getMapValues, Map.getAdjust]
  split
  · cases p.endpoints.get a <;> simp [same]
  · rfl

theorem markSeenSheds (p : PoolRuntime) (addr : String) (now : Int) : Sheds p (p.markSeen addr now) := by
  refine ⟨rfl,fun a => .inl ?_⟩
  simp only [PoolRuntime.shape, Map.getMapValues, PoolRuntime.markSeen]
  cases seen : p.endpoints.get addr with
  | none => rfl
  | some e =>
    simp only [Map.getInsert]
    split
    · rename_i own
      rw [own, seen]
      rfl
    · rfl

theorem pickSheds (p : PoolRuntime) (scan : List String) (outlierEjected : String → Bool) (now : Int) :
    Sheds p (p.pick scan outlierEjected now).2 := by
  unfold PoolRuntime.pick
  dsimp only
  split
  · cases p.pickFrom _ with
    | none => exact .refl p
    | some picked => exact markSeenSheds p picked.1 now
  · cases p.pickFrom _ with
    | none => exact .refl p
    | some picked => exact markSeenSheds p picked.1 now

theorem operateSheds (p : PoolRuntime) {operation : Operation} (other : operation.reconciles = false) :
    Sheds p (operate p operation) := by
  cases operation with
  | reconcile => cases other
  | reap now => exact reapSheds p now
  | report addr r => exact adjustSheds p addr (updateDraining r)
  | pick scan outlierEjected now => exact pickSheds p scan outlierEjected now

structure Holds (endpoints : List String) (p : PoolRuntime) : Prop where
  order : p.order = endpoints
  settled : Settled p.shape endpoints

theorem reconcileHolds (p : PoolRuntime) (endpoints : List String) (cfg : Health) (drainTimeout : Duration) (now : Int) :
    Holds endpoints (p.reconcile endpoints cfg drainTimeout now) := by
  refine ⟨rfl,?_⟩
  rw [reconciledShape]
  exact reconcileSettles p.shape endpoints

theorem liveHolds {endpoints : List String} {p : PoolRuntime} (holds : Holds endpoints p) {operations : List Operation}
    (others : ∀ operation ∈ operations, operation.reconciles = false) : Holds endpoints (live p operations) := by
  induction operations generalizing p with
  | nil => exact holds
  | cons operation rest ih =>
    have sheds := operateSheds p (others operation List.mem_cons_self)
    have next : Holds endpoints (operate p operation) := ⟨sheds.order.trans holds.order,sheds.settled holds.settled⟩
    exact ih next (fun later inside => others later (List.mem_cons_of_mem operation inside))

section
variable {endpoints : List String} {p : PoolRuntime} (holds : Holds endpoints p)

include holds

theorem Holds.present {addr : String} (listed : addr ∈ endpoints) :
    ∃ e, p.endpoints.get addr = some e ∧ e.isDraining = false :=
  Option.map_eq_some_iff.mp (holds.settled.1 addr listed)

theorem Holds.others {addr : String} (unlisted : addr ∉ endpoints) {e : EndpointRuntime}
    (found : p.endpoints.get addr = some e) : e.isDraining = true := by
  have active := holds.settled.2 addr unlisted
  simp only [PoolRuntime.shape, Map.getMapValues, found, Option.map_some] at active
  cases draining : e.isDraining with
  | true => rfl
  | false => exact absurd (congrArg some draining) active

theorem Holds.reaped {addr : String} (listed : addr ∈ endpoints) (now : Int) :
    (p.reap now).endpoints.get addr = p.endpoints.get addr := by
  obtain ⟨e,found,active⟩ := holds.present listed
  rw [getReap, found]
  simp [Option.filter,reapable,active]

theorem Holds.candidates (some_ : endpoints ≠ []) (scan : List String) (x : String × EndpointRuntime) :
    x ∈ p.candidates scan ↔ x.1 ∈ endpoints ∧ p.endpoints.get x.1 = some x.2 := by
  have ordered : x ∈ p.order.filterMap (fun addr => (p.endpoints.get addr).map (addr,·)) ↔
      x.1 ∈ endpoints ∧ p.endpoints.get x.1 = some x.2 := by
    rw [holds.order, List.mem_filterMap]
    constructor
    · rintro ⟨addr,listed,found⟩
      obtain ⟨e,there,rfl⟩ := Option.map_eq_some_iff.mp found
      exact ⟨listed,there⟩
    · rintro ⟨listed,found⟩
      exact ⟨x.1,listed,by rw [found]; rfl⟩
  obtain ⟨addr,listed⟩ := List.exists_mem_of_ne_nil endpoints some_
  obtain ⟨e,found,-⟩ := holds.present listed
  have inhabited : p.order.filterMap (fun addr => (p.endpoints.get addr).map (addr,·)) ≠ [] := by
    rw [holds.order]
    exact List.ne_nil_of_mem (List.mem_filterMap.mpr ⟨addr,listed,by rw [found]; rfl⟩)
  unfold PoolRuntime.candidates
  rw [if_neg inhabited]
  exact ordered

end

def Fit (p : PoolRuntime) (outlierEjected : String → Bool) (now : Int) (addr : String) : Prop :=
  ∃ e, p.endpoints.get addr = some e ∧ e.isHealthy = true ∧ e.isEjected now = false ∧ outlierEjected addr = false

theorem eligibleFit {p : PoolRuntime} {outlierEjected : String → Bool} {now : Int} {x : String × EndpointRuntime}
    (found : p.endpoints.get x.1 = some x.2) (eligible : PoolRuntime.eligible outlierEjected now x = true) :
    Fit p outlierEjected now x.1 := by
  simp only [PoolRuntime.eligible, Bool.and_eq_true, Bool.not_eq_true'] at eligible
  obtain ⟨⟨⟨healthy,-⟩,settled⟩,inlier⟩ := eligible
  exact ⟨x.2,found,healthy,settled,inlier⟩

theorem fitEligible {outlierEjected : String → Bool} {now : Int} {addr : String} {e : EndpointRuntime}
    (healthy : e.isHealthy = true) (settled : e.isEjected now = false) (inlier : outlierEjected addr = false) :
    PoolRuntime.eligible outlierEjected now (addr,e) = true := by
  have active : e.isDraining = false := by
    simp only [EndpointRuntime.isHealthy, decide_eq_true_eq] at healthy
    simp [EndpointRuntime.isDraining,healthy]
  simp [PoolRuntime.eligible,healthy,active,settled,inlier]

theorem Holds.picks {endpoints : List String} {p : PoolRuntime} (holds : Holds endpoints p) (some_ : endpoints ≠ [])
    (scan : List String) (outlierEjected : String → Bool) (now : Int) :
    (p.pick scan outlierEjected now).1.addr ∈ endpoints ∧
    ((∃ addr ∈ endpoints, Fit p outlierEjected now addr) →
      (p.pick scan outlierEjected now).1.selectedHealthy = true ∧
        Fit p outlierEjected now (p.pick scan outlierEjected now).1.addr) := by
  have listed := holds.candidates some_ scan
  unfold PoolRuntime.pick
  dsimp only
  by_cases healthy : (p.candidates scan).filter (PoolRuntime.eligible outlierEjected now) = []
  · rw [if_neg (not_not_intro healthy)]
    constructor
    · obtain ⟨addr,member⟩ := List.exists_mem_of_ne_nil endpoints some_
      obtain ⟨e,found,active⟩ := holds.present member
      have open_ : (p.candidates scan).filter (fun e => !e.2.isDraining) ≠ [] :=
        List.ne_nil_of_mem (List.mem_filter.mpr ⟨(listed (addr,e)).mpr ⟨member,found⟩,by simp [active]⟩)
      rw [if_pos open_]
      obtain ⟨picked,inside,chosen⟩ := @pickFromSome p _ open_
      rw [chosen]
      exact ((listed picked).mp (List.mem_filter.mp inside).1).1
    · rintro ⟨addr,member,e,found,well,settled,inlier⟩
      have inside : (addr,e) ∈ (p.candidates scan).filter (PoolRuntime.eligible outlierEjected now) :=
        List.mem_filter.mpr ⟨(listed (addr,e)).mpr ⟨member,found⟩,fitEligible well settled inlier⟩
      rw [healthy] at inside
      cases inside
  · rw [if_pos healthy]
    obtain ⟨picked,inside,chosen⟩ := @pickFromSome p _ healthy
    obtain ⟨candidate,eligible⟩ := List.mem_filter.mp inside
    obtain ⟨member,found⟩ := (listed picked).mp candidate
    rw [chosen]
    exact ⟨member,fun _ => ⟨rfl,eligibleFit found eligible⟩⟩

theorem membersKept {start : PoolRuntime} {before after : List Operation} {endpoints : List String} {cfg : Health}
    {drainTimeout : Duration} {last : Int} {p : PoolRuntime} (others : ∀ operation ∈ after, operation.reconciles = false)
    (reached : p = live start (before ++ .reconcile endpoints cfg drainTimeout last :: after)) :
    (∀ addr ∈ endpoints, ∃ e, p.endpoints.get addr = some e ∧ e.isDraining = false) ∧
    (∀ addr e, addr ∉ endpoints → p.endpoints.get addr = some e → e.isDraining = true) ∧
    (∀ addr ∈ endpoints, ∀ now, (p.reap now).endpoints.get addr = p.endpoints.get addr) ∧
    (endpoints ≠ [] → ∀ scan outlierEjected now,
      (p.pick scan outlierEjected now).1.addr ∈ endpoints ∧
      ((∃ addr ∈ endpoints, Fit p outlierEjected now addr) →
        (p.pick scan outlierEjected now).1.selectedHealthy = true ∧
          Fit p outlierEjected now (p.pick scan outlierEjected now).1.addr)) := by
  have split : p = live ((live start before).reconcile endpoints cfg drainTimeout last) after := by
    rw [reached]
    unfold live
    rw [List.foldl_append, List.foldl_cons]
    rfl
  have holds : Holds endpoints p := split ▸ liveHolds (reconcileHolds _ endpoints cfg drainTimeout last) others
  exact ⟨fun addr listed => holds.present listed,fun addr e unlisted found => holds.others unlisted found,
    fun addr listed now => holds.reaped listed now,
    fun some_ scan outlierEjected now => holds.picks some_ scan outlierEjected now⟩

def strict : Health := ⟨"",0,0,1,1,0,0⟩

def wandering : List Operation :=
  [.reconcile ["a","b"] strict 10 1,.reconcile ["b"] strict 10 2]

def afterwards : List Operation :=
  [.report "b" (.passiveFailure 5),.reap 100,.pick [] (fun _ => false) 6]

theorem wandererPicked : ∃ p, p = live (.new strict 10) (wandering ++ .reconcile ["b","a","b"] strict 10 3 :: afterwards) ∧
    (∃ e, p.endpoints.get "a" = some e ∧ e.isDraining = false) ∧
    (p.pick [] (fun _ => false) 7).1.selectedHealthy = true ∧
    Fit p (fun _ => false) 7 (p.pick [] (fun _ => false) 7).1.addr := by
  have kept := membersKept (p := live (.new strict 10) (wandering ++ .reconcile ["b","a","b"] strict 10 3 :: afterwards))
    (by decide) rfl
  have fit : Fit (live (.new strict 10) (wandering ++ .reconcile ["b","a","b"] strict 10 3 :: afterwards)) (fun _ => false) 7 "a" :=
    ⟨_,rfl,rfl,rfl,rfl⟩
  exact ⟨_,rfl,kept.1 "a" (by decide),(kept.2.2.2 (by decide) [] (fun _ => false) 7).2 ⟨"a",by decide,fit⟩⟩

end ReverseProxy.PoolMembership
