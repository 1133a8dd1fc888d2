import ReverseProxy.RequestFlow
import ReverseProxy.Transition

/-! The half-open state of one breaker over whole runs of the handler. A slot is
taken when a request is let in and given back only where an attempt is reported, so
a probe that ends without a reported attempt keeps its slot for good. While every
probe is reported before it ends, an idle half-open breaker lets the next one in. -/
namespace ReverseProxy.BreakerLockout
open GoValues FiniteMap CacheKey RequestFlow Transition CircuitBreaker
open PolicyBuild (Breaker)

/- Let in as a half-open probe of breaker `k`, and not reported yet. -/
def holds (k : String) (p : Process) : Bool := p.probe && decide (p.exchange.breakerKey = k)

def debts (k : String) (s : Serving) : Nat := s.processes.countP (holds k)

def midway : Stage → Bool
  | .looking | .coalescing _ | .waiting _ _ | .trying _ _ => true
  | _ => false

/- retry.Execute goes round again after this failure. -/
def retried (x : Exchange) (attempts : Int) (a : Attempt) : Bool :=
  match a.outcome with
  | .failed err =>
    match classifyError err with
    | some reason => a.outerErr.isNone && decide (attempts < maxAttempts x) && x.allowRetry &&
        x.retry.retryOnErrors.contains reason && consumeBudgets x a && a.sleptThrough
    | none => false
  | _ => false

/- The event does not end the request unreported: no cache hit, no shared flight, a
transport, time for the attempt, and an attempt that is reported or made again. -/
def reports (w : World) (s : Serving) (p : Process) : Event → Bool
  | .look now => !isCacheEligible w.text p.exchange.cache p.request || (getEntry s (built w p).1 now).1.isNone
  | .wait timedOut => timedOut || decide (p.exchange.cache.coalesceTimeout ≤ 0) ||
    match p.stage with
    | .waiting _ flight =>
      match s.results.get flight with
      | some ⟨some _,false⟩ => false
      | _ => true
    | _ => true
  | .noTransport _ => false
  | .attempt a _ =>
    decide (0 < computePerTryTimeout p.exchange.retry.perTryTimeout a.remainingOuter a.remainingBudget) &&
    ((reported a.outcome).isSome ||
      match p.stage with
      | .trying _ attempts => retried p.exchange (attempts + 1) a
      | _ => true)
  | _ => true

def answered (w : World) (k : String) (cfg : Breaker) (s : Serving) : Action → Bool
  | .arrive x => decide (x.breakerKey = k → x.breaker = cfg)
  | .act i e =>
    match s.processes[i]? with
    | some p => !holds k p || reports w s p e
    | none => true
  | .expire _ => true

inductive Effect (s : Serving) (p p' : Process) (s' : Serving) : Prop where
  | quiet (breakers : s'.breakers = s.breakers) (slot : p'.probe = p.probe)
  | unnamed (key : p.exchange.breakerKey = "") (breakers : s'.breakers = s.breakers)
  | admitted (now : Int) (stage : midway p.stage = false)
      (breakers : s'.breakers = s.breakers.insert p.exchange.breakerKey (answer s p now).2)
      (slot : p'.probe =
        if (answer s p now).1.2 then decide ((answer s p now).1.1 = .halfOpen) else p.probe)
  | told (now : Int) (success : Bool) (slot : p'.probe = false)
      (breakers : s'.breakers = s.breakers.insert p.exchange.breakerKey
        ((breakerOf s p.exchange.breakerKey now).report p.exchange.breaker now success))

theorem reportEffect (s : Serving) (p p' : Process) (a : Attempt)
    (slot : p'.probe = (p.probe && (reported a.outcome).isNone)) :
    Effect s p p' (reportAttempt s p.exchange a) := by
  unfold reportAttempt
  cases told : reported a.outcome with
  | none => exact .quiet rfl (by simp [slot,told])
  | some success =>
    dsimp only
    split
    · exact .unnamed (by assumption) rfl
    · exact .told a.now success (by simp [slot,told]) rfl

theorem getEntryBreakers (s : Serving) (key : Bytes) (now : Int) :
    (getEntry s key now).2.breakers = s.breakers := by
  unfold getEntry
  split
  · rfl
  · split <;> rfl

theorem setEntryBreakers (s : Serving) (key : Bytes) (e : Entry) : (setEntry s key e).breakers = s.breakers := by
  unfold setEntry
  split <;> rfl

theorem notMidway {p : Process} (stage : p.stage = .admitting ∨ p.stage = .filtering []) : midway p.stage = false := by
  rcases stage with h | h <;> rw [h] <;> rfl

section
variable {w : World} {s s' : Serving} {i : Nat} {p p' : Process} {e : Event}

theorem effect (made : Moved w s i p e p' s') : Effect s p p' s' := by
  cases made with
  | passed _ _ => exact .quiet rfl (filterStepKeeps _ _ _ _).2
  | unnamed _ key => exact .unnamed key rfl
  | admitted stage allowed => exact .admitted _ (notMidway stage) rfl (by rw [if_pos allowed])
  | denied stage refused => exact .admitted _ (notMidway stage) rfl (by rw [if_neg (by simp [refused])])
  | @missed now _ _ found =>
    have kept := getEntryBreakers s (built w p).1 now
    rw [found] at kept
    exact .quiet kept rfl
  | tried _ => exact reportEffect s p _ _ rfl
  | filled _ => exact .quiet (setEntryBreakers _ _ _) rfl
  | _ => exact .quiet rfl rfl

theorem retriedAgain {x : Exchange} {attempts : Int} {a : Attempt} (again : retried x attempts a = true) :
    verdict x attempts a = .again := by
  unfold retried at again
  split at again
  · rename_i err outcome
    split at again
    · rename_i reason classified
      simp only [Bool.and_eq_true,Option.isNone_iff_eq_none,decide_eq_true_eq] at again
      obtain ⟨⟨⟨⟨⟨outer,left⟩,allowed⟩,listed⟩,budget⟩,slept⟩ := again
      simp only [verdict,outcome,afterError,outer,classified,listed,budget,backoff,slept]
      simp [Int.not_le.mpr left,allowed]
    · cases again
  · cases again

theorem midwayKept (made : Moved w s i p e p' s') (before : p.probe = true → midway p.stage = true)
    (reported : p.probe = true → reports w s p e = true) (owes : p'.probe = true) : midway p'.stage = true := by
  have outside : p.probe = true → midway p.stage = false → midway p'.stage = true := by
    intro slot off
    have on := before slot
    rw [off] at on
    cases on
  cases made with
  | left stage _ => exact outside owes (by rw [stage]; rfl)
  | stopped stage _ => exact outside owes (by rw [stage]; rfl)
  | passed stage _ =>
    rw [(filterStepKeeps _ _ _ _).2] at owes
    exact outside owes (by rw [stage]; rfl)
  | denied stage _ => exact outside owes (notMidway stage)
  | hit stage eligible found =>
    have absent := reported owes
    simp [reports,eligible,found] at absent
  | followed stage timely shared =>
    have unshared := reported owes
    simp [reports,stage,shared,Int.not_le.mpr timely] at unshared
  | untransported _ => exact nomatch reported owes
  | outOfTime _ late =>
    have timely := (Bool.and_eq_true_iff.mp (reported owes)).1
    exact absurd late (Int.not_le.mpr (of_decide_eq_true timely))
  | tried stage =>
    obtain ⟨slot,untold⟩ := Bool.and_eq_true_iff.mp owes
    have told := (Bool.and_eq_true_iff.mp (reported slot)).2
    rw [Option.isNone_iff_eq_none.mp untold,stage] at told
    simp only [retriedAgain told,stageAfter]
    rfl
  | refused stage _ => exact outside owes (by rw [stage]; rfl)
  | relayed stage => exact outside owes (by rw [stage]; rfl)
  | unreadable stage => exact outside owes (by rw [stage]; rfl)
  | filled stage => exact outside owes (by rw [stage]; rfl)
  | closed stage => exact outside owes (by rw [stage]; rfl)
  | _ => rfl

end

structure Slots (k : String) (cfg : Breaker) (s : Serving) : Prop where
  config : ∀ p ∈ s.processes, p.exchange.breakerKey = k → p.exchange.breaker = cfg
  owing : ∀ p ∈ s.processes, holds k p = true → midway p.stage = true
  accounted : ∀ b, s.breakers.get k = some b → Accounted b (debts k s)

theorem countSet {α : Type} (f : α → Bool) {l : List α} {i : Nat} {x : α} (present : l[i]? = some x) (y : α) :
    (l.set i y).countP f + (if f x then 1 else 0) = l.countP f + (if f y then 1 else 0) := by
  obtain ⟨inside,same⟩ := List.getElem?_eq_some_iff.mp present
  have covered := List.boole_getElem_le_countP (p := f) inside
  rw [List.countP_set inside,same]
  rw [same] at covered
  omega

namespace Slots
variable {w : World} {k : String} {cfg : Breaker} {s s' t : Serving} {i : Nat} {p p' : Process} {e : Event} {a : Action}

theorem breakerAt (slots : Slots k cfg s) (now : Int) : Accounted (breakerOf s k now) (debts k s) := by
  unfold breakerOf
  cases found : s.breakers.get k with
  | none => exact (Accounted.fresh now).weaken (by omega)
  | some b => exact slots.accounted b found

theorem arrived (slots : Slots k cfg s) {x : Exchange} (same : x.breakerKey = k → x.breaker = cfg) {q : Process}
    (new : q.exchange = x) (slotless : q.probe = false) : Slots k cfg { s with processes := s.processes ++ [q] } := by
  have unheld : holds k q = false := by simp [holds,slotless]
  refine ⟨?_,?_,?_⟩
  · intro p member key
    rcases List.mem_append.mp member with old | last
    · exact slots.config p old key
    · cases List.mem_singleton.mp last
      rw [new] at key ⊢
      exact same key
  · intro p member owes
    rcases List.mem_append.mp member with old | last
    · exact slots.owing p old owes
    · cases List.mem_singleton.mp last
      rw [unheld] at owes
      cases owes
  · intro b found
    have count : debts k { s with processes := s.processes ++ [q] } = debts k s := by
      simp [debts,List.countP_append,unheld]
    rw [count]
    exact slots.accounted b found

theorem admitted (slots : Slots p.exchange.breakerKey cfg s) (free : p.probe = false) (now : Int) {after : Nat}
    (slot : p'.probe = if (answer s p now).1.2 then decide ((answer s p now).1.1 = .halfOpen) else p.probe)
    (count : after = debts p.exchange.breakerKey s + if p'.probe then 1 else 0) :
    Accounted (answer s p now).2 after := by
  have kept : Accounted (answer s p now).2 _ := (slots.breakerAt now).allow (by omega)
  refine kept.weaken ?_
  change (if (answer s p now).1 = (.halfOpen,true) then _ else _) ≤ _
  rw [free] at slot
  split
  · rename_i taken
    rw [taken] at slot
    rw [slot] at count
    simp only [decide_true,if_true] at count
    omega
  · omega

theorem accountedOwn (slots : Slots p.exchange.breakerKey cfg s) (enabled : cfg.enabled = true)
    (named : p.exchange.breakerKey ≠ "") (member : p ∈ s.processes) (effect : Effect s p p' s') {after : Nat}
    (count : after + (if p.probe then 1 else 0) = debts p.exchange.breakerKey s + if p'.probe then 1 else 0)
    {b : Runtime} (found : s'.breakers.get p.exchange.breakerKey = some b) : Accounted b after := by
  cases effect with
  | unnamed blank _ => exact absurd blank named
  | quiet breakers slot =>
    rw [breakers] at found
    rw [slot] at count
    exact (slots.accounted b found).weaken (by omega)
  | admitted now stage breakers slot =>
    have free : p.probe = false := by
      cases held : p.probe with
      | false => rfl
      | true =>
        have on := slots.owing p member (by simp [holds,held])
        rw [stage] at on
        cases on
    rw [breakers,Map.getInsertSame] at found
    cases found
    rw [free] at count
    exact slots.admitted free now slot count
  | told now success slot breakers =>
    rw [breakers,Map.getInsertSame] at found
    cases found
    rw [slots.config p member rfl]
    rw [slot] at count
    refine ((slots.breakerAt now).report success enabled).weaken ?_
    simp only [Bool.false_eq_true,if_false] at count
    split at count <;> omega

theorem breakersOther (effect : Effect s p p' s') (other : p.exchange.breakerKey ≠ k) :
    s'.breakers.get k = s.breakers.get k := by
  cases effect with
  | quiet breakers _ => rw [breakers]
  | unnamed _ breakers => rw [breakers]
  | admitted _ _ breakers _ => rw [breakers,Map.getInsertOther _ _ other.symm]
  | told _ _ _ breakers => rw [breakers,Map.getInsertOther _ _ other.symm]

theorem accountedMove (slots : Slots k cfg s) (enabled : cfg.enabled = true) (named : k ≠ "")
    (present : s.processes[i]? = some p) (exchange : p'.exchange = p.exchange) (effect : Effect s p p' s') {b : Runtime}
    (found : s'.breakers.get k = some b) :
    Accounted b (debts k { s' with processes := s.processes.set i p' }) := by
  have count := countSet (holds k) present p'
  change debts k { s' with processes := s.processes.set i p' } + _ = debts k s + _ at count
  by_cases key : p.exchange.breakerKey = k
  · subst key
    simp only [holds,exchange,decide_true,Bool.and_true] at count
    exact slots.accountedOwn enabled named (List.mem_of_getElem? present) effect count found
  · simp only [holds,exchange,key,decide_false,Bool.and_false,Bool.false_eq_true,if_false] at count
    rw [breakersOther effect key] at found
    exact (slots.accounted b found).weaken (by omega)

theorem acted (slots : Slots k cfg s) (enabled : cfg.enabled = true) (named : k ≠ "")
    (present : s.processes[i]? = some p) (made : Moved w s i p e p' s')
    (reported : holds k p = true → reports w s p e = true) :
    Slots k cfg { s' with processes := s.processes.set i p' } := by
  have member := List.mem_of_getElem? present
  have exchange := exchangeKept made
  refine ⟨?_,?_,fun b found => slots.accountedMove enabled named present exchange (effect made) found⟩
  · intro q inside key
    rcases List.mem_or_eq_of_mem_set inside with old | rfl
    · exact slots.config q old key
    · rw [exchange] at key ⊢
      exact slots.config p member key
  · intro q inside owes
    rcases List.mem_or_eq_of_mem_set inside with old | rfl
    · exact slots.owing q old owes
    · obtain ⟨slot,key⟩ := Bool.and_eq_true_iff.mp owes
      rw [exchange] at key
      have held : p.probe = true → holds k p = true := fun slot => Bool.and_eq_true_iff.mpr ⟨slot,key⟩
      exact midwayKept made (fun slot => slots.owing p member (held slot)) (fun slot => reported (held slot)) slot

theorem expired (slots : Slots k cfg s) (key : String) : Slots k cfg { s with breakers := s.breakers.erase key } := by
  refine ⟨slots.config,slots.owing,?_⟩
  intro b found
  rw [Map.getErase] at found
  split at found
  · cases found
  · exact slots.accounted b found

theorem step (slots : Slots k cfg s) (enabled : cfg.enabled = true) (named : k ≠ "") (allowed : answered w k cfg s a = true)
    (taken : RequestFlow.step w s a = some t) : Slots k cfg t := by
  cases stepped taken with
  | arrived x => exact slots.arrived (of_decide_eq_true allowed) rfl rfl
  | acted present made =>
    simp only [answered,present] at allowed
    refine slots.acted enabled named present made ?_
    intro owes
    rw [owes] at allowed
    exact allowed
  | expired key => exact slots.expired key

theorem run {as : List Action} (slots : Slots k cfg s) (enabled : cfg.enabled = true) (named : k ≠ "")
    (taken : Runs (RequestFlow.step w) (answered w k cfg · · = true) s as t) : Slots k cfg t :=
  taken.preserve (Slots k cfg) (fun _ _ _ kept allowed taken => kept.step enabled named allowed taken) slots

theorem idleOwesNothing (slots : Slots k cfg s)
    (idle : ∀ p ∈ s.processes, p.exchange.breakerKey = k → p.stage.done = true) : debts k s = 0 := by
  refine List.countP_eq_zero.mpr ?_
  intro p member owes
  have done := idle p member (of_decide_eq_true (Bool.and_eq_true_iff.mp owes).2)
  have on := slots.owing p member owes
  cases stage : p.stage <;> simp [stage,midway,Stage.done] at on done

end Slots

theorem idleHalfOpenAdmits {w : World} {k : String} {cfg : Breaker} {s t : Serving} {as : List Action} {b : Runtime}
    (named : k ≠ "") (enabled : cfg.enabled = true) (room : 1 ≤ Runtime.maxProbes cfg)
    (unserved : s.processes = []) (unused : s.breakers.get k = none)
    (run : Runs (step w) (answered w k cfg · · = true) s as t)
    (idle : ∀ p ∈ t.processes, p.exchange.breakerKey = k → p.stage.done = true)
    (found : t.breakers.get k = some b) (half : b.state = .halfOpen) (now : Int) : (b.allow cfg now).1.2 = true := by
  have start : Slots k cfg s := by
    refine ⟨?_,?_,?_⟩
    · rw [unserved]
      exact fun p member => nomatch member
    · rw [unserved]
      exact fun p member => nomatch member
    · intro b found
      rw [unused] at found
      cases found
  have slots := start.run enabled named run
  have accounted := slots.accounted b found
  rw [slots.idleOwesNothing idle] at accounted
  exact accounted.idleAllows half room

def probing (probes : Int) : Breaker := ⟨true,50,1,10 * second,2 * second,probes⟩

def homePage (method : String) (probes : Int) : Exchange := { plainExchange with
  breaker := probing probes
  request := ⟨encodeText method,encodeText "h",encodeText "/",[],Map.empty⟩ }

def cachedProbe : List Action :=
  [.arrive (homePage "GET" 1),.act 0 (.enter second),.act 0 (.look second),.act 0 .coalesce,
    .act 0 (attemptAt second (.response okResponse)),.act 0 (.respond (fun _ => .expired) (.body []) second),
    .arrive (homePage "POST" 1),.act 1 (.enter second),.act 1 (.look second),
    .act 1 (attemptAt second (.failed { reset := true })),
    .arrive (homePage "GET" 1),.act 2 (.enter (4 * second)),.act 2 (.look (4 * second))]

theorem cachedProbeLocksBreaker :
    ∃ t b, Runs (step plainWorld) anyStep {} cachedProbe t ∧
      (t.processes.all (fun p => decide (p.exchange.breakerKey = "r::p" ∧ p.exchange.breaker = probing 1) &&
        p.stage.done)) = true ∧
      t.breakers.get "r::p" = some b ∧ b.state = .halfOpen ∧ ∀ now, (b.allow (probing 1) now).1.2 = false := by
  obtain ⟨t,ran,ended,found⟩ : ∃ t, runAll (step plainWorld) anyStep {} cachedProbe = some t ∧
      (t.processes.all (fun p => decide (p.exchange.breakerKey = "r::p" ∧ p.exchange.breaker = probing 1) &&
        p.stage.done)) = true ∧
      t.breakers.get "r::p" = some ⟨.halfOpen,2,1,second,3 * second,1,0,0⟩ := ⟨_,rfl,rfl,rfl⟩
  exact ⟨t,_,runAllRuns ran,ended,found,rfl,fun now => rfl⟩

def reportedProbe : List Action :=
  [.arrive (homePage "POST" 2),.act 0 (.enter second),.act 0 (.look second),
    .act 0 (attemptAt second (.failed { reset := true })),
    .arrive (homePage "POST" 2),.act 1 (.enter (4 * second)),.act 1 (.look (4 * second)),
    .act 1 (attemptAt (4 * second) (.response okResponse)),
    .act 1 (.respond (fun _ => .expired) .notCacheable (4 * second))]

theorem reportedProbeAdmitsNext :
    ∃ t b, Runs (step plainWorld) (answered plainWorld "r::p" (probing 2) · · = true) {} reportedProbe t ∧
      t.breakers.get "r::p" = some b ∧ b.state = .halfOpen ∧ ∀ now, (b.allow (probing 2) now).1.2 = true := by
  obtain ⟨t,ran,idle,found⟩ : ∃ t,
      runAll (step plainWorld) (answered plainWorld "r::p" (probing 2) · · = true) {} reportedProbe = some t ∧
      (t.processes.all (·.stage.done)) = true ∧
      t.breakers.get "r::p" = some ⟨.halfOpen,1,1,second,3 * second,0,1,0⟩ := ⟨_,rfl,rfl,rfl⟩
  have run := runAllRuns ran
  exact ⟨t,_,run,found,rfl,idleHalfOpenAdmits (by decide) rfl (by decide) rfl rfl run
    (fun p member _ => List.all_eq_true.mp idle p member) found rfl⟩

end ReverseProxy.BreakerLockout
