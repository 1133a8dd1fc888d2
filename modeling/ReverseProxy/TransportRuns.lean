import ReverseProxy.TransportRegistry

/-! What holds of the transports over whole runs, with any number of requests, reloads and
reaps taking turns. -/
namespace ReverseProxy.TransportRegistry
open GoValues FiniteMap Custody Transition

def Registry.held (r : Registry) : List Nat := r.transports.entries.map (·.2.transport.number)

structure Accounted (r : Registry) : Prop where
  balanced : Balances r.held r.ledger
  options : ∀ key e, r.transports.get key = some e → e.transport.options = e.opts

theorem positiveOrPositive {default : Int} (positive : 0 < default) (value : Int) : 0 < positiveOr default value := by
  unfold positiveOr
  split <;> assumption

theorem mergeNormal (o : Options) : normalizeOptions (mergeOptions defaultOptions o) = mergeOptions defaultOptions o := by
  have set {default : Int} (positive : 0 < default) (value x : Int) : positiveOr x (positiveOr default value) = positiveOr default value :=
    if_pos (positiveOrPositive positive value)
  have conns : ¬(mergeOptions defaultOptions o).maxConnsPerHost < 0 := by
    unfold mergeOptions
    dsimp only
    split
    · rename_i given
      exact Int.not_lt.mpr given
    · decide
  unfold normalizeOptions
  rw [if_neg conns]
  unfold mergeOptions
  dsimp only
  rw [set (by decide), set (by decide), set (by decide), set (by decide), set (by decide), set (by decide), set (by decide)]

section
variable {r t : Registry} {key : String} {e : Entry}

theorem heldFound (found : r.transports.get key = some e) :
    r.held.Perm (e.transport.number :: (r.transports.others key).map (·.2.transport.number)) :=
  (Table.entriesPerm found).map (fun x : String × Entry => x.2.transport.number)

theorem heldInsert (transports : Table String Entry) (ttl : Duration) (ledger : Ledger) (key : String) (e : Entry) :
    Registry.held ⟨transports.insert key e,ttl,ledger⟩ =
      e.transport.number :: (transports.others key).map (·.2.transport.number) := rfl

theorem accountedUpdate (accounted : Accounted r) (found : r.transports.get key = some e) {e' : Entry}
    (transport : e'.transport = e.transport) (opts : e'.opts = e.opts) :
    Accounted { r with transports := r.transports.insert key e' } := by
  constructor
  · rw [heldInsert, transport]
    exact accounted.balanced.perm (heldFound found)
  · intro k x there
    rw [Table.getInsert] at there
    split at there
    · cases there
      rw [transport, opts]
      exact accounted.options key e found
    · exact accounted.options k x there

theorem accountedStep {a : Action} (accounted : Accounted r) (taken : step r a = some t) : Accounted t := by
  cases stepTaken taken with
  | nothing => exact accounted
  | made by_ named absent =>
    rename_i key opts now
    have normal : normalizeOptions opts = opts := by
      rcases by_ with ⟨-,rfl⟩ | ⟨o,-,rfl⟩
      · decide
      · exact mergeNormal o
    constructor
    · unfold Registry.create newTransport
      rw [heldInsert, Table.othersAbsent absent]
      exact accounted.balanced.make
    · intro k x there
      unfold Registry.create at there
      rw [Table.getInsert] at there
      split at there
      · cases there
        exact normal
      · exact accounted.options k x there
  | used found => exact accountedUpdate accounted found rfl rfl
  | kept found same => exact accountedUpdate accounted found rfl rfl
  | removed found => exact accountedUpdate accounted found rfl rfl
  | replaced found differs =>
    constructor
    · rename_i key opts now current
      have both : Balances ([current.transport.number] ++ (r.ledger.made :: (r.transports.others key).map (·.2.transport.number)))
          r.ledger.make := (accounted.balanced.perm (heldFound found)).make.perm (.swap _ _ _)
      exact both.drop
    · intro k x there
      rw [Table.getInsert] at there
      split at there
      · cases there
        exact mergeNormal _
      · exact accounted.options k x there
  | reaped =>
    rename_i now
    constructor
    · refine Balances.drop (accounted.balanced.perm ?_)
      unfold Registry.reapOnce Registry.held Table.keep
      dsimp only
      rw [← List.map_append]
      exact (List.filter_append_perm (fun x : String × Entry => r.expired now x.2) r.transports.entries).symm.map _
    · intro k x there
      unfold Registry.reapOnce at there
      rw [Table.getKeep, Option.filter_eq_some_iff] at there
      exact accounted.options k x there.1
  | timed => exact ⟨accounted.balanced,accounted.options⟩
  | emptied =>
    constructor
    · exact Balances.drop (accounted.balanced.perm (.of_eq (List.append_nil _).symm))
    · intro k x there
      cases there
  | closed went => exact ⟨accounted.balanced.close went,accounted.options⟩

theorem accountedNew (ttl : Duration) : Accounted (newRegistry ttl) :=
  ⟨balancedEmpty,fun key e there => (by cases there)⟩

theorem transportsAccounted {ttl : Duration} {as : List Action} (run : Runs step anyStep (newRegistry ttl) as r) :
    (r.held ++ (r.ledger.due ++ r.ledger.closed)).Perm (List.range r.ledger.made) ∧
    ∀ key e, r.transports.get key = some e → e.transport.options = e.opts := by
  have accounted := run.preserve Accounted (fun _ _ _ kept _ taken => accountedStep kept taken) (accountedNew ttl)
  exact ⟨accounted.balanced,accounted.options⟩

end

theorem twoAccounted : ∃ r, Runs step anyStep (newRegistry 0)
    [.get "a" 1,.reconcile "a" {} 2,.reconcile "a" { maxIdleConnsPerHost := 8 } 3,.remove "a" 4,.close 0] r ∧
    r.held = [1] ∧ r.ledger = ⟨2,[],[0]⟩ ∧ (r.held ++ (r.ledger.due ++ r.ledger.closed)).Perm (List.range r.ledger.made) := by
  have run : Runs step anyStep (newRegistry 0)
      [.get "a" 1,.reconcile "a" {} 2,.reconcile "a" { maxIdleConnsPerHost := 8 } 3,.remove "a" 4,.close 0] _ :=
    runAllRuns rfl
  exact ⟨_,run,by decide +kernel,by decide +kernel,(transportsAccounted run).1⟩

/- registry.Registry around it: Reconcile enters a pool first and sets its transport up then;
PrunePools takes the pools out first and removes their transports then, one by one. One reload
is at work at a time; requests and reaps come in between. `pools` has the options of each pool's
last reconciliation. -/
inductive Work where
  | idle
  | reconciling (key : String) (opts : Options)
  | pruning (keys : List String)
  deriving DecidableEq

structure Pools where
  registry : Registry
  pools : Table String Options := .empty
  work : Work := .idle

inductive Turn where
  | enter (key : String) (opts : Options)
  | settle (now : Int)
  | prune (desired : List String)
  | removeNext (now : Int)
  | request (key : String) (now : Int)
  | reap (now : Int)
  | setTTL (ttl : Duration)
  | close (number : Nat)

def turn (p : Pools) : Turn → Option Pools
  | .enter key opts => if p.work = .idle then some { p with pools := p.pools.insert key opts, work := .reconciling key opts } else none
  | .settle now =>
    match p.work with
    | .reconciling key opts => some { p with registry := (p.registry.reconcile key opts now).2, work := .idle }
    | _ => none
  | .prune desired =>
    if p.work = .idle then
      some { p with
        pools := p.pools.keep (fun e => decide (e.1 ∈ desired))
        work := .pruning ((p.pools.entries.map (·.1)).filter (fun key => key ∉ desired)) }
    else none
  | .removeNext now =>
    match p.work with
    | .pruning [] => some { p with work := .idle }
    | .pruning (key :: rest) => some { p with registry := p.registry.remove key now, work := .pruning rest }
    | _ => none
  | .request key now => some { p with registry := (p.registry.get key now).2 }
  | .reap now => some { p with registry := p.registry.reapOnce now }
  | .setTTL ttl => some { p with registry := p.registry.setTTL ttl }
  | .close number => (p.registry.ledger.close number).map fun ledger => { p with registry := { p.registry with ledger } }

def Named (_ : Pools) : Turn → Prop
  | .enter key _ => key ≠ ""
  | _ => True

def Serves (r : Registry) (key : String) (opts : Options) : Prop :=
  ∃ e, r.transports.get key = some e ∧ e.opts = mergeOptions defaultOptions opts ∧ e.draining = false

def Spares (key : String) : Action → Prop
  | .reconcile k _ _ | .remove k _ => k ≠ key
  | .closeAll => False
  | _ => True

structure Ready (p : Pools) : Prop where
  accounted : Accounted p.registry
  named : ∀ key opts, p.pools.get key = some opts → key ≠ ""
  serves : ∀ key opts, p.pools.get key = some opts → p.work ≠ .reconciling key opts → Serves p.registry key opts
  working : ∀ key opts, p.work = .reconciling key opts → p.pools.get key = some opts
  apart : ∀ keys, p.work = .pruning keys → ∀ key ∈ keys, p.pools.get key = none

section
variable {r t : Registry} {key : String} {opts : Options}

theorem servesStep {a : Action} (serves : Serves r key opts) (taken : step r a = some t) (spares : Spares key a) : Serves t key opts := by
  obtain ⟨e,found,own,active⟩ := serves
  have apart {k : String} {next : Entry} (away : key ≠ k) : (r.transports.insert k next).get key = some e := by
    rw [Table.getInsert, if_neg away, found]
  cases stepTaken taken with
  | nothing => exact ⟨e,found,own,active⟩
  | made by_ named absent =>
    refine ⟨e,apart ?_,own,active⟩
    rintro rfl
    cases absent.symm.trans found
  | used there =>
    rename_i k now current
    by_cases here : key = k
    · subst here
      cases Option.some.inj (there.symm.trans found)
      exact ⟨_,Table.getInsertSame _ _ _,own,active⟩
    · exact ⟨e,apart here,own,active⟩
  | kept there same => exact ⟨e,apart (Ne.symm spares),own,active⟩
  | replaced there differs => exact ⟨e,apart (Ne.symm spares),own,active⟩
  | removed there => exact ⟨e,apart (Ne.symm spares),own,active⟩
  | reaped =>
    refine ⟨e,?_,own,active⟩
    unfold Registry.reapOnce
    rw [Table.getKeep, Option.filter_eq_some_iff]
    exact ⟨found,by simp [Registry.expired, active]⟩
  | timed => exact ⟨e,found,own,active⟩
  | emptied => cases spares
  | closed went => exact ⟨e,found,own,active⟩

theorem servesReconciled (r : Registry) (named : key ≠ "") (now : Int) : Serves (r.reconcile key opts now).2 key opts := by
  unfold Registry.reconcile
  rw [if_neg named]
  dsimp only
  split
  · exact ⟨_,Table.getInsertSame _ _ _,rfl,rfl⟩
  · split
    · rename_i same
      exact ⟨_,Table.getInsertSame _ _ _,optionsEqualIff.mp same,rfl⟩
    · exact ⟨_,Table.getInsertSame _ _ _,rfl,rfl⟩

end

section
variable {p q : Pools}

theorem readyOther {a : Action} {r : Registry} (ready : Ready p) (taken : step p.registry a = some r) (spares : ∀ key, Spares key a) :
    Ready { p with registry := r } where
  accounted := accountedStep ready.accounted taken
  named := ready.named
  serves key opts is idle := servesStep (ready.serves key opts is idle) taken (spares key)
  working := ready.working
  apart := ready.apart

theorem Ready.inUse (ready : Ready p) (free : ∀ key opts, p.work ≠ .reconciling key opts) {key : String} {opts : Options}
    (configured : p.pools.get key = some opts) : Serves p.registry key opts :=
  ready.serves key opts configured (free key opts)

theorem readyEnter (ready : Ready p) (free : p.work = .idle) {key : String} (named : key ≠ "") (opts : Options) :
    Ready { p with pools := p.pools.insert key opts, work := .reconciling key opts } := by
  refine ⟨ready.accounted,fun k o is => ?_,fun k o is away => ?_,fun k o same => ?_,fun keys same => (by cases same)⟩
  · rw [Table.getInsert] at is
    split at is
    · rename_i here
      exact here ▸ named
    · exact ready.named k o is
  · rw [Table.getInsert] at is
    split at is
    · rename_i here
      cases is
      exact absurd (here ▸ rfl) away
    · exact ready.inUse (fun _ _ no => (by cases free.symm.trans no)) is
  · cases same
    exact Table.getInsertSame _ _ _

theorem readySettle (ready : Ready p) {key : String} {opts : Options} (busy : p.work = .reconciling key opts) (now : Int) :
    Ready { p with registry := (p.registry.reconcile key opts now).2, work := .idle } := by
  have here := ready.working key opts busy
  have taken : step p.registry (.reconcile key opts now) = some (p.registry.reconcile key opts now).2 := rfl
  refine ⟨accountedStep ready.accounted taken,ready.named,fun k o is _ => ?_,fun k o same => (by cases same),
    fun keys same => (by cases same)⟩
  by_cases same : k = key
  · subst same
    cases Option.some.inj (is.symm.trans here)
    exact servesReconciled p.registry (ready.named k opts here) now
  · have before := ready.serves k o is (fun eq => same (by cases busy.symm.trans eq; rfl))
    exact servesStep before taken (Ne.symm same)

theorem readyPrune (ready : Ready p) (free : p.work = .idle) (desired : List String) :
    Ready { p with
      pools := p.pools.keep (fun e => decide (e.1 ∈ desired))
      work := .pruning ((p.pools.entries.map (·.1)).filter (fun key => key ∉ desired)) } := by
  refine ⟨ready.accounted,fun k o is => ?_,fun k o is _ => ?_,fun k o same => (by cases same),fun keys same key inside => ?_⟩
  · rw [Table.getKeep, Option.filter_eq_some_iff] at is
    exact ready.named k o is.1
  · rw [Table.getKeep, Option.filter_eq_some_iff] at is
    exact ready.inUse (fun _ _ no => (by cases free.symm.trans no)) is.1
  · cases same
    have away := (List.mem_filter.mp inside).2
    rw [Table.getKeep]
    cases p.pools.get key with
    | none => rfl
    | some o => simpa using away

theorem readyRemove (ready : Ready p) {key : String} {rest : List String} (busy : p.work = .pruning (key :: rest)) (now : Int) :
    Ready { p with registry := p.registry.remove key now, work := .pruning rest } := by
  have taken : step p.registry (.remove key now) = some (p.registry.remove key now) := rfl
  have out := ready.apart _ busy
  refine ⟨accountedStep ready.accounted taken,ready.named,fun k o is _ => ?_,fun k o same => (by cases same),fun keys same => ?_⟩
  · have before := ready.inUse (fun _ _ no => (by cases busy.symm.trans no)) is
    refine servesStep before taken ?_
    rintro rfl
    cases is.symm.trans (out key List.mem_cons_self)
  · cases same
    exact fun k inside => out k (List.mem_cons_of_mem _ inside)

theorem readyPruned (ready : Ready p) (busy : p.work = .pruning []) : Ready { p with work := .idle } :=
  ⟨ready.accounted,ready.named,fun _ _ is _ => ready.inUse (fun _ _ no => (by cases busy.symm.trans no)) is,
    fun k o same => (by cases same),fun keys same => (by cases same)⟩

theorem readyTurn {a : Turn} (ready : Ready p) (allowed : Named p a) (taken : turn p a = some q) : Ready q := by
  cases a with
  | enter key opts =>
    simp only [turn] at taken
    split at taken
    · rename_i free
      cases taken
      exact readyEnter ready free allowed opts
    · cases taken
  | settle now =>
    simp only [turn] at taken
    split at taken
    · rename_i busy
      cases taken
      exact readySettle ready busy now
    · cases taken
  | prune desired =>
    simp only [turn] at taken
    split at taken
    · rename_i free
      cases taken
      exact readyPrune ready free desired
    · cases taken
  | removeNext now =>
    simp only [turn] at taken
    split at taken
    · rename_i busy
      cases taken
      exact readyPruned ready busy
    · rename_i busy
      cases taken
      exact readyRemove ready busy now
    · cases taken
  | request key now =>
    cases taken
    exact readyOther (a := .get key now) ready rfl (fun _ => trivial)
  | reap now =>
    cases taken
    exact readyOther (a := .reap now) ready rfl (fun _ => trivial)
  | setTTL ttl =>
    cases taken
    exact readyOther (a := .setTTL ttl) ready rfl (fun _ => trivial)
  | close number =>
    obtain ⟨ledger,went,rfl⟩ := Option.map_eq_some_iff.mp taken
    have closing : step p.registry (.close number) = some { p.registry with ledger } := congrArg (Option.map _) went
    exact readyOther ready closing (fun _ => trivial)

theorem readyNew (ttl : Duration) : Ready { registry := newRegistry ttl } :=
  ⟨accountedNew ttl,fun k o is => (by cases is),fun k o is => (by cases is),fun k o same => (by cases same),fun keys same => (by cases same)⟩

theorem configuredTransport {ttl : Duration} {as : List Turn} {key : String} {opts : Options}
    (run : Runs turn Named { registry := newRegistry ttl } as p) (configured : p.pools.get key = some opts)
    (settled : p.work ≠ .reconciling key opts) (now : Int) :
    ∃ number, (p.registry.get key now).1 = some ⟨number,mergeOptions defaultOptions opts⟩ := by
  have ready := run.preserve Ready (fun _ _ _ kept allowed taken => readyTurn kept allowed taken) (readyNew ttl)
  obtain ⟨e,found,own,-⟩ := ready.serves key opts configured settled
  have made := (ready.accounted.options key e found).trans own
  refine ⟨e.transport.number,?_⟩
  unfold Registry.get
  rw [if_neg (ready.named key opts configured), found, ← made]

end

theorem earlyRequestConfigured : ∃ p, Runs turn Named { registry := newRegistry 0 }
    [.enter "a" { maxIdleConnsPerHost := 8 },.request "a" 1,.settle 2] p ∧
    ∃ number, (p.registry.get "a" 3).1 = some ⟨number,mergeOptions defaultOptions { maxIdleConnsPerHost := 8 }⟩ := by
  have run : Runs turn Named { registry := newRegistry 0 }
      [.enter "a" { maxIdleConnsPerHost := 8 },.request "a" 1,.settle 2] _ :=
    .cons (by unfold Named; decide) rfl (.cons trivial rfl (.cons trivial rfl (.nil _)))
  exact ⟨_,run,configuredTransport run (by decide +kernel) (by decide) 3⟩

end ReverseProxy.TransportRegistry
