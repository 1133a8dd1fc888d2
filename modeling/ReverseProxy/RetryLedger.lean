import ReverseProxy.BudgetedRetries
import ReverseProxy.Crew
import ReverseProxy.Transition

/-! The retries of a route against its successes. What a route's budgets still hold is
a reserve: retries paid for and the reserve together never exceed what the recorded
successes have brought in, whichever entries were reaped or replaced meanwhile. -/
namespace ReverseProxy.RetryLedger
open FiniteMap RetryBudget BudgetedRetries
open ConfigData (RoutePolicy)
open PolicyBuild (RetryBudgetPolicy ClientRetryCapPolicy nonNegative)
open RequestFlow (Exchange Attempt Response verdict)
open Transition (Runs runAllRuns leads)

def Owned (accounts : List Account) (n : Nat) (owner : Owner) : Prop := ∃ a, accounts[n]? = some a ∧ a.owner = owner

def Grows (before after : List Account) : Prop := ∀ n owner, Owned before n owner → Owned after n owner

theorem growsAppend (accounts new : List Account) : Grows accounts (accounts ++ new) := by
  rintro n owner ⟨a,found,same⟩
  exact ⟨a,by rw [List.getElem?_append_left (List.getElem?_eq_some_iff.mp found).1, found],same⟩

theorem growsSet {accounts : List Account} {n : Nat} {a new : Account} (found : accounts[n]? = some a)
    (same : new.owner = a.owner) : Grows accounts (accounts.set n new) := by
  rintro m owner ⟨b,there,owns⟩
  by_cases here : m = n
  · subst here
    cases Option.some.inj (found.symm.trans there)
    exact ⟨new,List.getElem?_set_self (List.getElem?_eq_some_iff.mp found).1,same.trans owns⟩
  · exact ⟨b,by rw [List.getElem?_set_ne (Ne.symm here), there],owns⟩

def held (route : String) (a : Account) : Int := if a.owner = .route route then a.budget.value else 0

theorem newHeld (route : String) (owner : Owner) (percent burst : Int) :
    held route ⟨owner,Budget.new percent burst⟩ = 0 := by
  unfold held
  split <;> rfl

structure EntryOk (accounts : List Account) (id : String) (e : Entry) : Prop where
  made : e.budgetPolicy.enabled = true → e.budget.isSome = true
  owned : ∀ n, e.budget = some n → Owned accounts n (.route id)

structure CapOk (accounts : List Account) (c : ClientCap) : Prop where
  percent : 0 ≤ c.percent
  burst : 0 ≤ c.burst
  owned : ∀ e ∈ c.order, Owned accounts e.2 .client

structure AccountOk (route : String) (percent : Int) (a : Account) : Prop where
  sound : a.budget.Sound
  rate : a.owner = .route route → a.budget.percent = percent

structure Books (route : String) (percent : Int) (r : RetryRegistry) : Prop where
  accounts : ∀ a ∈ r.accounts, AccountOk route percent a
  entries : ∀ id e, r.routes.get id = some e → EntryOk r.accounts id e
  caps : ∀ c ∈ r.caps, CapOk r.accounts c

theorem EntryOk.grows {before after : List Account} {id : String} {e : Entry} (start : EntryOk before id e)
    (grows : Grows before after) : EntryOk after id e :=
  ⟨start.made,fun n found => grows n _ (start.owned n found)⟩

theorem CapOk.grows {before after : List Account} {c : ClientCap} (start : CapOk before c) (grows : Grows before after) :
    CapOk after c :=
  ⟨start.percent,start.burst,fun e inside => grows _ _ (start.owned e inside)⟩

structure Kept (route : String) (percent : Int) (r r' : RetryRegistry) (gain : Int) : Prop where
  books : Books route percent r'
  grows : Grows r.accounts r'.accounts
  reserve : Crew.total (held route) r'.accounts ≤ Crew.total (held route) r.accounts + gain

section
variable {route : String} {percent : Int} {r : RetryRegistry}

theorem Books.same (books : Books route percent r) : Kept route percent r r 0 :=
  ⟨books,fun _ _ owned => owned,by omega⟩

theorem Books.join (books : Books route percent r) {new : List Account} (ok : ∀ a ∈ new, AccountOk route percent a)
    (empty : ∀ a ∈ new, held route a = 0) {routes : Map String Entry}
    (entries : ∀ id e, routes.get id = some e → r.routes.get id = some e ∨ EntryOk (r.accounts ++ new) id e)
    {caps : List ClientCap} (capsOk : ∀ c ∈ caps, c ∈ r.caps ∨ CapOk (r.accounts ++ new) c) :
    Kept route percent r { r with routes := routes, accounts := r.accounts ++ new, caps := caps } 0 := by
  have grows := growsAppend r.accounts new
  refine ⟨⟨?_,?_,?_⟩,grows,?_⟩
  · intro a inside
    exact (List.mem_append.mp inside).elim (books.accounts a) (ok a)
  · intro key e found
    exact (entries key e found).elim (fun old => (books.entries key e old).grows grows) id
  · intro c inside
    exact (capsOk c inside).elim (fun old => (books.caps c old).grows grows) id
  · have nothing := Crew.totalZero empty
    simp only [Crew.totalAppend]
    omega

theorem Books.update (books : Books route percent r) {n : Nat} {owner : Owner} (owned : Owned r.accounts n owner)
    {f : Budget → Budget} (sound : ∀ b : Budget, b.Sound → (f b).Sound) (rate : ∀ b : Budget, (f b).percent = b.percent)
    {gain : Int} (value : ∀ a, r.accounts[n]? = some a → (f a.budget).value ≤ a.budget.value + gain) :
    Kept route percent r (r.update n f) (if owner = .route route then gain else 0) := by
  obtain ⟨a,found,owns⟩ := owned
  have ok := books.accounts a (List.mem_of_getElem? found)
  have grows : Grows r.accounts (r.accounts.set n { a with budget := f a.budget }) := growsSet found rfl
  unfold RetryRegistry.update
  simp only [found]
  refine ⟨⟨?_,fun id e there => (books.entries id e there).grows grows,fun c there => (books.caps c there).grows grows⟩,grows,?_⟩
  · intro b inside
    rcases List.mem_or_eq_of_mem_set inside with old | new
    · exact books.accounts b old
    · subst new
      exact ⟨sound _ ok.sound,fun owns => (rate _).trans (ok.rate owns)⟩
  · have moved := Crew.totalMove (held route) found { a with budget := f a.budget }
    have more := value a found
    rw [← owns]
    simp only [held] at moved ⊢
    split
    · rename_i ours
      simp only [if_pos ours] at moved
      omega
    · rename_i other
      simp only [if_neg other] at moved
      omega

theorem Books.reap (books : Books route percent r) (now : Int) : Kept route percent r (r.reapOnce now) 0 := by
  refine ⟨⟨books.accounts,?_,books.caps⟩,fun _ _ owned => owned,Int.le_of_eq (Int.add_zero _).symm⟩
  intro id e found
  exact books.entries id e (Option.filter_eq_some_iff.mp found).1

theorem Books.consume (books : Books route percent r) {n : Nat} {owner : Owner} (owned : Owned r.accounts n owner) :
    Kept route percent r (r.consume n).2
      (if owner = .route route then -(100 * ((r.consume n).1.toNat : Int)) else 0) := by
  obtain ⟨a,found,owns⟩ := id owned
  have paid : (r.consume n).1 = a.budget.consume.1 := by simp [RetryRegistry.consume,found]
  have left : (r.consume n).2 = r.update n (fun b => b.consume.2) := by simp [RetryRegistry.consume,found]
  rw [paid,left]
  refine books.update owned (fun _ => Budget.consumeSound) Budget.consumePercent ?_
  intro b there
  cases Option.some.inj (found.symm.trans there)
  have spent := a.budget.consumeValue
  omega

theorem Books.recordSuccess (books : Books route percent r) {n : Nat} {owner : Owner} (owned : Owned r.accounts n owner) :
    Kept route percent r (r.update n Budget.recordSuccess) (if owner = .route route then percent else 0) := by
  obtain ⟨a,found,owns⟩ := id owned
  have ok := books.accounts a (List.mem_of_getElem? found)
  have worth (b : Account) (there : r.accounts[n]? = some b) :
      b.budget.recordSuccess.value ≤ b.budget.value + a.budget.percent := by
    cases Option.some.inj (found.symm.trans there)
    exact Budget.recordSuccessValue ok.sound
  have kept := books.update owned (fun _ => Budget.recordSuccessSound) Budget.recordSuccessPercent worth
  refine ⟨kept.books,kept.grows,Int.le_trans kept.reserve ?_⟩
  split
  · rename_i ours
    have rate := ok.rate (owns.trans ours)
    omega
  · omega

theorem Books.renew (books : Books route percent r) (id : String) {budget : RetryBudgetPolicy} {client : ClientRetryCapPolicy}
    (sane : 0 ≤ budget.percentOfSuccesses ∧ 0 ≤ budget.burst) (clientSane : 0 ≤ client.percentOfSuccesses ∧ 0 ≤ client.burst)
    (steady : id = route → budget.enabled = true → budget.percentOfSuccesses = percent) (now : Int) :
    Kept route percent r (r.renew id budget client now).2 0 ∧
      ∀ e, (r.renew id budget client now).1 = some e →
        e.budgetPolicy = budget ∧ EntryOk (r.renew id budget client now).2.accounts id e := by
  unfold RetryRegistry.renew
  split
  · exact ⟨books.same,by simp⟩
  · let new : List Account :=
      if budget.enabled then [⟨.route id,Budget.new budget.percentOfSuccesses budget.burst⟩] else []
    let entry : Entry := ⟨budget,client,if budget.enabled then some r.accounts.length else none,
      if client.enabled then some r.caps.length else none,now⟩
    have entryOk : EntryOk (r.accounts ++ new) id entry := by
      cases on : budget.enabled with
      | false => exact ⟨by simp [entry,on],by simp [entry,on]⟩
      | true => exact ⟨by simp [entry,on],by simp [entry,on,Owned,new]⟩
    have fresh : ∀ a ∈ new, budget.enabled = true ∧ a = ⟨.route id,Budget.new budget.percentOfSuccesses budget.burst⟩ := by
      intro a inside
      cases on : budget.enabled with
      | false => simp [new,on] at inside
      | true => exact ⟨rfl,by simpa [new,on] using inside⟩
    refine ⟨@Books.join _ _ _ books new ?_ ?_ _ ?_ _ ?_,?_⟩
    · intro a inside
      obtain ⟨on,rfl⟩ := fresh a inside
      exact ⟨Budget.newSound sane.1 sane.2,fun ours => steady (Owner.route.inj ours) on⟩
    · intro a inside
      obtain ⟨_,rfl⟩ := fresh a inside
      exact newHeld _ _ _ _
    · intro key e found
      rw [Map.getInsert] at found
      split at found
      · rename_i here
        cases Option.some.inj found
        exact .inr (here ▸ entryOk)
      · exact .inl found
    · intro c inside
      rcases List.mem_append.mp inside with old | fresh
      · exact .inl old
      · cases on : client.enabled with
        | false => simp [on] at fresh
        | true =>
          simp only [on, if_true, List.mem_singleton] at fresh
          subst fresh
          exact .inr ⟨clientSane.1,clientSane.2,by simp⟩
    · intro e found
      cases Option.some.inj found
      exact ⟨rfl,entryOk⟩

theorem Books.budgets (books : Books route percent r) (id : String) {budget : RetryBudgetPolicy} {client : ClientRetryCapPolicy}
    (sane : 0 ≤ budget.percentOfSuccesses ∧ 0 ≤ budget.burst) (clientSane : 0 ≤ client.percentOfSuccesses ∧ 0 ≤ client.burst)
    (steady : id = route → budget.enabled = true → budget.percentOfSuccesses = percent) (now : Int) :
    Kept route percent r (r.budgets id budget client now).2 0 ∧
      ∀ e, (r.budgets id budget client now).1 = some e →
        e.budgetPolicy = budget ∧ EntryOk (r.budgets id budget client now).2.accounts id e := by
  have renewed := books.renew id sane clientSane steady now
  unfold RetryRegistry.budgets
  split
  · exact ⟨books.same,by simp⟩
  · split
    · exact renewed
    · rename_i entry found
      split
      · rename_i same
        have ok := books.entries id entry found
        have kept : EntryOk r.accounts id { entry with lastUsed := now } := ⟨ok.made,ok.owned⟩
        refine ⟨⟨⟨books.accounts,?_,books.caps⟩,fun _ _ owned => owned,by dsimp only; omega⟩,?_⟩
        · intro key e there
          rw [Map.getInsert] at there
          split at there
          · rename_i here
            cases Option.some.inj there
            exact here ▸ kept
          · exact books.entries key e there
        · intro e answered
          cases Option.some.inj answered
          exact ⟨same.1,kept⟩
      · exact renewed

theorem CapOk.bucket {accounts : List Account} {cap : ClientCap} (ok : CapOk accounts cap) (key : String) :
    let answer := cap.bucket accounts.length key
    CapOk (accounts ++ answer.2.2) answer.2.1 ∧ Owned (accounts ++ answer.2.2) answer.1 .client ∧
      ∀ a ∈ answer.2.2, a = ⟨.client,Budget.new cap.percent cap.burst⟩ := by
  unfold ClientCap.bucket
  generalize (if key = "" then "anonymous" else key) = key
  dsimp only
  split
  · rename_i found there
    rw [List.append_nil]
    have owned := ok.owned found (List.mem_of_find?_eq_some there)
    refine ⟨⟨ok.percent,ok.burst,?_⟩,owned,by simp⟩
    intro e inside
    rcases List.mem_cons.mp inside with same | old
    · exact same ▸ owned
    · exact ok.owned e (List.mem_of_mem_filter old)
  · have fresh : Owned (accounts ++ [⟨.client,Budget.new cap.percent cap.burst⟩]) accounts.length .client :=
      ⟨_,List.getElem?_concat_length,rfl⟩
    refine ⟨⟨ok.percent,ok.burst,?_⟩,fresh,by simp⟩
    intro e inside
    have listed : e ∈ (key,accounts.length) :: cap.order := by
      dsimp only at inside
      split at inside
      · exact List.dropLast_subset _ inside
      · exact inside
    rcases List.mem_cons.mp listed with same | old
    · cases same
      exact fresh
    · exact growsAppend _ _ _ _ (ok.owned e old)

theorem Books.bucket (books : Books route percent r) {n : Nat} {cap : ClientCap} (found : r.caps[n]? = some cap)
    (key : String) :
    let answer := cap.bucket r.accounts.length key
    Kept route percent r { r with caps := r.caps.set n answer.2.1, accounts := r.accounts ++ answer.2.2 } 0 ∧
      Owned (r.accounts ++ answer.2.2) answer.1 .client := by
  have ok := books.caps cap (List.mem_of_getElem? found)
  obtain ⟨capOk,owned,fresh⟩ := ok.bucket key
  refine ⟨books.join ?_ ?_ (fun _ _ there => .inl there) ?_,owned⟩
  · intro a inside
    rw [fresh a inside]
    exact ⟨Budget.newSound ok.percent ok.burst,by simp⟩
  · intro a inside
    rw [fresh a inside, newHeld]
  · intro c inside
    rcases List.mem_or_eq_of_mem_set inside with old | new
    · exact .inl old
    · exact .inr (new ▸ capOk)

end

def settled : Phase → Bool
  | .recordingClient => true
  | .returned => true
  | _ => false

def backed (c : Call) : Bool :=
  match c.phase with
  | .bucketing _ => c.exchange.budgetError || c.route.isSome
  | .trying _ => c.exchange.budgetError || c.route.isSome
  | .paying _ _ => c.route.isSome
  | .payingClient _ _ => c.route.isSome
  | _ => true

structure CallOk (route : String) (percent : Int) (accounts : List Account) (c : Call) : Prop where
  sane : 0 ≤ c.policy.retryBudget.percentOfSuccesses ∧ 0 ≤ c.policy.retryBudget.burst
  clientSane : 0 ≤ c.policy.clientRetryCap.percentOfSuccesses ∧ 0 ≤ c.policy.clientRetryCap.burst
  owned : ∀ n, c.route = some n → Owned accounts n (.route c.routeID)
  clientOwned : ∀ n, c.client = some n → Owned accounts n .client
  steady : c.routeID = route → c.policy.retryBudget.enabled = true ∧ c.policy.retryBudget.percentOfSuccesses = percent ∧
    c.exchange.budgetEnabled = true
  backing : c.routeID = route → backed c = true
  first : c.recorded = true → settled c.phase = true

theorem CallOk.grows {route : String} {percent : Int} {before after : List Account} {c : Call}
    (start : CallOk route percent before c) (grows : Grows before after) : CallOk route percent after c :=
  { start with
    owned := fun n found => grows n _ (start.owned n found)
    clientOwned := fun n found => grows n _ (start.clientOwned n found) }

theorem CallOk.unrecorded {route : String} {percent : Int} {accounts : List Account} {c : Call}
    (ok : CallOk route percent accounts c) (running : settled c.phase = false) : c.recorded = false := by
  cases recorded : c.recorded with
  | false => rfl
  | true =>
    rw [ok.first recorded] at running
    cases running

structure Same (c c' : Call) : Prop where
  routeID : c'.routeID = c.routeID
  policy : c'.policy = c.policy
  exchange : c'.exchange = c.exchange
  route : c'.route = c.route
  client : c'.client = c.client

theorem CallOk.turn {route : String} {percent : Int} {accounts : List Account} {c c' : Call}
    (ok : CallOk route percent accounts c) (same : Same c c') (backing : c.routeID = route → backed c' = true)
    (first : c'.recorded = true → settled c'.phase = true) : CallOk route percent accounts c' := by
  obtain ⟨routeID,policy,exchange,ofRoute,ofClient⟩ := same
  refine ⟨?_,?_,?_,?_,?_,?_,first⟩
  · rw [policy]
    exact ok.sane
  · rw [policy]
    exact ok.clientSane
  · rw [ofRoute,routeID]
    exact ok.owned
  · rw [ofClient]
    exact ok.clientOwned
  · rw [routeID,policy,exchange]
    exact ok.steady
  · rw [routeID]
    exact backing

def spent (c : Call) : Int :=
  c.retryCount + match c.phase with
    | .payingClient _ _ => 1
    | _ => 0

def earned (percent : Int) (c : Call) : Int := if c.recorded then percent else 0

def balance (route : String) (percent : Int) (c : Call) : Int :=
  if c.routeID = route then 100 * spent c - earned percent c else 0

structure Funded (route : String) (percent : Int) (s : State) : Prop where
  books : Books route percent s.registry
  calls : ∀ c ∈ s.calls, CallOk route percent s.registry.accounts c
  ledger : Crew.total (balance route percent) s.calls + Crew.total (held route) s.registry.accounts ≤ 0

def Pays (route : String) (percent : Int) (r : RetryRegistry) (c : Call) (m : Call × RetryRegistry) : Prop :=
  ∃ gain, Kept route percent r m.2 gain ∧ CallOk route percent m.2.accounts m.1 ∧
    balance route percent m.1 + gain ≤ balance route percent c

theorem Funded.moves {route : String} {percent : Int} {s : State} {i : Nat} {c : Call} {m : Call × RetryRegistry}
    (start : Funded route percent s) (found : s.calls[i]? = some c) (pays : Pays route percent s.registry c m) :
    Funded route percent { registry := m.2, calls := s.calls.set i m.1 } := by
  obtain ⟨gain,kept,ok,fair⟩ := pays
  refine ⟨kept.books,?_,?_⟩
  · intro d inside
    rcases List.mem_or_eq_of_mem_set inside with old | new
    · exact (start.calls d old).grows kept.grows
    · exact new ▸ ok
  · have moved := Crew.totalMove (balance route percent) found m.1
    have reserve := kept.reserve
    have ledger := start.ledger
    dsimp only
    omega

section
variable {route : String} {percent : Int} {r : RetryRegistry} {c : Call}

theorem CallOk.pays (ok : CallOk route percent r.accounts c) {c' : Call} {r' : RetryRegistry} {gain : Int}
    (kept : Kept route percent r r' gain) (same : Same c c') (backing : c.routeID = route → backed c' = true)
    (first : c'.recorded = true → settled c'.phase = true)
    (ours : c.routeID = route → 100 * spent c' - earned percent c' + gain ≤ 100 * spent c - earned percent c)
    (other : c.routeID ≠ route → gain ≤ 0) : Pays route percent r c (c',r') := by
  refine ⟨gain,kept,(ok.grows kept.grows).turn same backing first,?_⟩
  unfold balance
  rw [same.routeID]
  by_cases here : c.routeID = route
  · rw [if_pos here, if_pos here]
    exact ours here
  · rw [if_neg here, if_neg here]
    have none := other here
    omega

theorem spentConclude (c : Call) (attempts : Int) (a : Attempt) : spent (conclude c attempts a) = c.retryCount := by
  unfold spent conclude
  cases verdict c.exchange attempts a <;> simp [phaseAfter]

theorem backedConclude (attempts : Int) (a : Attempt) (enough : c.exchange.budgetError = true ∨ c.route.isSome = true) :
    backed (conclude c attempts a) = true := by
  unfold backed conclude
  cases verdict c.exchange attempts a with
  | again => simpa [phaseAfter] using enough
  | response r => rfl
  | failed e => rfl

theorem retriesSpent (c : Call) : c.retryCount ≤ spent c := by
  unfold spent
  split <;> omega

theorem CallOk.ends (ok : CallOk route percent r.accounts c) {r' : RetryRegistry} (kept : Kept route percent r r' 0)
    {phase : Phase} (done : settled phase = true) : Pays route percent r c ({ c with phase := phase },r') := by
  refine ok.pays kept ⟨rfl,rfl,rfl,rfl,rfl⟩ ?_ (fun _ => done) ?_ (fun _ => Int.le_refl 0)
  · intro here
    cases phase with
    | recordingClient => rfl
    | returned => rfl
    | _ => cases done
  · intro here
    have less := retriesSpent c
    have now : spent { c with phase := phase } = c.retryCount := by
      cases phase with
      | recordingClient => simp [spent]
      | returned => simp [spent]
      | _ => cases done
    rw [now]
    simp only [earned]
    omega

theorem CallOk.concludes (ok : CallOk route percent r.accounts c) {r' : RetryRegistry} {gain : Int}
    (kept : Kept route percent r r' gain) (running : settled c.phase = false) (attempts : Int) (a : Attempt) (retries : Nat)
    (enough : c.routeID = route → c.exchange.budgetError = true ∨ c.route.isSome = true)
    (ours : c.routeID = route → 100 * (retries : Int) + gain ≤ 100 * spent c) (other : c.routeID ≠ route → gain ≤ 0) :
    Pays route percent r c (conclude { c with retryCount := retries } attempts a,r') := by
  have unrecorded := ok.unrecorded running
  refine ok.pays kept ⟨rfl,rfl,rfl,rfl,rfl⟩ ?_ ?_ ?_ other
  · intro here
    exact backedConclude attempts a (enough here)
  · intro recorded
    simp [conclude,unrecorded] at recorded
  · intro here
    rw [spentConclude]
    simp only [earned, conclude, unrecorded]
    have paid := ours here
    simp only [Bool.false_eq_true, if_false]
    omega

theorem attemptPays (books : Books route percent r) (ok : CallOk route percent r.accounts c) {attempts : Int} {a : Attempt}
    (trying : c.phase = .trying attempts) : Pays route percent r c (attempt c attempts a,r) := by
  have enough (here : c.routeID = route) : c.exchange.budgetError = true ∨ c.route.isSome = true := by
    simpa [backed,trying] using ok.backing here
  have running : settled c.phase = false := by rw [trying]; rfl
  have taken : spent c = c.retryCount := by simp [spent,trying]
  unfold attempt
  split
  · exact ok.ends books.same rfl
  · split
    · rename_i asked
      refine ok.pays books.same ⟨rfl,rfl,rfl,rfl,rfl⟩ ?_ ?_ (fun _ => by rw [taken]; simp [spent,earned])
        (fun _ => Int.le_refl 0)
      · intro here
        have noError := asksNoError asked (ok.steady here).2.2
        simpa [backed,noError] using enough here
      · intro recorded
        simp [ok.first recorded] at running
    · exact ok.concludes books.same running (attempts + 1) a c.retryCount enough (fun _ => by omega)
        (fun _ => Int.le_refl 0)

theorem payPays (books : Books route percent r) (ok : CallOk route percent r.accounts c) {attempts : Int} {a : Attempt}
    (paying : c.phase = .paying attempts a) : Pays route percent r c (pay r c attempts a) := by
  have enough (here : c.routeID = route) : c.route.isSome = true := by
    simpa [backed,paying] using ok.backing here
  have running : settled c.phase = false := by rw [paying]; rfl
  have taken : spent c = c.retryCount := by simp [spent,paying]
  unfold pay
  split
  · rename_i off
    have other (here : c.routeID = route) : False := by simp [(ok.steady here).2.2] at off
    exact ok.concludes books.same running attempts _ _ (fun here => (other here).elim) (fun here => (other here).elim)
      (fun _ => Int.le_refl 0)
  · split
    · rename_i none
      have other (here : c.routeID = route) : False := by simpa [none] using enough here
      exact ok.pays books.same ⟨rfl,rfl,rfl,rfl,rfl⟩ (fun here => (other here).elim)
        (fun recorded => by simp [ok.first recorded] at running) (fun here => (other here).elim) (fun _ => Int.le_refl 0)
    · rename_i n found
      have kept := books.consume (ok.owned n found)
      simp only [Owner.route.injEq] at kept
      split
      · rename_i paid
        refine ok.pays kept ⟨rfl,rfl,rfl,rfl,rfl⟩ (fun here => enough here)
          (fun recorded => by simp [ok.first recorded] at running) ?_ (fun other => by simp [other])
        intro here
        rw [if_pos here, paid, taken]
        simp only [spent, earned, Bool.toNat_true]
        omega
      · refine ok.concludes kept running attempts _ c.retryCount (fun here => .inr (enough here)) ?_
          (fun other => by simp [other])
        intro here
        rw [if_pos here, taken]
        omega

theorem payClientPays (books : Books route percent r) (ok : CallOk route percent r.accounts c) {attempts : Int} {a : Attempt}
    (paying : c.phase = .payingClient attempts a) : Pays route percent r c (payClient r c attempts a) := by
  have enough (here : c.routeID = route) : c.exchange.budgetError = true ∨ c.route.isSome = true :=
    .inr (by simpa [backed,paying] using ok.backing here)
  have running : settled c.phase = false := by rw [paying]; rfl
  have taken : spent c = c.retryCount + 1 := by simp [spent,paying]
  unfold payClient
  split
  · exact ok.concludes books.same running attempts _ _ enough (fun _ => by omega) (fun _ => Int.le_refl 0)
  · rename_i n found
    have kept : Kept route percent r (r.consume n).2 0 := by simpa using books.consume (ok.clientOwned n found)
    split
    · exact ok.concludes kept running attempts _ _ enough (fun _ => by omega) (fun _ => Int.le_refl 0)
    · exact ok.concludes kept running attempts _ c.retryCount enough (fun _ => by omega) (fun _ => Int.le_refl 0)

theorem recordPays (books : Books route percent r) (ok : CallOk route percent r.accounts c) {response : Response}
    (recording : c.phase = .recording response) : Pays route percent r c (record r c response) := by
  unfold record
  split
  · split
    · exact ok.ends books.same rfl
    · rename_i n found
      have kept := books.recordSuccess (ok.owned n found)
      simp only [Owner.route.injEq] at kept
      refine ok.pays kept ⟨rfl,rfl,rfl,rfl,rfl⟩ (fun _ => rfl) (fun _ => rfl) ?_ (fun other => by simp [other])
      intro here
      have unrecorded : c.recorded = false := ok.unrecorded (by rw [recording]; rfl)
      simp [here,spent,earned,recording,unrecorded]
  · exact ok.ends books.same rfl

theorem recordClientPays (books : Books route percent r) (ok : CallOk route percent r.accounts c) :
    Pays route percent r c (recordClient r c) := by
  refine ok.ends ?_ rfl
  split
  · exact books.same
  · rename_i n found
    simpa using books.recordSuccess (ok.clientOwned n found)

theorem enterPays (books : Books route percent r) (ok : CallOk route percent r.accounts c)
    (entering : c.phase = .entering) (now : Int) : Pays route percent r c (enter r c now) := by
  have unrecorded : c.recorded = false := ok.unrecorded (by rw [entering]; rfl)
  obtain ⟨kept,answers⟩ := books.budgets c.routeID ok.sane ok.clientSane (fun here _ => (ok.steady here).2.1) now
  have grown := ok.grows kept.grows
  unfold enter
  split
  · rename_i off
    have other (here : c.routeID = route) : False := by simp [(ok.steady here).2.2] at off
    exact ok.pays books.same ⟨rfl,rfl,rfl,rfl,rfl⟩ (fun here => (other here).elim) (by simp [unrecorded])
      (fun here => (other here).elim) (fun _ => Int.le_refl 0)
  · split
    · rename_i after found
      rw [found] at kept grown
      refine ⟨0,kept,{ grown with backing := fun _ => by simp [backed], first := by simp [unrecorded] },?_⟩
      simp [balance,spent,earned,entering]
    · rename_i entry after found
      rw [found] at kept grown answers
      obtain ⟨policy,entryOk⟩ := answers entry rfl
      have made (here : c.routeID = route) : entry.budget.isSome = true :=
        entryOk.made (by rw [policy]; exact (ok.steady here).1)
      have phased (p : Phase) (looping : (∃ cap, p = .bucketing cap) ∨ p = .trying 0) :
          Pays route percent r c ({ c with route := entry.budget, phase := p },after) := by
        refine ⟨0,kept,{ grown with owned := entryOk.owned, backing := ?_, first := by simp [unrecorded] },?_⟩
        · intro here
          rcases looping with ⟨cap,rfl⟩ | rfl
          · simp [backed,made here]
          · simp [backed,made here]
        · rcases looping with ⟨cap,rfl⟩ | rfl
          · simp [balance,spent,earned,entering]
          · simp [balance,spent,earned,entering]
      cases entry.clientCap with
      | none => exact phased _ (.inr rfl)
      | some cap => exact phased _ (.inl ⟨cap,rfl⟩)

theorem bucketPays (books : Books route percent r) (ok : CallOk route percent r.accounts c) {n : Nat} {cap : ClientCap}
    (bucketing : c.phase = .bucketing n) (found : r.caps[n]? = some cap) (key : String) :
    let answer := cap.bucket r.accounts.length key
    Pays route percent r c ({ c with client := some answer.1, phase := .trying 0 },
      { r with caps := r.caps.set n answer.2.1, accounts := r.accounts ++ answer.2.2 }) := by
  obtain ⟨kept,owned⟩ := books.bucket found key
  refine ⟨0,kept,{ ok.grows kept.grows with clientOwned := ?_, backing := ?_, first := ?_ },?_⟩
  · intro m there
    cases Option.some.inj there
    exact owned
  · intro here
    simpa [backed,bucketing] using ok.backing here
  · intro recorded
    simpa [bucketing,settled] using ok.first recorded
  · simp [balance,spent,earned,bucketing]

theorem movePays (books : Books route percent r) (ok : CallOk route percent r.accounts c) {e : Event}
    {m : Call × RetryRegistry} (taken : move r c e = some m) : Pays route percent r c m := by
  unfold move at taken
  split at taken
  · cases taken
    exact ok.ends books.same rfl
  · rename_i now entering
    cases taken
    exact enterPays books ok entering now
  · rename_i n key bucketing
    split at taken
    · cases taken
    · rename_i cap found
      cases taken
      exact bucketPays books ok bucketing found key
  · rename_i trying
    cases taken
    exact attemptPays books ok trying
  · rename_i paying
    cases taken
    exact payPays books ok paying
  · rename_i paying
    cases taken
    exact payClientPays books ok paying
  · rename_i recording
    cases taken
    exact recordPays books ok recording
  · cases taken
    exact recordClientPays books ok
  · cases taken

end

def steady (route : String) (percent : Int) (_ : State) : Action → Prop
  | .arrive routeID cfg x => routeID = route →
    (compiled cfg x).retryBudget.enabled = true ∧ (compiled cfg x).retryBudget.percentOfSuccesses = percent
  | _ => True

instance (route : String) (percent : Int) (s : State) : (a : Action) → Decidable (steady route percent s a)
  | .arrive _ _ _ => inferInstanceAs (Decidable (_ → _))
  | .act _ _ => .isTrue trivial
  | .reap _ => .isTrue trivial

theorem nonNegativeLe (n : Int) : 0 ≤ nonNegative n := by
  unfold nonNegative
  split <;> omega

theorem newCallOk {route : String} {percent : Int} (accounts : List Account) {routeID : String} {cfg : RoutePolicy} {x : Exchange}
    (same : routeID = route →
      (compiled cfg x).retryBudget.enabled = true ∧ (compiled cfg x).retryBudget.percentOfSuccesses = percent) :
    CallOk route percent accounts (newCall routeID cfg x) where
  sane := ⟨nonNegativeLe _,nonNegativeLe _⟩
  clientSane := ⟨nonNegativeLe _,nonNegativeLe _⟩
  owned := by simp [newCall]
  clientOwned := by simp [newCall]
  steady := fun here => ⟨(same here).1,(same here).2,by simp [newCall,(same here).1]⟩
  backing := fun _ => rfl
  first := by simp [newCall]

theorem newBalance (route : String) (percent : Int) (routeID : String) (cfg : RoutePolicy) (x : Exchange) :
    balance route percent (newCall routeID cfg x) = 0 := by
  simp [balance,spent,earned,newCall]

theorem fundedStep {route : String} {percent : Int} {s s' : State} {a : Action} (start : Funded route percent s)
    (allowed : steady route percent s a) (taken : step s a = some s') : Funded route percent s' := by
  cases a with
  | arrive routeID cfg x =>
    cases Option.some.inj taken
    refine ⟨start.books,?_,?_⟩
    · intro c inside
      rcases List.mem_append.mp inside with old | new
      · exact start.calls c old
      · cases List.mem_singleton.mp new
        exact newCallOk _ allowed
    · rw [Crew.totalJoin, newBalance]
      simpa using start.ledger
  | act i e =>
    obtain ⟨c,found,moved⟩ := Option.bind_eq_some_iff.mp taken
    obtain ⟨m,went,rfl⟩ := Option.map_eq_some_iff.mp moved
    exact start.moves found (movePays start.books (start.calls c (Crew.member found)) went)
  | reap now =>
    cases Option.some.inj taken
    have kept := start.books.reap now
    exact ⟨kept.books,fun c inside => (start.calls c inside).grows kept.grows,start.ledger⟩

def retries (route : String) (s : State) : Int :=
  Crew.total (fun c => if c.routeID = route then (c.retryCount : Int) else 0) s.calls

def successes (route : String) (s : State) : Nat := s.calls.countP (fun c => decide (c.routeID = route) && c.recorded)

theorem balanceBound (route : String) (percent : Int) (s : State) :
    100 * retries route s - percent * successes route s ≤ Crew.total (balance route percent) s.calls := by
  unfold retries successes
  induction s.calls with
  | nil => simp
  | cons c rest ih =>
    have less := retriesSpent c
    simp only [Crew.totalCons, List.countP_cons, balance, earned] at ih ⊢
    by_cases here : c.routeID = route
    · cases recorded : c.recorded with
      | false =>
        simp only [here, if_true, decide_true, Bool.and_false, Bool.false_eq_true, if_false, Nat.add_zero]
        omega
      | true =>
        simp only [here, if_true, decide_true, Bool.and_true, Int.natCast_add, Int.natCast_one, Int.mul_add, Int.mul_one]
        omega
    · simp only [here, if_false, decide_false, Bool.false_and, Bool.false_eq_true, Nat.add_zero, Int.zero_add]
      exact ih

theorem reserveNonneg {route : String} {percent : Int} {accounts : List Account}
    (ok : ∀ a ∈ accounts, AccountOk route percent a) : 0 ≤ Crew.total (held route) accounts := by
  refine Crew.totalNonneg ?_
  intro a inside
  unfold held
  split
  · exact (ok a inside).sound.value
  · exact Int.le_refl 0

def Roomy (b : Budget) : Prop := b.burst + (b.percent + 99) / 100 < 2^63

theorem retriesWithinBudget {route : String} {percent : Int} {as : List Action} {s : State}
    (run : Runs step (steady route percent) {} as s) :
    retries route s ≤ percent * successes route s / 100 ∧
      ∀ a ∈ s.registry.accounts, Roomy a.budget → 0 ≤ a.budget.tokens ∧ a.budget.tokens ≤ a.budget.burst := by
  have empty : Funded route percent {} := by
    refine ⟨⟨?_,?_,?_⟩,?_,?_⟩ <;> simp
  have funded := run.preserve (Funded route percent) (fun _ _ _ => fundedStep) empty
  refine ⟨?_,fun a inside => (funded.books.accounts a inside).sound.capped⟩
  have bound := balanceBound route percent s
  have reserve := reserveNonneg funded.books.accounts
  have ledger := funded.ledger
  rw [Int.le_ediv_iff_mul_le (by decide)]
  omega

def budgetRoute (percent burst : Int) : RoutePolicy where
  retry := { enabled := true, maxAttempts := 2 }
  retryBudget := { enabled := true, percentOfSuccesses := percent, burst := burst }

def answered (status : Int) : Event :=
  .attempt ⟨GoValues.second,GoValues.second,.response ⟨status,Map.empty,[]⟩,none,true,true,0⟩

theorem oneRetryPaid :
    ∃ as s, Runs step (steady "api" 100) {} as s ∧ retries "api" s = 1 ∧ successes "api" s = 2 ∧
      retries "api" s ≤ 100 * successes "api" s / 100 ∧
      ∃ a ∈ s.registry.accounts, Roomy a.budget ∧ 0 ≤ a.budget.tokens ∧ a.budget.tokens ≤ a.budget.burst := by
  obtain ⟨s,ran,paid,won,a,only,roomy⟩ : ∃ s, Transition.runAll step (steady "api" 100) {}
      [.arrive "api" (budgetRoute 100 5) { RequestFlow.plainExchange with allowRetry := true },
        .act 0 (.budgets 0),.act 0 (answered 200),.act 0 .next,.act 0 .next,
        .arrive "api" (budgetRoute 100 5) { RequestFlow.plainExchange with allowRetry := true },
        .act 1 (.budgets 1),.act 1 (answered 503),.act 1 .next,.act 1 .next,.act 1 (answered 200),.act 1 .next] = some s ∧
      retries "api" s = 1 ∧ successes "api" s = 2 ∧ ∃ a, s.registry.accounts = [a] ∧ Roomy a.budget :=
    ⟨_,rfl,rfl,rfl,_,rfl,by unfold Roomy; decide⟩
  obtain ⟨few,within⟩ := retriesWithinBudget (runAllRuns ran)
  have inside : a ∈ s.registry.accounts := by rw [only]; exact List.mem_singleton_self a
  exact ⟨_,s,runAllRuns ran,paid,won,few,a,inside,roomy,within a inside roomy⟩

def greedy : RoutePolicy := budgetRoute (9 * 10^18) (2^63 - 1)

def greedyCall : Call := newCall "api" greedy RequestFlow.plainExchange

structure Live (b : Budget) (s : State) : Prop where
  entry : ∃ e, s.registry.routes.get "api" = some e ∧ e.budgetPolicy = greedyCall.policy.retryBudget ∧
    e.clientPolicy = greedyCall.policy.clientRetryCap ∧ e.budget = some 0 ∧ e.clientCap = none
  accounts : s.registry.accounts = [⟨.route "api",b⟩]

theorem stepLast (r : RetryRegistry) (calls : List Call) (c : Call) (e : Event) :
    step { registry := r, calls := calls ++ [c] } (.act calls.length e) =
      (move r c e).map (fun m => { registry := m.2, calls := calls ++ [m.1] }) := by
  simp [step]

theorem liveSucceeds {b : Budget} {s : State} (live : Live b s) :
    ∃ as t, Runs step (steady "api" (9 * 10^18)) s as t ∧ Live b.recordSuccess t := by
  obtain ⟨⟨e,found,budget,client,owns,noCap⟩,accounts⟩ := live
  have entered : move s.registry greedyCall (.budgets 0) =
      some ({ greedyCall with route := some 0, phase := .trying 0 },
        { s.registry with routes := s.registry.routes.insert "api" { e with lastUsed := 0 } }) := by
    have looked : s.registry.budgets greedyCall.routeID greedyCall.policy.retryBudget greedyCall.policy.clientRetryCap 0 =
        (some { e with lastUsed := 0 },{ s.registry with routes := s.registry.routes.insert "api" { e with lastUsed := 0 } }) := by
      have id : greedyCall.routeID = "api" := rfl
      simp [RetryRegistry.budgets,id,found,budget,client]
    have start : greedyCall.phase = .entering := rfl
    have on : greedyCall.exchange.budgetEnabled = true := rfl
    simp [move,start,enter,on,looked,owns,noCap]
  have tried (r : RetryRegistry) : move r { greedyCall with route := some 0, phase := .trying 0 } (answered 200) =
      some ({ greedyCall with route := some 0, phase := .recording ⟨200,Map.empty,[]⟩ },r) := rfl
  have recorded (r : RetryRegistry) : move r { greedyCall with route := some 0, phase := .recording ⟨200,Map.empty,[]⟩ } .next =
      some ({ greedyCall with route := some 0, recorded := true, phase := .recordingClient },r.update 0 Budget.recordSuccess) :=
    rfl
  refine leads (a := .arrive "api" greedy RequestFlow.plainExchange) (fun _ => ⟨rfl,rfl⟩) rfl ?_
  refine leads (a := .act s.calls.length (.budgets 0)) trivial
    ((stepLast s.registry s.calls greedyCall _).trans (congrArg _ entered)) ?_
  refine leads (a := .act s.calls.length (answered 200)) trivial
    ((stepLast _ s.calls _ _).trans (congrArg _ (tried _))) ?_
  refine leads (a := .act s.calls.length .next) trivial ((stepLast _ s.calls _ _).trans (congrArg _ (recorded _))) ?_
  exact ⟨[],_,.nil _,⟨{ e with lastUsed := 0 },by simp [RetryRegistry.update,accounts],budget,client,owns,noCap⟩,by simp [RetryRegistry.update,accounts]⟩

theorem liveSuccesses {b : Budget} {s : State} (live : Live b s) (n : Nat) :
    ∃ as t, Runs step (steady "api" (9 * 10^18)) s as t ∧ Live (Nat.repeat Budget.recordSuccess n b) t := by
  induction n with
  | zero => exact ⟨[],s,.nil s,live⟩
  | succ n ih =>
    obtain ⟨first,t,ran,live⟩ := ih
    obtain ⟨next,u,later,live⟩ := liveSucceeds live
    exact ⟨first ++ next,u,ran.append later,live⟩

theorem refillOverflows :
    ∃ as s, Runs step (steady "api" (9 * 10^18)) {} as s ∧ ∃ a ∈ s.registry.accounts, a.budget.tokens < 0 := by
  obtain ⟨s,ran,live⟩ : ∃ s, Transition.runAll step (steady "api" (9 * 10^18)) {}
      [.arrive "api" greedy RequestFlow.plainExchange,.act 0 (.budgets 0)] = some s ∧
      Live (Budget.new (9 * 10^18) (2^63 - 1)) s := ⟨_,rfl,⟨_,rfl,rfl,rfl,rfl,rfl⟩,rfl⟩
  obtain ⟨as,t,later,live⟩ := liveSuccesses live 103
  exact ⟨_,t,(runAllRuns ran).append later,_,by rw [live.accounts]; exact List.mem_singleton_self _,by decide +kernel⟩

end ReverseProxy.RetryLedger
