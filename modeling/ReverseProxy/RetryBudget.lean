import ReverseProxy.FiniteMap
import ReverseProxy.PolicyBuild

/-! Packages retry and registry: the token bucket of a retry budget, the buckets of
a client cap in their LRU order, and the registry that keeps both for each route.
Budgets are shared by pointer, so they live in a list of accounts and everybody
else holds numbers of that list. -/
namespace ReverseProxy.RetryBudget
open GoValues FiniteMap
open PolicyBuild (RetryBudgetPolicy ClientRetryCapPolicy)

/- `percent` and `accumulator` count hundredths of a token, exactly; the source adds up float64
numbers. -/
structure Budget where
  percent : Int
  burst : Int
  tokens : Int := 0
  accumulator : Int := 0
  deriving DecidableEq, Repr

namespace Budget

def new (percent burst : Int) : Budget := { percent := percent, burst := burst }

def recordSuccess (b : Budget) : Budget :=
  if b.percent ≤ 0 ∨ b.burst ≤ 0 then b
  else
    let accumulator := b.accumulator + b.percent
    if accumulator < 100 then { b with accumulator := accumulator }
    else
      let add := accumulator / 100
      let tokens := wrap64 (b.tokens + add)
      { b with
        accumulator := accumulator - add * 100
        tokens := if b.burst < tokens then b.burst else tokens }

def consume (b : Budget) : Bool × Budget :=
  if b.tokens ≤ 0 then (false,b) else (true,{ b with tokens := b.tokens - 1 })

def value (b : Budget) : Int := 100 * max b.tokens 0 + b.accumulator

/- What every budget of the registry satisfies; the last part speaks of budgets whose
cap leaves room for one more refill in int64. -/
structure Sound (b : Budget) : Prop where
  percent : 0 ≤ b.percent
  burst : 0 ≤ b.burst
  fraction : 0 ≤ b.accumulator ∧ b.accumulator < 100
  machine : -(2^63) ≤ b.tokens
  capped : b.burst + (b.percent + 99) / 100 < 2^63 → 0 ≤ b.tokens ∧ b.tokens ≤ b.burst

theorem newSound {percent burst : Int} (p : 0 ≤ percent) (b : 0 ≤ burst) : (new percent burst).Sound := by
  refine ⟨p,b,?_,?_,fun _ => ⟨Int.le_refl 0,b⟩⟩
  · simp [new]
  · simp [new]

theorem recordSuccessSound {b : Budget} (start : b.Sound) : b.recordSuccess.Sound := by
  obtain ⟨percent,burst,fraction,machine,capped⟩ := start
  unfold recordSuccess
  split
  · exact ⟨percent,burst,fraction,machine,capped⟩
  · dsimp only
    split
    · exact ⟨percent,burst,by dsimp only; omega,machine,capped⟩
    · have range := wrap64Range (b.tokens + (b.accumulator + b.percent) / 100)
      refine ⟨percent,burst,by dsimp only; omega,?_,?_⟩
      · dsimp only
        split <;> omega
      · intro roomy
        dsimp only at roomy ⊢
        have tokens := capped roomy
        rw [wrap64Same (by omega) (by omega)]
        split <;> omega

theorem recordSuccessValue {b : Budget} (start : b.Sound) : b.recordSuccess.value ≤ b.value + b.percent := by
  obtain ⟨percent,burst,fraction,machine,capped⟩ := start
  unfold recordSuccess value
  split
  · omega
  · dsimp only
    split
    · dsimp only
      omega
    · dsimp only
      have small := wrap64Le (n := b.tokens + (b.accumulator + b.percent) / 100) (by omega)
      split <;> omega

@[simp] theorem recordSuccessPercent (b : Budget) : b.recordSuccess.percent = b.percent := by
  unfold recordSuccess
  split
  · rfl
  · dsimp only
    split <;> rfl

theorem consumeSound {b : Budget} (start : b.Sound) : b.consume.2.Sound := by
  obtain ⟨percent,burst,fraction,machine,capped⟩ := start
  unfold consume
  split
  · exact ⟨percent,burst,fraction,machine,capped⟩
  · refine ⟨percent,burst,fraction,by dsimp only; omega,?_⟩
    intro roomy
    have tokens := capped roomy
    dsimp only
    omega

theorem consumeValue (b : Budget) : b.consume.2.value + 100 * b.consume.1.toNat = b.value := by
  unfold consume value
  split
  · simp
  · dsimp only [Bool.toNat_true]
    omega

theorem Sound.value {b : Budget} (start : b.Sound) : 0 ≤ b.value := by
  have fraction := start.fraction
  unfold Budget.value
  omega

@[simp] theorem consumePercent (b : Budget) : b.consume.2.percent = b.percent := by
  unfold consume
  split <;> rfl

end Budget

inductive Owner where
  | route (id : String)
  | client
  deriving DecidableEq, Repr

structure Account where
  owner : Owner
  budget : Budget
  deriving DecidableEq, Repr

/- `order` is the LRU list, most recent first, with the account of each key. -/
structure ClientCap where
  percent : Int
  burst : Int
  lruSize : Int
  order : List (String × Nat) := []
  deriving DecidableEq, Repr

def ClientCap.bucket (c : ClientCap) (next : Nat) (key : String) : Nat × ClientCap × List Account :=
  let key := if key = "" then "anonymous" else key
  match c.order.find? (fun e => e.1 = key) with
  | some found => (found.2,{ c with order := found :: c.order.filter (fun e => e.1 ≠ key) },[])
  | none =>
    let order := (key,next) :: c.order
    (next,{ c with order := if 0 < c.lruSize ∧ c.lruSize < order.length then order.dropLast else order },
      [⟨.client,Budget.new c.percent c.burst⟩])

structure Entry where
  budgetPolicy : RetryBudgetPolicy
  clientPolicy : ClientRetryCapPolicy
  budget : Option Nat
  clientCap : Option Nat
  lastUsed : Int
  deriving DecidableEq, Repr

structure RetryRegistry where
  routes : Map String Entry := Map.empty
  ttl : Duration := 5 * minute
  accounts : List Account := []
  caps : List ClientCap := []

namespace RetryRegistry

/- A new entry with its own budget and cap; an error leaves nothing behind. -/
def renew (r : RetryRegistry) (routeID : String) (budget : RetryBudgetPolicy) (client : ClientRetryCapPolicy) (now : Int) :
    Option Entry × RetryRegistry :=
  if client.enabled ∧ client.lruSize ≤ 0 then (none,r)
  else
    let entry : Entry := ⟨budget,client,if budget.enabled then some r.accounts.length else none,
      if client.enabled then some r.caps.length else none,now⟩
    (some entry,{ r with
      routes := r.routes.insert routeID entry
      accounts := r.accounts ++
        (if budget.enabled then [⟨.route routeID,Budget.new budget.percentOfSuccesses budget.burst⟩] else [])
      caps := r.caps ++ (if client.enabled then [⟨client.percentOfSuccesses,client.burst,client.lruSize,[]⟩] else []) })

def budgets (r : RetryRegistry) (routeID : String) (budget : RetryBudgetPolicy) (client : ClientRetryCapPolicy) (now : Int) :
    Option Entry × RetryRegistry :=
  if routeID = "" then (none,r)
  else match r.routes.get routeID with
    | none => r.renew routeID budget client now
    | some entry =>
      if entry.budgetPolicy = budget ∧ entry.clientPolicy = client then
        let entry := { entry with lastUsed := now }
        (some entry,{ r with routes := r.routes.insert routeID entry })
      else r.renew routeID budget client now

def reapOnce (r : RetryRegistry) (now : Int) : RetryRegistry :=
  { r with routes := fun id => (r.routes.get id).filter (fun e => decide (now - r.ttl ≤ e.lastUsed)) }

def update (r : RetryRegistry) (n : Nat) (f : Budget → Budget) : RetryRegistry :=
  match r.accounts[n]? with
  | none => r
  | some a => { r with accounts := r.accounts.set n { a with budget := f a.budget } }

def consume (r : RetryRegistry) (n : Nat) : Bool × RetryRegistry :=
  match r.accounts[n]? with
  | none => (false,r)
  | some a => (a.budget.consume.1,r.update n (fun b => b.consume.2))

end RetryRegistry
end ReverseProxy.RetryBudget
