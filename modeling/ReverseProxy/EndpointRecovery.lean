import ReverseProxy.ServingPools

/-! How an endpoint gets well again. Active and passive failures eject it, active
successes in a row bring it back. `streak` is kept for the statements: the active
successes since the last active failure and the last ejection. The code's own counter
is not touched by an ejection that a passive failure causes. -/
namespace ReverseProxy.EndpointRecovery
open GoValues PoolRegistry
open ControlPlane (Report)
open PolicyBuild (Health)
open Transition (Runs anyStep runAll runAllRuns)

def reaches (cfg : Health) (fails : Int) : Bool :=
  decide (0 < cfg.unhealthyAfterFailures ∧ cfg.unhealthyAfterFailures ≤ wrap32 (fails + 1))

def ejects (e : EndpointRuntime) : Report → Bool
  | .activeFailure _ => !e.isDraining && reaches e.config e.consecutiveActiveFails
  | .passiveFailure _ => !e.isDraining && reaches e.config e.consecutivePassiveFails
  | _ => false

structure Watched where
  endpoint : EndpointRuntime
  streak : Nat := 0

def fresh (cfg : Health) : Watched := { endpoint := .new cfg }

def streakAfter (w : Watched) : Report → Nat
  | .activeSuccess _ => w.streak + 1
  | .activeFailure _ => 0
  | r => if ejects w.endpoint r then 0 else w.streak

def step (w : Watched) (r : Report) : Option Watched := some { endpoint := r.update w.endpoint, streak := streakAfter w r }

inductive Judged (e : EndpointRuntime) : Report → EndpointRuntime → Prop where
  | recovered {now} (active : e.isDraining = false)
      (enough : e.config.healthyAfterSuccesses ≤ wrap32 (e.consecutiveActiveSuccess + 1)) {e'}
      (count : e'.consecutiveActiveSuccess = wrap32 (e.consecutiveActiveSuccess + 1)) (config : e'.config = e.config)
      (state : e'.state = .healthy) : Judged e (.activeSuccess now) e'
  | succeeded {now e'} (count : e'.consecutiveActiveSuccess = wrap32 (e.consecutiveActiveSuccess + 1))
      (config : e'.config = e.config) (state : e'.state = e.state) : Judged e (.activeSuccess now) e'
  | probeFailed {now e'} (count : e'.consecutiveActiveSuccess = 0) (config : e'.config = e.config)
      (state : e'.state = e.state ∨ e'.state = .unhealthy) : Judged e (.activeFailure now) e'
  | requestEjects {now e'} (ejected : ejects e (.passiveFailure now) = true)
      (count : e'.consecutiveActiveSuccess = e.consecutiveActiveSuccess) (config : e'.config = e.config)
      (state : e'.state = .unhealthy) : Judged e (.passiveFailure now) e'
  | untouched {r e'} (quiet : ∀ w : Watched, w.endpoint = e → streakAfter w r = w.streak)
      (count : e'.consecutiveActiveSuccess = e.consecutiveActiveSuccess) (config : e'.config = e.config)
      (state : e'.state = e.state) : Judged e r e'

theorem activeSuccessJudged {e : EndpointRuntime} (active : e.isDraining = false) (now : Int) :
    Judged e (.activeSuccess now) (e.recordActiveSuccess now) := by
  unfold EndpointRuntime.recordActiveSuccess
  rw [if_neg (by simp [active])]
  dsimp only
  split
  · rename_i enough
    exact .recovered active enough.2 rfl rfl rfl
  · exact .succeeded rfl rfl rfl

theorem activeFailureJudged {e : EndpointRuntime} (active : e.isDraining = false) (now : Int) :
    Judged e (.activeFailure now) (e.recordActiveFailure now) := by
  unfold EndpointRuntime.recordActiveFailure
  rw [if_neg (by simp [active])]
  dsimp only
  split
  · exact .probeFailed rfl rfl (.inr rfl)
  · exact .probeFailed rfl rfl (.inl rfl)

theorem passiveFailureJudged {e : EndpointRuntime} (active : e.isDraining = false) (now : Int) :
    Judged e (.passiveFailure now) (e.recordPassiveFailure now) := by
  unfold EndpointRuntime.recordPassiveFailure
  rw [if_neg (by simp [active])]
  dsimp only
  split
  · rename_i reached
    exact .requestEjects (by simp only [ejects, reaches, active, Bool.not_false, Bool.true_and, decide_eq_true reached]) rfl rfl rfl
  · rename_i below
    refine .untouched ?_ rfl rfl rfl
    rintro w rfl
    simp only [streakAfter, ejects, reaches, active, Bool.not_false, Bool.true_and, decide_eq_false below, if_neg Bool.false_ne_true]

theorem updateJudged {e : EndpointRuntime} (active : e.isDraining = false) (r : Report) : Judged e r (r.update e) := by
  cases r with
  | inflightStart => exact .untouched (fun _ _ => rfl) rfl rfl rfl
  | inflightDone => exact .untouched (fun _ _ => rfl) rfl rfl rfl
  | passiveSuccess => exact .untouched (fun _ _ => rfl) rfl rfl rfl
  | passiveFailure now => exact passiveFailureJudged active now
  | activeSuccess now => exact activeSuccessJudged active now
  | activeFailure now => exact activeFailureJudged active now

/- The guard: a passive failure ejects only when no active success is counted, unless
one success is enough anyway. -/
def Clean (w : Watched) (r : Report) : Prop :=
  ∀ now, r = .passiveFailure now → ejects w.endpoint r = true →
    w.endpoint.consecutiveActiveSuccess ≤ 0 ∨ w.endpoint.config.healthyAfterSuccesses ≤ 1

instance (w : Watched) (r : Report) : Decidable (Clean w r) :=
  match r with
  | .passiveFailure now => decidable_of_iff
      (ejects w.endpoint (.passiveFailure now) = true →
        w.endpoint.consecutiveActiveSuccess ≤ 0 ∨ w.endpoint.config.healthyAfterSuccesses ≤ 1)
      ⟨fun clean _ _ => clean,fun clean => clean now rfl⟩
  | .inflightStart | .inflightDone | .passiveSuccess | .activeSuccess _ | .activeFailure _ =>
    .isTrue (fun _ other => nomatch other)

structure Earned (cfg : Health) (w : Watched) : Prop where
  config : w.endpoint.config = cfg
  active : w.endpoint.isDraining = false
  range : -(2^31) ≤ w.endpoint.consecutiveActiveSuccess
  counted : w.endpoint.consecutiveActiveSuccess ≤ w.streak ∨ cfg.healthyAfterSuccesses ≤ 1

theorem freshEarned (cfg : Health) : Earned cfg (fresh cfg) := by
  refine ⟨rfl,rfl,?_,.inl (Int.le_refl 0)⟩
  change -(2^31) ≤ (0 : Int)
  omega

namespace Earned
variable {cfg : Health} {w : Watched}

theorem wraps (earned : Earned cfg w) :
    wrap32 (w.endpoint.consecutiveActiveSuccess + 1) ≤ w.endpoint.consecutiveActiveSuccess + 1 := by
  have range := earned.range
  exact wrap32Le (by omega)

theorem counts (earned : Earned cfg w) :
    wrap32 (w.endpoint.consecutiveActiveSuccess + 1) ≤ ((w.streak + 1 : Nat) : Int) ∨ cfg.healthyAfterSuccesses ≤ 1 := by
  have small := earned.wraps
  rcases earned.counted with counted | one
  · exact .inl (by omega)
  · exact .inr one

theorem step (earned : Earned cfg w) {r : Report} (clean : Clean w r) {w' : Watched}
    (taken : EndpointRecovery.step w r = some w') : Earned cfg w' := by
  cases Option.some.inj taken
  have active := (ServingPools.updateDraining r w.endpoint).trans earned.active
  cases updateJudged earned.active r with
  | recovered _ enough count config state =>
    exact ⟨config.trans earned.config,active,by rw [count]; exact wrap32Range _,by rw [count]; exact earned.counts⟩
  | succeeded count config state =>
    exact ⟨config.trans earned.config,active,by rw [count]; exact wrap32Range _,by rw [count]; exact earned.counts⟩
  | probeFailed count config state =>
    exact ⟨config.trans earned.config,active,by rw [count]; omega,.inl (by rw [count]; exact Int.le_refl 0)⟩
  | requestEjects ejected count config state =>
    refine ⟨config.trans earned.config,active,by rw [count]; exact earned.range,?_⟩
    rcases clean _ rfl ejected with none | one
    · exact .inl (by rw [count]; exact Int.le_trans none (Int.natCast_nonneg _))
    · exact .inr (earned.config ▸ one)
  | untouched quiet count config state =>
    refine ⟨config.trans earned.config,active,by rw [count]; exact earned.range,?_⟩
    rw [count, quiet w rfl]
    exact earned.counted

end Earned

theorem recoveryEarned {cfg : Health} {reports : List Report} {w w' : Watched} (run : Runs step Clean (fresh cfg) reports w)
    {r : Report} (taken : step w r = some w') (sick : w.endpoint.state = .unhealthy) (well : w'.endpoint.state = .healthy) :
    (∃ now, r = .activeSuccess now) ∧ cfg.healthyAfterSuccesses ≤ w'.streak := by
  have earned : Earned cfg w := run.preserve (Earned cfg) (fun _ _ _ earned clean taken => earned.step clean taken) (freshEarned cfg)
  cases Option.some.inj taken
  cases updateJudged earned.active r with
  | @recovered now _ enough count config state =>
    refine ⟨⟨now,rfl⟩,?_⟩
    rw [earned.config] at enough
    change cfg.healthyAfterSuccesses ≤ ((w.streak + 1 : Nat) : Int)
    rcases earned.counts with counted | one
    · exact Int.le_trans enough counted
    · omega
  | succeeded count config state => cases (state.trans sick).symm.trans well
  | probeFailed count config state =>
    rcases state with same | ejected
    · cases (same.trans sick).symm.trans well
    · cases ejected.symm.trans well
  | requestEjects ejected count config state => cases state.symm.trans well
  | untouched quiet count config state => cases (state.trans sick).symm.trans well

def twice : Health := ⟨"",0,0,1,2,0,0⟩

theorem secondSuccessRecovers : ∃ w w', Runs step Clean (fresh twice) [.passiveFailure 1,.activeSuccess 2] w ∧
    step w (.activeSuccess 3) = some w' ∧ w.endpoint.state = .unhealthy ∧ w'.endpoint.state = .healthy ∧
    twice.healthyAfterSuccesses ≤ w'.streak := by
  have run : Runs step Clean (fresh twice) [.passiveFailure 1,.activeSuccess 2] _ := runAllRuns rfl
  exact ⟨_,_,run,rfl,rfl,rfl,(recoveryEarned run rfl rfl rfl).2⟩

theorem staleSuccessRecovers : ∃ w w', Runs step anyStep (fresh twice) [.activeSuccess 1,.passiveFailure 2] w ∧
    step w (.activeSuccess 3) = some w' ∧ w.endpoint.state = .unhealthy ∧ w'.endpoint.state = .healthy ∧
    w'.streak < twice.healthyAfterSuccesses :=
  ⟨_,_,runAllRuns rfl,rfl,rfl,rfl,by decide⟩

end ReverseProxy.EndpointRecovery
