import Mathlib.Tactic.Basic
import ResumableScript.Engine.Step
import ResumableScript.Proofs.Evaluation.Simulation

/-! The budgets of a step are hard bounds. A count that goes beyond one of them ends the step with
the fault that says so, and no handler of the script turns it into anything else. -/
namespace ResumableScript
open Eval

/-- An exit that is not due to a loop without progress. -/
def Exit.Moving : Exit → Prop
  | .failed .stalled => False
  | _ => True

namespace Replay

def Within (setting : Setting) (r : Replay) : Prop :=
  r.replaySteps ≤ setting.replayBudget ∧ r.steps ≤ setting.limits.maxSteps.toNat

def BeyondReplay (setting : Setting) (exit : Exit) (r : Replay) : Prop :=
  exit = .failed (.replay (.exceeded setting.replayBudget)) ∧
    r.replaySteps = setting.replayBudget + 1 ∧ r.steps ≤ setting.limits.maxSteps.toNat

def BeyondSteps (setting : Setting) (exit : Exit) (r : Replay) : Prop :=
  exit = .failed (.limit (.steps setting.limits.maxSteps)) ∧
    r.replaySteps ≤ setting.replayBudget ∧ r.steps = setting.limits.maxSteps.toNat + 1

/-- One run beside itself: it stays within its budgets until it leaves beyond one of them. -/
def budgets (setting : Setting) : Alignment Replay Replay where
  Together r r' := r = r' ∧ r.Within setting
  LeftGone exit r _ := r.BeyondReplay setting exit ∨ r.BeyondSteps setting exit
  RightGone _ _ _ := False
  Shared := Exit.Moving

variable {setting : Setting}

theorem overrun_live {r : Replay} {fault : Fault} (live : r.unread = [])
    (excess : r.overrun? setting = some fault) :
    fault = .limit (.steps setting.limits.maxSteps) ∧ setting.limits.maxSteps.toNat < r.steps ∨
      fault = .limit (.time setting.limits.maxDurationMs) ∧
        r.steps ≤ setting.limits.maxSteps.toNat := by
  unfold overrun? at excess
  rw [live] at excess
  dsimp only at excess
  split at excess
  · next beyond => exact .inl ⟨(Option.some.inj excess).symm, beyond⟩
  · next within =>
    split at excess
    · exact .inr ⟨(Option.some.inj excess).symm, Nat.not_lt.mp within⟩
    · cases excess

theorem overrun_none {r : Replay} (live : r.unread = []) (excess : r.overrun? setting = none) :
    r.steps ≤ setting.limits.maxSteps.toNat := by
  unfold overrun? at excess
  rw [live] at excess
  dsimp only at excess
  split at excess
  · cases excess
  · next within => exact Nat.not_lt.mp within

theorem overrun_cases {r : Replay} {fault : Fault} (excess : r.overrun? setting = some fault) :
    (∃ allowed, fault = .limit (.steps allowed)) ∨ (∃ allowed, fault = .limit (.time allowed)) ∨
      ∃ budget, fault = .replay (.exceeded budget) := by
  cases unread : r.unread with
  | nil =>
    obtain ⟨rfl, -⟩ | ⟨rfl, -⟩ := overrun_live unread excess
    · exact .inl ⟨_, rfl⟩
    · exact .inr (.inl ⟨_, rfl⟩)
  | cons entry rest =>
    unfold overrun? at excess
    rw [unread] at excess
    dsimp only at excess
    split at excess
    · cases excess
      exact .inr (.inr ⟨_, rfl⟩)
    · cases excess

theorem tick_budgets {r : Replay} (within : r.Within setting) :
    (budgets setting).Outcome ((discipline setting).tick r) ((discipline setting).tick r) := by
  obtain ⟨unread, steps, replaySteps, seen, emitted⟩ := r
  obtain ⟨replayed, counted⟩ := within
  dsimp only at replayed counted
  unfold Discipline.tick
  simp only [discipline, count]
  cases unread with
  | nil =>
    cases excess : overrun? setting ⟨[], steps + 1, replaySteps, seen, emitted⟩ with
    | none => exact .value ⟨rfl, replayed, overrun_none rfl excess⟩
    | some fault =>
      obtain ⟨rfl, beyond⟩ | ⟨rfl, kept⟩ := overrun_live rfl excess
      · have spent : steps + 1 = setting.limits.maxSteps.toNat + 1 := by
          dsimp only at beyond
          omega
        exact .left trivial (.inr ⟨rfl, replayed, spent⟩)
      · exact .exit ⟨rfl, replayed, kept⟩ trivial
  | cons entry rest =>
    unfold overrun?
    dsimp only
    by_cases beyond : setting.replayBudget < replaySteps + 1
    · have spent : replaySteps + 1 = setting.replayBudget + 1 := by omega
      rw [if_pos beyond]
      exact .left trivial (.inl ⟨rfl, spent, counted⟩)
    · rw [if_neg beyond]
      exact .value ⟨rfl, Nat.not_lt.mp beyond, counted⟩

theorem answer_budgets (name : String) (args : List Value) (kwargs : List (String × Value))
    {r : Replay} (within : r.Within setting) :
    (budgets setting).Outcome (r.answer name args kwargs) (r.answer name args kwargs) := by
  unfold answer
  split
  · exact .exit ⟨rfl, within⟩ trivial
  · next entry rest _ =>
    split
    · exact .exit ⟨rfl, within⟩ trivial
    · exact .answered entry.instruction ⟨rfl, within⟩ fun _ => trivial

def keepsBudgets (setting : Setting) : Simulation (discipline setting) (discipline setting) where
  toAlignment := budgets setting
  externals := rfl
  maxDepth := rfl
  sharedRaised _ := trivial
  sharedMalformed _ := trivial
  sharedDepth := trivial
  tick := by
    rintro r _ ⟨rfl, within⟩
    exact tick_budgets within
  answer := by
    rintro r _ name args kwargs _ _ ⟨rfl, within⟩
    exact answer_budgets name args kwargs within
  emit := by
    rintro r _ emission ⟨rfl, within⟩
    exact ⟨rfl, within⟩
  leftGone _ _ := .of_const fun _ _ h => h
  rightGone _ _ := .of_const fun _ _ h => h

end Replay

/-- A count that is a word is beyond a replay budget exactly if it is beyond the word nearest to
that. -/
theorem replayBudget_saturated (setting : Setting) (count : UInt64) :
    setting.replayBudget < count.toNat ↔
      min setting.replayBudget (UInt64.size - 1) < count.toNat := by
  have word := count.toNat_lt_size
  omega

/-- How a script leaves its budgets: within both of them, or with the fault of the one that is used
up. -/
theorem evalScript_budgets (setting : Setting) (forms : List Expr) {m : Machine Replay}
    (within : m.book.Within setting) :
    let final := evalScript setting forms m
    (final.2.book.Within setting ∧ final.1 ≠ .error (.failed .stalled)) ∨
      ∃ exit, final.1 = .error exit ∧
        (final.2.book.BeyondReplay setting exit ∨ final.2.book.BeyondSteps setting exit) := by
  have body := (Replay.keepsBudgets setting).outcome_body forms
    (show (Replay.keepsBudgets setting).Together' m m from ⟨⟨rfl, within⟩, rfl, rfl⟩)
  unfold evalScript
  generalize evalBody (Replay.discipline setting) 0 .nil forms m = result at body ⊢
  obtain ⟨result, m'⟩ := result
  cases body with
  | together aligned shared =>
    obtain ⟨⟨-, within'⟩, -⟩ := aligned
    cases result with
    | ok value =>
      refine .inl ?_
      dsimp only
      split
      · exact ⟨within', nofun⟩
      · exact ⟨within', nofun⟩
    | error exit =>
      refine .inl ⟨within', fun same => ?_⟩
      cases same
      exact shared _ rfl
  | left final gone => exact .inr ⟨_, rfl, gone⟩
  | right final gone => exact gone.elim

/-- Where the budgets are less than the greatest word, words can count what is held against them. -/
theorem evalScript_words (setting : Setting) (forms : List Expr) {m : Machine Replay}
    (within : m.book.Within setting) (replayed : setting.replayBudget + 1 < UInt64.size)
    (counted : setting.limits.maxSteps.toNat + 1 < UInt64.size) :
    let final := evalScript setting forms m
    final.2.book.replaySteps < UInt64.size ∧ final.2.book.steps < UInt64.size := by
  have ends := evalScript_budgets setting forms within
  generalize evalScript setting forms m = final at ends ⊢
  obtain ⟨⟨replays, steps⟩, -⟩ | ⟨_, -, ⟨-, replays, steps⟩ | ⟨-, replays, steps⟩⟩ := ends
  all_goals exact ⟨by omega, by omega⟩

theorem Engine.outcome_moving {c : Continuation} {printsSeen : Nat} {result : Except Exit Value}
    (moving : result ≠ .error (.failed .stalled)) :
    Engine.outcome c printsSeen result ≠ .error (.evaluation .stalled) := by
  intro same
  match result, same with
  | .error (.failed fault), same =>
    cases StepFault.evaluation.inj (Except.error.inj same)
    exact moving rfl

/-- A step ends after at most one count beyond each of its budgets, whatever loops the script has: a
loop's bound on its rounds is never what ends it. A step that went beyond a budget has failed with
the fault of that budget; one that finished, paused or raised an exception kept within both. -/
theorem execute_budget (engine : Engine) (c : Continuation) (forms : List Expr)
    (readable : Script.parse c.source = .ok forms) :
    let d := Replay.discipline (c.setting engine)
    let replayBudget := c.limits.maxSteps.toNat * c.journal.length
    let maxSteps := c.limits.maxSteps
    let spent := (engine.evaluate c forms).2.book
    let outcome := (engine.execute c).outcome
    (∀ condition body rounds m, d.room m.book < rounds →
      repeatWhile (condition.eval d) (evalBody d 0 .nil body) rounds m =
        evalLoop d (condition :: body) m) ∧
    outcome ≠ .error (.evaluation .stalled) ∧
    spent.replaySteps ≤ replayBudget + 1 ∧ spent.steps ≤ maxSteps.toNat + 1 ∧
    (replayBudget < spent.replaySteps →
      outcome = .error (.evaluation (.replay (.exceeded replayBudget)))) ∧
    (maxSteps.toNat < spent.steps → outcome = .error (.evaluation (.limit (.steps maxSteps)))) ∧
    ((∃ progress, outcome = .ok progress) ∨ (∃ e, outcome = .error (.uncaught e)) →
      spent.replaySteps ≤ replayBudget ∧ spent.steps ≤ maxSteps.toNat) := by
  have budget : (c.setting engine).replayBudget = c.limits.maxSteps.toNat * c.journal.length := rfl
  have ends := evalScript_budgets (c.setting engine) forms
    (show c.machine.book.Within (c.setting engine) from ⟨Nat.zero_le _, Nat.zero_le _⟩)
  dsimp only
  refine ⟨fun condition body rounds m => evalLoop_rounds _ condition body rounds m, ?_⟩
  rw [Engine.execute, readable]
  dsimp only
  unfold Engine.evaluate
  generalize evalScript (c.setting engine) forms c.machine = final at ends ⊢
  obtain ⟨result, m⟩ := final
  obtain ⟨⟨replayed, counted⟩, moving⟩ | ⟨exit, rfl, gone⟩ := ends
  · -- within both budgets, neither of which can have been met
    rw [budget] at replayed
    refine ⟨Engine.outcome_moving moving, Nat.le_succ_of_le replayed, Nat.le_succ_of_le counted,
      fun beyond => ?_, fun beyond => ?_, fun _ => ⟨replayed, counted⟩⟩
    · exact absurd replayed (Nat.not_le.mpr beyond)
    · exact absurd counted (Nat.not_le.mpr beyond)
  · -- one count beyond the replay budget, or beyond the step budget
    obtain ⟨rfl, replayed, counted⟩ | ⟨rfl, replayed, counted⟩ := gone
    · rw [budget] at replayed ⊢
      refine ⟨nofun, Nat.le_of_eq replayed, Nat.le_succ_of_le counted, fun _ => rfl,
        fun beyond => absurd counted (Nat.not_le.mpr beyond), ?_⟩
      rintro (⟨_, same⟩ | ⟨_, same⟩) <;> cases same
    · rw [budget] at replayed
      refine ⟨nofun, Nat.le_succ_of_le replayed, Nat.le_of_eq counted,
        fun beyond => absurd replayed (Nat.not_le.mpr beyond), fun _ => rfl, ?_⟩
      rintro (⟨_, same⟩ | ⟨_, same⟩) <;> cases same

/-- An endless loop, replayed against an answer that it never asks for. -/
theorem execute_budget_endless_loop :
    let engine := Engine.steady 1
    let c : Continuation :=
      { source := "(while true nil)", externals := ["f"], limits := ⟨9, 9, 9⟩,
        journal := [⟨"f", .returnValue .null⟩] }
    ∃ forms, Script.parse c.source = .ok forms ∧
      (engine.execute c).outcome ≠ .error (.evaluation .stalled) ∧
      (engine.evaluate c forms).2.book.replaySteps ≤ 10 := by
  have readable : (Script.parse "(while true nil)").isOk = true := by decide +kernel
  cases parsed : Script.parse "(while true nil)" with
  | error e =>
    rw [parsed] at readable
    cases readable
  | ok forms =>
    have kept := execute_budget (.steady 1)
      { source := "(while true nil)", externals := ["f"], limits := ⟨9, 9, 9⟩,
        journal := [⟨"f", .returnValue .null⟩] } forms parsed
    exact ⟨forms, parsed, kept.2.1, kept.2.2.1⟩

end ResumableScript
