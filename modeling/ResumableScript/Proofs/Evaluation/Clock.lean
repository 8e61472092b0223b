import Mathlib.Tactic.Basic
import ResumableScript.Proofs.Evaluation.Following

/-! The clock does not show while it is in time. Two disciplines with the same primitives evaluate
alike, and the primitives of a replay read the time only to find its limit met. -/
namespace ResumableScript
open Eval

variable {β : Type}

/-- Disciplines whose primitives do the same on every book. -/
structure Discipline.Alike (d₁ d₂ : Discipline β) : Prop where
  externals : d₁.externals = d₂.externals
  maxDepth : d₁.maxDepth = d₂.maxDepth
  tick : d₁.tick = d₂.tick
  answer : d₁.answer = d₂.answer
  emit : d₁.emit = d₂.emit
  pass : d₁.pass = d₂.pass
  room : d₁.room = d₂.room

variable {d₁ d₂ : Discipline β}

def Discipline.Alike.congruence (alike : d₁.Alike d₂) : Congruence d₁ d₂ where
  Rel x₁ x₂ := x₁ = x₂
  pure _ := rfl
  bind := by
    rintro α γ x _ f₁ f₂ rfl rest
    rw [funext rest]
  raised _ := rfl
  malformed _ := rfl
  handle := by
    rintro α x _ h₁ h₂ rfl caught
    rw [funext caught]
  tick := congrArg onBook alike.tick
  nested := by
    rintro α x _ rfl
    unfold nested
    rw [alike.maxDepth]
  pass waypoint := by
    unfold Eval.pass
    rw [alike.pass]
  within := by
    rintro α x _ rfl
    unfold within
    rw [alike.pass]
  readVariable _ := rfl
  setVariable _ _ := rfl
  emit emission := by
    unfold Eval.emit
    rw [alike.emit]
  externals name := congrArg (·.contains name) alike.externals
  callExternal name args kwargs _ _ := by
    unfold callExternal
    rw [alike.answer]
  loop test work := by
    unfold loop
    rw [test, work, alike.room]

theorem Discipline.Alike.evalBody_eq (alike : d₁.Alike d₂) (forms : List Expr) :
    evalBody d₁ 0 .nil forms = evalBody d₂ 0 .nil forms :=
  alike.congruence.body 0 .nil forms

namespace Replay

variable {setting : Setting}

/-- A step that is counted behind the journal is beyond the step budget, or not yet at a time that
matters. -/
theorem overrun_timely (timely : setting.limits.Timely setting.clock) {r : Replay}
    (live : r.unread = []) (counted : 0 < r.steps) :
    r.overrun? setting = if setting.limits.maxSteps.toNat < r.steps then
      some (.limit (.steps setting.limits.maxSteps)) else none := by
  unfold overrun?
  rw [live]
  dsimp only
  split
  · rfl
  · next within =>
    refine if_neg ?_
    rintro ⟨looked, met⟩
    have inTime := timely r.steps (Nat.not_lt.mp within) counted looked
    omega

variable {clock : Nat → Nat}

theorem tick_timely (timely : setting.limits.Timely setting.clock)
    (timely' : setting.limits.Timely clock) :
    (discipline setting).tick = (discipline { setting with clock }).tick := by
  funext r
  have same : r.count.overrun? setting = r.count.overrun? { setting with clock } := by
    cases unread : r.unread with
    | nil =>
      have count : r.count = { r with steps := r.steps + 1 } := by rw [count, unread]
      have live : r.count.unread = [] := by rw [count, unread]
      have counted : 0 < r.count.steps := by rw [count]; exact Nat.succ_pos _
      rw [overrun_timely timely live counted, overrun_timely timely' live counted]
    | cons entry rest =>
      have more : r.count.unread = entry :: rest := by rw [count, unread]
      unfold overrun?
      rw [more]
      rfl
  unfold Discipline.tick
  simp only [discipline, same]

theorem discipline_timely (timely : setting.limits.Timely setting.clock)
    (timely' : setting.limits.Timely clock) :
    (discipline setting).Alike (discipline { setting with clock }) where
  externals := rfl
  maxDepth := rfl
  tick := tick_timely timely timely'
  answer := rfl
  emit := rfl
  pass := rfl
  room := rfl

end Replay

theorem evalScript_timely {setting : Setting} {clock : Nat → Nat} (forms : List Expr)
    (timely : setting.limits.Timely setting.clock) (timely' : setting.limits.Timely clock) :
    evalScript setting forms = evalScript { setting with clock } forms := by
  funext m
  unfold evalScript
  rw [(Replay.discipline_timely timely timely').evalBody_eq]

end ResumableScript
