import Mathlib.Tactic.Basic
import ResumableScript.Proofs.Evaluation.Simulation

/-! One run of a script. What is known of its book is handed on from expression to expression,
through handlers too, until the run leaves with an exit that no handler takes. -/
namespace ResumableScript

variable {β : Type}

/-- What is known of a book while its run goes on, and where the run has ended. -/
structure Course (β : Type) where
  Along : β → Prop
  Ended : Exit → β → Prop

def Course.After (course : Course β) {α : Type} : Except Exit α × β → Prop
  | (.ok _, book) | (.error (.raised _), book) => course.Along book
  | (.error exit, book) => course.Ended exit book

/-- The primitives of a discipline keep to a course. -/
structure Invariant (d : Discipline β) extends Course β where
  malformed : ∀ fault book, Along book → Ended (.failed (.malformed fault)) book
  tooDeep : ∀ book, Along book → Ended (.failed (.limit (.depth d.maxDepth))) book
  tick : ∀ book, Along book → toCourse.After (d.tick book)
  answer : ∀ name args kwargs book, SpecialForm.ofName? name = none → d.externals.contains name →
    Along book → toCourse.After (d.answer name args kwargs book)
  emit : ∀ emission book, Along book → Along (d.emit emission book)
  pass : ∀ waypoint book, Along book → Along (d.pass waypoint book) := by exact fun _ _ h => h
  leftPass : ∀ exit waypoint book, Ended exit book → Ended exit (d.pass waypoint book) := by
    exact fun _ _ _ h => h

namespace Invariant

variable {d : Discipline β} (I : Invariant d)

def alignment : Alignment β β where
  Together book book' := book = book' ∧ I.Along book
  LeftGone exit book _ := I.Ended exit book
  RightGone _ _ _ := False
  Shared exit := exit.IsFinal → ∀ book, I.Along book → I.Ended exit book

variable {I}

theorem After.beside {α : Type} {result : Except Exit α} {book : β} (h : I.After (result, book)) :
    I.alignment.Outcome (result, book) (result, book) := by
  cases result with
  | ok a => exact .value ⟨rfl, h⟩
  | error exit =>
    cases exit with
    | raised e =>
      refine .exit ⟨rfl, h⟩ ?_
      intro final
      exact final.elim
    | suspended call => exact .left trivial h
    | failed fault => exact .left trivial h

theorem Outcome.after {α : Type} {m : Machine β} {result : Except Exit α}
    (h : I.alignment.machines.Outcome (result, m) (result, m)) : I.After (result, m.book) := by
  generalize first : (result, m) = r₁ at h
  generalize second : (result, m) = r₂ at h
  cases h with
  | together aligned shared =>
    cases first
    cases result with
    | ok a => exact aligned.1.2
    | error exit =>
      cases exit with
      | raised e => exact aligned.1.2
      | suspended call => exact shared _ rfl trivial _ aligned.1.2
      | failed fault => exact shared _ rfl trivial _ aligned.1.2
  | @left exit _ _ final gone =>
    cases first
    cases exit with
    | raised e => exact final.elim
    | suspended call => exact gone
    | failed fault => exact gone
  | right final gone => exact gone.elim

variable (I) in
def simulation : Simulation d d where
  toAlignment := I.alignment
  externals := rfl
  maxDepth := rfl
  sharedRaised _ := fun final => final.elim
  sharedMalformed fault := fun _ => I.malformed fault
  sharedDepth := fun _ => I.tooDeep
  tick := by
    rintro book _ ⟨rfl, along⟩
    exact After.beside (I.tick book along)
  answer := by
    rintro book _ name args kwargs plain member ⟨rfl, along⟩
    exact After.beside (I.answer name args kwargs book plain member along)
  emit := by
    rintro book _ emission ⟨rfl, along⟩
    exact ⟨rfl, I.emit emission book along⟩
  pass := by
    rintro book _ waypoint ⟨rfl, along⟩
    exact ⟨rfl, I.pass waypoint book along⟩
  leftPass exit waypoint book _ := I.leftPass exit waypoint book
  leftGone _ _ := .of_const fun _ _ h => h
  rightGone _ _ := .of_const fun _ _ h => h

variable (I) in
theorem after_body (forms : List Expr) {m : Machine β} (along : I.Along m.book) :
    let final := evalBody d 0 .nil forms m
    I.After (final.1, final.2.book) :=
  Outcome.after (I.simulation.outcome_body forms ⟨⟨rfl, along⟩, rfl, rfl⟩)

end Invariant

end ResumableScript
