import Mathlib.Tactic.Basic
import ResumableScript.Proofs.Evaluation.Simulation

/-! Evaluation that is watched. The observer writes down each external call that a script makes and
what the script got for it, and takes no part in the evaluation itself. -/
namespace ResumableScript

structure ObservedCall where
  call : ExternalCall
  received : Except Exit Value

structure Observed (β : Type) where
  book : β
  calls : List ObservedCall := []

variable {β : Type} (d : Discipline β)

def Discipline.answerObserved (name : String) (args : List Value) (kwargs : List (String × Value))
    (o : Observed β) : Except Exit Value × Observed β :=
  let (received, book) := d.answer name args kwargs o.book
  (received, ⟨book, o.calls ++ [⟨.ofValues name args kwargs, received⟩]⟩)

def Discipline.observed : Discipline (Observed β) where
  externals := d.externals
  maxDepth := d.maxDepth
  count o := { o with book := d.count o.book }
  overrun? o := d.overrun? o.book
  answer := d.answerObserved
  emit emission o := { o with book := d.emit emission o.book }
  pass waypoint o := { o with book := d.pass waypoint o.book }
  room o := d.room o.book
  room_count o := d.room_count o.book
  room_count_le o := d.room_count_le o.book
  room_answer name args kwargs o := d.room_answer name args kwargs o.book
  room_emit emission o := d.room_emit emission o.book
  room_pass waypoint o := d.room_pass waypoint o.book

theorem observed_externals : d.externals = d.observed.externals := rfl

theorem observed_maxDepth : d.maxDepth = d.observed.maxDepth := rfl

/-- A run and its observed copy. -/
def watching : Alignment β (Observed β) where
  Together book o := o.book = book
  LeftGone _ _ _ := False
  RightGone _ _ _ := False
  Shared _ := True

theorem tick_watching (o : Observed β) :
    watching.Outcome (d.tick o.book) (d.observed.tick o) := by
  unfold Discipline.tick
  simp only [Discipline.observed]
  split
  · exact .value rfl
  · exact .exit rfl trivial

theorem answer_watching (name : String) (args : List Value) (kwargs : List (String × Value))
    (o : Observed β) :
    watching.Outcome (d.answer name args kwargs o.book) (d.answerObserved name args kwargs o) := by
  have recorded : d.answerObserved name args kwargs o =
      ((d.answer name args kwargs o.book).1, ⟨(d.answer name args kwargs o.book).2,
        o.calls ++ [⟨.ofValues name args kwargs, (d.answer name args kwargs o.book).1⟩]⟩) := rfl
  rw [recorded]
  exact .together rfl fun _ _ => trivial

def Discipline.watch : Simulation d d.observed where
  toAlignment := watching
  externals := observed_externals d
  maxDepth := observed_maxDepth d
  sharedRaised _ := trivial
  sharedMalformed _ := trivial
  sharedDepth := trivial
  tick := by
    rintro _ o rfl
    exact tick_watching d o
  answer := by
    rintro _ o name args kwargs _ _ rfl
    exact answer_watching d name args kwargs o
  emit := by
    rintro _ o emission rfl
    rfl
  pass := by
    rintro _ o waypoint rfl
    rfl
  leftGone _ _ := .of_const fun _ _ h => h
  rightGone _ _ := .of_const fun _ _ h => h

def Machine.observed (m : Machine β) : Machine (Observed β) :=
  { m with book := { book := m.book } }

/-- Watching changes neither the outcome of a run nor its book. -/
theorem observed_body (forms : List Expr) (m : Machine β) :
    let watched := evalBody d.observed 0 .nil forms m.observed
    let plain := evalBody d 0 .nil forms m
    watched.1 = plain.1 ∧ watched.2.book.book = plain.2.book := by
  have both := d.watch.outcome_body forms
    (show d.watch.Together' m m.observed from ⟨rfl, rfl, rfl⟩)
  generalize evalBody d 0 .nil forms m = plain at both ⊢
  generalize evalBody d.observed 0 .nil forms m.observed = watched at both ⊢
  cases both with
  | together aligned shared => exact ⟨rfl, aligned.1⟩
  | left final gone => exact gone.elim
  | right final gone => exact gone.elim

end ResumableScript
