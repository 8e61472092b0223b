import Mathlib.Tactic.Basic
import ResumableScript.Script.Replay

/-! Direct evaluation, in which external calls are answered in place. Its book keeps what a host
would see of the answered calls. -/
namespace ResumableScript

/-- An answered call, and the prints between the call before and this one. -/
structure Pause where
  call : ExternalCall
  prints : List Emission

/-- How far a direct run has come. -/
structure Direct where
  answers : List Instruction
  steps : Nat := 0
  emitted : List Emission := []
  pauses : List Pause := []

namespace Direct

def count (d : Direct) : Direct := { d with steps := d.steps + 1 }

def overrun? (limits : Limits) (d : Direct) : Option Fault :=
  if limits.maxSteps.toNat < d.steps then some (.limit (.steps limits.maxSteps)) else none

/-- Answers an external call, and starts to count anew; suspends if no answer is left. -/
def answer (name : String) (args : List Value) (kwargs : List (String × Value)) (d : Direct) :
    Except Exit Value × Direct :=
  match d.answers with
  | [] => (.error (.suspended (.ofValues name args kwargs)), d)
  | instruction :: rest =>
    (instruction.result,
      { answers := rest, pauses := d.pauses ++ [⟨.ofValues name args kwargs, d.emitted.reverse⟩] })

def emit (emission : Emission) (d : Direct) : Direct := { d with emitted := emission :: d.emitted }

def room (limits : Limits) (d : Direct) : Nat :=
  limits.maxSteps.toNat * d.answers.length + (limits.maxSteps.toNat - d.steps)

theorem overrun_none {limits : Limits} {d : Direct} :
    d.overrun? limits = none ↔ d.steps ≤ limits.maxSteps.toNat := by
  simp [overrun?]

theorem room_answer (limits : Limits) (name : String) (args : List Value)
    (kwargs : List (String × Value)) (d : Direct) :
    (d.answer name args kwargs).2.room limits ≤ d.room limits := by
  obtain ⟨answers, steps, emitted, pauses⟩ := d
  cases answers with
  | nil => exact Nat.le_refl _
  | cons instruction rest =>
    simp only [answer, room, List.length_cons, Nat.mul_add, Nat.mul_one]
    omega

theorem pauses_answer (name : String) (args : List Value) (kwargs : List (String × Value))
    (d : Direct) : d.pauses <+: (d.answer name args kwargs).2.pauses := by
  unfold answer
  split
  · exact List.prefix_rfl
  · exact List.prefix_append _ _

def discipline (externals : List String) (limits : Limits) : Discipline Direct where
  externals := externals
  maxDepth := limits.maxDepth
  count := count
  overrun? := overrun? limits
  answer := answer
  emit := emit
  room := room limits
  room_count d within := by
    have kept := overrun_none.mp within
    simp only [count, room] at kept ⊢
    omega
  room_count_le d := by
    simp only [count, room]
    omega
  room_answer := room_answer limits
  room_emit _ _ := Nat.le_refl _

def prints (d : Direct) : List Emission := d.pauses.flatMap Pause.prints ++ d.emitted.reverse

end Direct

/-- A script that is run with all answers at hand. -/
def evalDirect (externals : List String) (limits : Limits) (answers : List Instruction)
    (forms : List Expr) : Except Exit Value × Machine Direct :=
  evalBody (Direct.discipline externals limits) 0 .nil forms { book := { answers } }

end ResumableScript
