import ResumableScript.Script.Evaluator

/-! Evaluation with replay. The journal's answers stand in for external calls in order; the first
call beyond it suspends the script. Prints that were delivered before are passed over. While
answers are left, evaluation counts against the replay budget; afterwards, against the step budget. -/
namespace ResumableScript

structure Setting where
  externals : List String
  limits : Limits
  answers : Nat
  /-- Prints that were delivered before. -/
  delivered : Nat
  /-- Milliseconds since the first live step, at each live step. -/
  clock : Nat → Nat

/-- One step budget for each answered call. A product beyond the greatest word need not be cut down
to that: a word counts up to neither. -/
def Setting.replayBudget (setting : Setting) : Nat :=
  setting.limits.maxSteps.toNat * setting.answers

structure Replay where
  unread : List JournalEntry
  steps : Nat := 0
  replaySteps : Nat := 0
  printsSeen : Nat := 0
  /-- Prints of this step, the latest first. -/
  emitted : List Emission := []

namespace Replay

def count (r : Replay) : Replay :=
  match r.unread with
  | [] => { r with steps := r.steps + 1 }
  | _ :: _ => { r with replaySteps := r.replaySteps + 1 }

/-- The budget that the count went beyond. The time is looked at only now and then, and only
behind the journal. -/
def overrun? (setting : Setting) (r : Replay) : Option Fault :=
  match r.unread with
  | [] =>
    if setting.limits.maxSteps.toNat < r.steps then some (.limit (.steps setting.limits.maxSteps))
    else if r.steps % 256 = 0 ∧ setting.limits.maxDurationMs.toNat ≤ setting.clock r.steps then
      some (.limit (.time setting.limits.maxDurationMs))
    else none
  | _ :: _ =>
    if setting.replayBudget < r.replaySteps then some (.replay (.exceeded setting.replayBudget))
    else none

def answer (name : String) (args : List Value) (kwargs : List (String × Value)) (r : Replay) :
    Except Exit Value × Replay :=
  match r.unread with
  | [] => (.error (.suspended (.ofValues name args kwargs)), r)
  | entry :: rest =>
    if entry.functionName ≠ name then
      (.error (.failed (.replay (.diverged entry.functionName name))), r)
    else (entry.instruction.result, { r with unread := rest })

def emit (setting : Setting) (emission : Emission) (r : Replay) : Replay :=
  let seen := r.printsSeen + 1
  { r with
    printsSeen := seen
    emitted := if setting.delivered < seen then emission :: r.emitted else r.emitted }

def room (setting : Setting) (r : Replay) : Nat :=
  (match r.unread with
    | [] => 0
    | _ :: _ => setting.replayBudget - r.replaySteps) +
  (setting.limits.maxSteps.toNat - r.steps)

theorem room_count (setting : Setting) (r : Replay) (within : r.count.overrun? setting = none) :
    r.count.room setting < r.room setting := by
  obtain ⟨unread, steps, replaySteps, seen, emitted⟩ := r
  cases unread with
  | nil =>
    have bound : ¬ setting.limits.maxSteps.toNat < steps + 1 := by
      intro beyond
      simp [count, overrun?, beyond] at within
    simp only [count, room]
    omega
  | cons entry rest =>
    have bound : ¬ setting.replayBudget < replaySteps + 1 := by
      intro beyond
      simp [count, overrun?, beyond] at within
    simp only [count, room]
    omega

theorem room_count_le (setting : Setting) (r : Replay) : r.count.room setting ≤ r.room setting := by
  obtain ⟨unread, steps, replaySteps, seen, emitted⟩ := r
  cases unread <;> simp only [count, room] <;> omega

theorem room_answer (setting : Setting) (name : String) (args : List Value)
    (kwargs : List (String × Value)) (r : Replay) :
    (r.answer name args kwargs).2.room setting ≤ r.room setting := by
  obtain ⟨unread, steps, replaySteps, seen, emitted⟩ := r
  cases unread with
  | nil => exact Nat.le_refl _
  | cons entry rest =>
    simp only [answer]
    split
    · exact Nat.le_refl _
    · cases rest <;> simp only [room] <;> omega

def discipline (setting : Setting) : Discipline Replay where
  externals := setting.externals
  maxDepth := setting.limits.maxDepth
  count := count
  overrun? := overrun? setting
  answer := answer
  emit := emit setting
  room := room setting
  room_count := room_count setting
  room_count_le := room_count_le setting
  room_answer := room_answer setting
  room_emit _ _ := Nat.le_refl _

end Replay

/-- A script: its forms in turn, after which no answer may be left. -/
def evalScript (setting : Setting) (forms : List Expr) : Eval Replay Value := fun m =>
  match evalBody (Replay.discipline setting) 0 .nil forms m with
  | (.ok value, m) =>
    match m.book.unread with
    | [] => (.ok value, m)
    | unread => (.error (.failed (.replay (.unreplayed unread.length))), m)
  | failed => failed

end ResumableScript
