import Mathlib.Tactic.Basic
import ResumableScript.Proofs.Engine.Journal
import ResumableScript.Proofs.Evaluation.Budget
import ResumableScript.Proofs.Evaluation.Clock

/-! A script does not see its budgets. A run that meets none of its limits does the same under limits
that reach further: budgets decide only whether a run goes on, and never how. -/
namespace ResumableScript
open Eval

/-- These limits reach no further than the others, whatever the times that they allow. -/
structure Limits.Within (narrow wide : Limits) : Prop where
  steps : narrow.maxSteps ≤ wide.maxSteps
  depth : narrow.maxDepth ≤ wide.maxDepth

def Exit.Spent : Exit → Prop
  | .failed (.limit _) | .failed (.replay (.exceeded _)) | .failed .stalled => True
  | _ => False

abbrev IsSpent {α : Type} (result : Except Exit α) : Prop :=
  ∃ exit, result = .error exit ∧ exit.Spent

variable {β : Type}

namespace Eval

variable {α γ : Type} {x : Eval β α} {m : Machine β}

theorem bind_spent (f : α → Eval β γ) (spent : IsSpent (x m).1) : IsSpent ((x >>= f) m).1 := by
  obtain ⟨exit, left, spent⟩ := spent
  refine ⟨exit, ?_, spent⟩
  generalize ran : x m = r at left
  obtain ⟨result, m'⟩ := r
  cases left
  rw [bind_error ran]

theorem handle_spent (h : ScriptException → Eval β α) (spent : IsSpent (x m).1) :
    IsSpent (handle x h m).1 := by
  obtain ⟨exit, left, spent⟩ := spent
  refine ⟨exit, ?_, spent⟩
  generalize ran : x m = r at left
  obtain ⟨result, m'⟩ := r
  cases left
  have final : exit.IsFinal := by
    cases exit with
    | raised e => exact spent.elim
    | suspended call => trivial
    | failed fault => trivial
  rw [handle_final final ran]

end Eval

/-- The second computation does what the first does, unless a budget ends the first. -/
def Eval.Widens {α : Type} (x₁ x₂ : Eval β α) : Prop :=
  ∀ m, (∃ exit, (x₁ m).1 = .error exit ∧ exit.Spent) ∨ x₂ m = x₁ m

/-- A discipline whose budgets reach further than those of another. -/
structure Discipline.Widens (d₁ d₂ : Discipline β) : Prop where
  externals : d₁.externals = d₂.externals
  maxDepth : d₁.maxDepth ≤ d₂.maxDepth
  tick : ∀ book, (∃ exit, (d₁.tick book).1 = .error exit ∧ exit.Spent) ∨ d₂.tick book = d₁.tick book
  answer : d₁.answer = d₂.answer
  emit : d₁.emit = d₂.emit
  pass : d₁.pass = d₂.pass
  room : ∀ book, d₁.room book ≤ d₂.room book

namespace Eval.Widens

variable {α γ : Type} {x₁ x₂ : Eval β α} {f₁ f₂ : α → Eval β γ}

theorem refl (x : Eval β α) : Widens x x := fun _ => .inr rfl

theorem bind (first : Widens x₁ x₂) (next : ∀ a, Widens (f₁ a) (f₂ a)) :
    Widens (x₁ >>= f₁) (x₂ >>= f₂) := by
  intro m
  rcases first m with spent | same
  · exact .inl (bind_spent f₁ spent)
  · rw [bind_apply, bind_apply, same]
    generalize x₁ m = r
    obtain ⟨result, m'⟩ := r
    cases result with
    | ok a => exact next a m'
    | error exit => exact .inr rfl

theorem handle {h₁ h₂ : ScriptException → Eval β α} (body : Widens x₁ x₂)
    (caught : ∀ e, Widens (h₁ e) (h₂ e)) : Widens (Eval.handle x₁ h₁) (Eval.handle x₂ h₂) := by
  intro m
  rcases body m with spent | same
  · exact .inl (handle_spent h₁ spent)
  · unfold Eval.handle
    rw [same]
    generalize x₁ m = r
    obtain ⟨result, m'⟩ := r
    cases result with
    | ok a => exact .inr rfl
    | error exit =>
      cases exit with
      | raised e => exact caught e m'
      | suspended call => exact .inr rfl
      | failed fault => exact .inr rfl

/-- More rounds make a difference only to a loop that has used up its own. -/
theorem repeatWhile {condition₁ condition₂ body₁ body₂ : Eval β Value}
    (test : Widens condition₁ condition₂) (work : Widens body₁ body₂) {rounds more : Nat}
    (enough : rounds ≤ more) :
    Widens (Eval.repeatWhile condition₁ body₁ rounds) (Eval.repeatWhile condition₂ body₂ more) := by
  induction rounds generalizing more with
  | zero => exact fun m => .inl ⟨.failed .stalled, rfl, trivial⟩
  | succ rounds ih =>
    obtain ⟨more, rfl⟩ : ∃ n, more = n + 1 := ⟨more - 1, by omega⟩
    refine test.bind fun value => ?_
    split
    · exact work.bind fun _ => ih (Nat.le_of_succ_le_succ enough)
    · exact .refl _

end Eval.Widens

namespace Discipline.Widens

variable {d₁ d₂ : Discipline β}

theorem nested {α : Type} (wider : d₁.Widens d₂) {x₁ x₂ : Eval β α} (body : x₁.Widens x₂) :
    (Eval.nested d₁ x₁).Widens (Eval.nested d₂ x₂) := by
  intro m
  have reach : d₁.maxDepth.toNat ≤ d₂.maxDepth.toNat := wider.maxDepth
  unfold Eval.nested
  dsimp only
  by_cases deep : d₁.maxDepth.toNat < m.depth + 1
  · rw [if_pos deep]
    exact .inl ⟨_, rfl, trivial⟩
  · rw [if_neg deep, if_neg (by omega)]
    rcases body { m with depth := m.depth + 1 } with ⟨exit, left, spent⟩ | same
    · exact .inl ⟨exit, left, spent⟩
    · rw [same]
      exact .inr rfl

theorem within {α : Type} (wider : d₁.Widens d₂) {x₁ x₂ : Eval β α} (body : x₁.Widens x₂) :
    (Eval.within d₁ x₁).Widens (Eval.within d₂ x₂) := by
  intro m
  unfold Eval.within
  rw [← wider.pass]
  rcases body { m with book := d₁.pass .entered m.book } with ⟨exit, left, spent⟩ | same
  · exact .inl ⟨exit, left, spent⟩
  · rw [same]
    exact .inr rfl

def congruence (wider : d₁.Widens d₂) : Congruence d₁ d₂ where
  Rel := Eval.Widens
  pure a := .refl _
  bind := .bind
  raised e := .refl _
  malformed fault := .refl _
  handle := .handle
  tick := by
    intro m
    rcases wider.tick m.book with ⟨exit, left, spent⟩ | same
    · exact .inl ⟨exit, left, spent⟩
    · refine .inr ?_
      unfold Eval.tick onBook
      rw [same]
  pass waypoint := by
    unfold Eval.pass
    rw [wider.pass]
    exact .refl _
  nested := wider.nested
  within := wider.within
  readVariable name := .refl _
  setVariable name value := .refl _
  emit emission := by
    unfold Eval.emit
    rw [wider.emit]
    exact .refl _
  externals name := congrArg (·.contains name) wider.externals
  callExternal name args kwargs _ _ := by
    unfold callExternal
    rw [wider.answer]
    exact .refl _
  loop test work := fun m =>
    test.repeatWhile work (Nat.succ_le_succ (wider.room m.book)) m

end Discipline.Widens

section Replaying

variable {setting : Setting} {wide : Limits} {clock : Nat → Nat}

def Setting.widened (setting : Setting) (wide : Limits) (clock : Nat → Nat) : Setting :=
  { setting with limits := wide, clock }

namespace Replay

theorem replayBudget_widened (clock : Nat → Nat) (within : setting.limits.Within wide) :
    setting.replayBudget ≤ (setting.widened wide clock).replayBudget :=
  Nat.mul_le_mul_right _ within.steps

theorem room_widened (within : setting.limits.Within wide) (r : Replay) :
    r.room setting ≤ r.room (setting.widened wide clock) := by
  have budget := replayBudget_widened clock within
  have steps : setting.limits.maxSteps.toNat ≤ wide.maxSteps.toNat := within.steps
  unfold room
  cases r.unread with
  | nil =>
    simp only [Setting.widened]
    omega
  | cons entry rest =>
    simp only [Setting.widened] at budget ⊢
    omega

theorem overrun_widened (within : setting.limits.Within wide) (timely : wide.Timely clock)
    {r : Replay} (goesOn : r.count.overrun? setting = none) :
    r.count.overrun? (setting.widened wide clock) = none := by
  cases unread : r.unread with
  | nil =>
    have count : r.count = { r with steps := r.steps + 1 } := by rw [Replay.count, unread]
    have live : r.count.unread = [] := by rw [count, unread]
    have counted : 0 < r.count.steps := by rw [count]; exact Nat.succ_pos _
    have few : r.count.steps ≤ wide.maxSteps.toNat :=
      Nat.le_trans (overrun_none live goesOn) within.steps
    rw [overrun_timely timely live counted]
    exact if_neg (Nat.not_lt.mpr few)
  | cons entry rest =>
    have more : r.count.unread = entry :: rest := by rw [count, unread]
    unfold overrun? at goesOn ⊢
    rw [more] at goesOn ⊢
    dsimp only at goesOn ⊢
    have budget := replayBudget_widened clock within
    split at goesOn
    · cases goesOn
    · exact if_neg (by omega)

theorem overrun_spent {r : Replay} {fault : Fault} (excess : r.overrun? setting = some fault) :
    Exit.Spent (.failed fault) := by
  obtain ⟨_, rfl⟩ | ⟨_, rfl⟩ | ⟨_, rfl⟩ := overrun_cases excess <;> trivial

theorem discipline_widened (within : setting.limits.Within wide) (timely : wide.Timely clock) :
    (discipline setting).Widens (discipline (setting.widened wide clock)) where
  externals := rfl
  maxDepth := within.depth
  tick r := by
    unfold Discipline.tick
    simp only [discipline]
    cases excess : r.count.overrun? setting with
    | some fault => exact .inl ⟨_, rfl, overrun_spent excess⟩
    | none =>
      rw [overrun_widened within timely excess]
      exact .inr rfl
  answer := rfl
  emit := rfl
  pass := rfl
  room := room_widened within

end Replay

theorem evalScript_widened (within : setting.limits.Within wide) (timely : wide.Timely clock)
    (forms : List Expr) :
    (evalScript setting forms).Widens (evalScript (setting.widened wide clock) forms) := by
  intro m
  rcases (Replay.discipline_widened within timely).congruence.body 0 .nil forms m with
    ⟨exit, left, spent⟩ | same
  · refine .inl ⟨exit, ?_, spent⟩
    unfold evalScript
    generalize evalBody (Replay.discipline setting) 0 .nil forms m = final at left
    obtain ⟨result, m'⟩ := final
    cases left
    rfl
  · refine .inr ?_
    unfold evalScript
    rw [same]

end Replaying

def StepFault.IsBudget : StepFault → Prop
  | .evaluation (.limit _) | .evaluation (.replay (.exceeded _)) => True
  | _ => False

theorem Exit.Spent.fault {exit : Exit} (spent : exit.Spent) :
    ∃ fault, exit = .failed fault ∧ (fault = .stalled ∨ (StepFault.evaluation fault).IsBudget) := by
  cases exit with
  | raised e => exact spent.elim
  | suspended call => exact spent.elim
  | failed fault =>
    refine ⟨fault, rfl, ?_⟩
    cases fault with
    | malformed fault => exact spent.elim
    | limit fault => exact .inr trivial
    | replay fault =>
      cases fault with
      | exceeded budget => exact .inr trivial
      | diverged answered called => exact spent.elim
      | unreplayed entries => exact spent.elim
    | stalled => exact .inl rfl

def Continuation.limited (c : Continuation) (limits : Limits) : Continuation := { c with limits }

/-- Two outcomes that are the same but for the limits that a pause keeps. -/
inductive Relimited (narrow wide : Limits) :
    Except StepFault Progress → Except StepFault Progress → Prop where
  | paused (call : ExternalCall) (c : Continuation) (limits : c.limits = narrow) :
      Relimited narrow wide (.ok (.paused call (.dump c)))
        (.ok (.paused call (.dump (c.limited wide))))
  | finished (output : Json) :
      Relimited narrow wide (.ok (.finished output)) (.ok (.finished output))
  | failed (fault : StepFault) : Relimited narrow wide (.error fault) (.error fault)

section Steps

variable (engine engine' : Engine) (c : Continuation) {narrow wide : Limits} {forms : List Expr}

theorem execute_eq (readable : Script.parse c.source = .ok forms) :
    let final := engine.evaluate c forms
    engine.execute c =
      ⟨Engine.outcome c final.2.book.printsSeen final.1, final.2.book.emitted.reverse⟩ := by
  rw [Engine.execute, readable]

theorem execute_unreadable {e : SyntaxError} (unreadable : Script.parse c.source = .error e) :
    engine.execute c = .failed (.unreadable e) := by
  rw [Engine.execute, unreadable]

theorem evaluate_widened (within : narrow.Within wide) (timely : wide.Timely engine'.clock)
    (forms : List Expr) :
    let final := engine.evaluate (c.limited narrow) forms
    (∃ exit, final.1 = .error exit ∧ exit.Spent) ∨
      engine'.evaluate (c.limited wide) forms = final := by
  let setting := Continuation.setting engine (c.limited narrow)
  have widens : (evalScript setting forms).Widens
      (evalScript (setting.widened wide engine'.clock) forms) := evalScript_widened within timely forms
  exact widens c.machine

theorem outcome_relimited (printsSeen : Nat) (result : Except Exit Value) :
    Relimited narrow wide (Engine.outcome (c.limited narrow) printsSeen result)
      (Engine.outcome (c.limited wide) printsSeen result) := by
  cases result with
  | ok value => exact .finished _
  | error exit =>
    cases exit with
    | raised e => exact .failed _
    | suspended call =>
      exact .paused call (Engine.suspend (c.limited narrow) call printsSeen) rfl
    | failed fault => exact .failed _

end Steps

/-- A step that neither meets a limit nor uses up the budget for its replay does the same under
limits that reach further: it prints the same, and it finishes, pauses or fails alike. -/
theorem execute_widened (engine engine' : Engine) (c : Continuation) {narrow wide : Limits}
    (within : narrow.Within wide) (timely : wide.Timely engine'.clock)
    (unspent : ∀ fault, (engine.execute (c.limited narrow)).outcome = .error fault →
      ¬ fault.IsBudget) :
    let step := engine.execute (c.limited narrow)
    let step' := engine'.execute (c.limited wide)
    step'.prints = step.prints ∧ Relimited narrow wide step.outcome step'.outcome := by
  intro step step'
  cases readable : Script.parse c.source with
  | error e =>
    have refused : step = .failed (.unreadable e) := execute_unreadable engine _ readable
    have refused' : step' = .failed (.unreadable e) := execute_unreadable engine' _ readable
    rw [refused, refused']
    exact ⟨rfl, .failed _⟩
  | ok forms =>
    have ran : step = _ := execute_eq engine (c.limited narrow) readable
    have ran' : step' = _ := execute_eq engine' (c.limited wide) readable
    rcases evaluate_widened engine engine' c within timely forms with
      ⟨exit, left, spent⟩ | same
    · -- a loop never runs out of rounds, so it is a limit that has ended the step
      obtain ⟨fault, rfl, stalled⟩ := spent.fault
      have outcome : step.outcome = .error (.evaluation fault) := by rw [ran, left]; rfl
      have moving := (execute_budget engine (c.limited narrow) forms readable).2.1
      rcases stalled with rfl | budget
      · exact absurd outcome moving
      · exact absurd budget (unspent _ outcome)
    · rw [ran, ran', same]
      exact ⟨rfl, outcome_relimited c _ _⟩

/-- A call whose answer is caught, a print and a pause behind it: narrow limits just admit them, and
wide ones change nothing. -/
theorem execute_widened_caught :
    let engine : Engine := {}
    let c : Continuation :=
      { source := "(try (f) (except e (print 1))) (g 2)", externals := ["f", "g"], limits := {},
        journal := [⟨"f", .exception ⟨"RuntimeError", "no"⟩⟩] }
    let step := engine.execute (c.limited ⟨4, 2, 0⟩)
    let step' := engine.execute (c.limited {})
    step.prints.length = 1 ∧ step'.prints = step.prints ∧
      ∃ call k, step.outcome = .ok (.paused call (.dump k)) ∧
        step'.outcome = .ok (.paused call (.dump (k.limited {}))) := by
  intro engine c step step'
  have pauses : step.call?.map (·.functionName) = some "g" := by decide +kernel
  obtain ⟨call, checkpoint, paused, -⟩ := Step.exists_paused pauses
  have within : Limits.Within ⟨4, 2, 0⟩ {} := ⟨by decide, by decide⟩
  have inTime : ({} : Limits).Timely engine.clock :=
    fun _ _ _ _ => (by decide : 0 < ({} : Limits).maxDurationMs.toNat)
  have unspent : ∀ fault, step.outcome = .error fault → ¬ fault.IsBudget := by
    intro fault failed
    rw [paused] at failed
    cases failed
  obtain ⟨prints, same⟩ := execute_widened engine engine c within inTime unspent
  refine ⟨by decide +kernel, prints, ?_⟩
  rw [paused] at same ⊢
  generalize step'.outcome = outcome' at same
  cases same with
  | paused call k limits => exact ⟨call, k, rfl, rfl⟩

end ResumableScript
