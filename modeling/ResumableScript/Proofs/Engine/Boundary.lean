import Mathlib.Tactic.Basic
import ResumableScript.Proofs.Engine.Checkpoint
import ResumableScript.Proofs.Engine.Journal

/-! A script calls out only to the functions that its host has offered. Their list is part of every
checkpoint, and no answer, however it nests, changes what a resumed script may call. -/
namespace ResumableScript

theorem SpecialForm.ofName?_name (form : SpecialForm) : ofName? form.name = some form := by
  cases form <;> rfl

/-- The host has offered the function that is called, and no special form has its name. -/
def ExternalCall.Offered (externals : List String) (call : ExternalCall) : Prop :=
  call.functionName ∈ externals ∧ ∀ form : SpecialForm, call.functionName ≠ form.name

theorem ExternalCall.offered_ofValues {name : String} {externals : List String}
    (plain : SpecialForm.ofName? name = none) (member : externals.contains name) (args : List Value)
    (kwargs : List (String × Value)) : (ofValues name args kwargs).Offered externals := by
  constructor
  · exact List.contains_iff_mem.mp member
  · rintro form rfl
    have found := form.ofName?_name
    rw [show form.name = (ofValues form.name args kwargs).functionName from rfl] at found
    cases plain.symm.trans found

section Evaluation

variable (setting : Setting)

/-- A run that suspends does so on a function that was offered. -/
def suspending : Course Replay where
  Along _ := True
  Ended exit _ := ∀ call, exit = .suspended call → call.Offered setting.externals

theorem tick_suspending (r : Replay) :
    (suspending setting).After ((Replay.discipline setting).tick r) := by
  unfold Discipline.tick
  dsimp only
  split
  · trivial
  · rintro call ⟨⟩

theorem answer_suspending {name : String} (plain : SpecialForm.ofName? name = none)
    (member : setting.externals.contains name) (args : List Value)
    (kwargs : List (String × Value)) (r : Replay) :
    (suspending setting).After (r.answer name args kwargs) := by
  unfold Replay.answer
  split
  · rintro call ⟨⟩
    exact ExternalCall.offered_ofValues plain member args kwargs
  · next entry rest _ =>
    split
    · rintro call ⟨⟩
    · cases entry.instruction <;> trivial

def keepsSuspending : Invariant (Replay.discipline setting) where
  toCourse := suspending setting
  malformed _ _ _ := by rintro call ⟨⟩
  tooDeep _ _ := by rintro call ⟨⟩
  tick r _ := tick_suspending setting r
  answer _ args kwargs r plain member _ := answer_suspending setting plain member args kwargs r
  emit _ _ _ := trivial

theorem suspended_offered {forms : List Expr} {m m' : Machine Replay} {call : ExternalCall}
    (h : evalBody (Replay.discipline setting) 0 .nil forms m = (.error (.suspended call), m')) :
    call.Offered setting.externals := by
  have after := (keepsSuspending setting).after_body forms (m := m) trivial
  rw [h] at after
  exact after call rfl

end Evaluation

def Checkpoint.Seals (externals : List String) (checkpoint : Checkpoint) : Prop :=
  ∃ c : Continuation, c.externals = externals ∧ checkpoint = Checkpoint.dump c

def Step.Confined (externals : List String) (step : Step) : Prop :=
  ∀ call checkpoint, step.outcome = .ok (.paused call checkpoint) →
    call.Offered externals ∧ checkpoint.Seals externals

theorem Step.confined_of_failed {externals : List String} (fault : StepFault) :
    (Step.failed fault).Confined externals := by
  rintro call checkpoint ⟨⟩

theorem execute_confined (engine : Engine) (c : Continuation) :
    (engine.execute c).Confined c.externals := by
  intro call checkpoint paused
  cases readable : Script.parse c.source with
  | error e =>
    rw [Engine.execute, readable] at paused
    cases paused
  | ok forms =>
    cases ended : evalBody (Replay.discipline (c.setting engine)) 0 .nil forms c.machine with
    | mk result m =>
      cases result with
      | ok value =>
        by_cases left : m.book.unread = []
        · rw [execute_ended readable ended fun _ _ => left] at paused
          cases paused
        · rw [execute_unfinished readable ended left] at paused
          cases paused
      | error exit =>
        rw [execute_ended readable ended fun value same => by cases same] at paused
        cases exit with
        | raised e => cases paused
        | failed fault => cases paused
        | suspended call =>
          cases paused
          constructor
          · exact suspended_offered (c.setting engine) ended
          · exact ⟨Engine.suspend c call m.book.printsSeen, rfl, rfl⟩

theorem resumeRun_confined (engine : Engine) {externals : List String} {checkpoint : Checkpoint}
    (seals : checkpoint.Seals externals) (answer : Instruction) :
    (engine.resumeRun checkpoint answer).Confined externals := by
  obtain ⟨c, rfl, rfl⟩ := seals
  unfold Engine.resumeRun
  cases loaded : (Checkpoint.dump c).load with
  | error fault => exact Step.confined_of_failed _
  | ok c' =>
    obtain ⟨-, kept, -⟩ := Checkpoint.load_dump_kept loaded
    dsimp only
    unfold Continuation.answer
    cases c'.pending with
    | none => exact Step.confined_of_failed _
    | some name =>
      rw [← kept]
      exact execute_confined engine { c' with journal := _, pending := none }

/-- The steps of one script: its first step, and each that resumes a pause with any answer. -/
inductive Engine.Reached (source : String) (externals : List String) (limits : Limits) :
    Step → Prop where
  | created (engine : Engine) :
      Reached source externals limits (engine.createRun source externals limits)
  | resumed (engine : Engine) {step : Step} {call : ExternalCall} {checkpoint : Checkpoint}
      (before : Reached source externals limits step)
      (paused : step.outcome = .ok (.paused call checkpoint)) (answer : Instruction) :
      Reached source externals limits (engine.resumeRun checkpoint answer)

theorem Engine.Reached.confined {source : String} {externals : List String} {limits : Limits}
    {step : Step} (reached : Engine.Reached source externals limits step) :
    step.Confined externals := by
  induction reached with
  | created engine => exact execute_confined engine { source, externals, limits }
  | resumed engine before paused answer ih =>
    exact resumeRun_confined engine (ih _ _ paused).2 answer

end ResumableScript
