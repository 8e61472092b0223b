import Mathlib.Tactic.Basic
import ResumableScript.Proofs.Engine.Acceptance
import ResumableScript.Proofs.Engine.Journal
import ResumableScript.Proofs.Evaluation.Continuing

/-! Any engine can resume any checkpoint that an engine has made, with any answer, as long as the
answers that it holds come back from their text. Neither the time that a step takes nor the budget
for its replay stands in the way. -/
namespace ResumableScript

/-- The step has not failed for its checkpoint, neither for the bytes nor for the journal. -/
def Step.Accepted (step : Step) : Prop :=
  ∀ fault, step.outcome = .error fault → fault.report.kind ≠ .checkpoint

def Continuation.answered (c : Continuation) (call : ExternalCall) (printsSeen : Nat)
    (answer : Instruction) : Continuation :=
  { c with
    journal := c.journal ++ [⟨call.functionName, answer⟩]
    pending := none
    printsDelivered := UInt64.ofNat printsSeen }

section Steps

variable {engine : Engine} {c : Continuation}

theorem execute_accepted
    (followed : ∀ forms, Script.parse c.source = .ok forms → ∀ fault,
      (engine.evaluate c forms).1 ≠ .error (.failed (.replay fault))) :
    (engine.execute c).Accepted := by
  intro fault failed
  unfold Engine.execute at failed
  cases readable : Script.parse c.source with
  | error e =>
    rw [readable] at failed
    cases failed
    nofun
  | ok forms =>
    have followed := followed forms readable
    rw [readable] at failed
    dsimp only at failed
    generalize (engine.evaluate c forms).1 = result at followed failed
    cases result with
    | ok value => cases failed
    | error exit =>
      cases exit with
      | raised e => cases failed; nofun
      | suspended call => cases failed
      | failed fault =>
        cases failed
        cases fault with
        | replay fault => exact absurd rfl (followed fault)
        | malformed fault => nofun
        | limit fault => nofun
        | stalled => nofun

theorem createRun_accepted (engine : Engine) (source : String) (externals : List String)
    (limits : Limits) : (engine.createRun source externals limits).Accepted :=
  execute_accepted fun forms _ fault => evalScript_fresh _ forms rfl fault

theorem setting_answered (engine engine' : Engine) (c : Continuation) (call : ExternalCall)
    (printsSeen : Nat) (answer : Instruction) :
    (c.answered call printsSeen answer).setting engine' =
      (c.setting engine).next (UInt64.ofNat printsSeen).toNat engine'.clock := by
  have length : (c.answered call printsSeen answer).journal.length = c.journal.length + 1 := by
    simp [Continuation.answered]
  unfold Continuation.setting
  rw [length]
  rfl

/-- A step that pauses does so with a checkpoint of its own continuation. Behind any answer to the
call, any engine follows the journal that comes of it. -/
theorem execute_paused {call : ExternalCall} {checkpoint : Checkpoint}
    (paused : (engine.execute c).outcome = .ok (.paused call checkpoint)) :
    ∃ printsSeen, checkpoint = Checkpoint.dump (Engine.suspend c call printsSeen) ∧
      ∀ (engine' : Engine) answer, (engine'.execute (c.answered call printsSeen answer)).Accepted := by
  cases readable : Script.parse c.source with
  | error e =>
    rw [Engine.execute, readable] at paused
    cases paused
  | ok forms =>
    rw [execute_outcome readable] at paused
    cases ended : engine.evaluate c forms with
    | mk result m =>
      rw [ended] at paused
      cases result with
      | ok value => cases paused
      | error exit =>
        cases exit with
        | raised e => cases paused
        | failed fault => cases paused
        | suspended call =>
          cases paused
          refine ⟨m.book.printsSeen, rfl, fun engine' answer => ?_⟩
          refine execute_accepted fun forms' readable' fault => ?_
          obtain rfl : forms = forms' := Except.ok.inj (readable.symm.trans readable')
          unfold Engine.evaluate
          rw [setting_answered engine]
          exact evalScript_answered ended answer _ _ fault

theorem resumeRun_dump (engine : Engine) (call : ExternalCall) (printsSeen : Nat)
    (answer : Instruction)
    (stored : ∀ entry ∈ c.journal, entry.instruction.Storable Checkpoint.answerLevels) :
    engine.resumeRun (Checkpoint.dump (Engine.suspend c call printsSeen)) answer =
      engine.execute (c.answered call printsSeen answer) := by
  have loaded : (Checkpoint.dump (Engine.suspend c call printsSeen)).load =
      .ok (Engine.suspend c call printsSeen) := Checkpoint.load_dump stored
  rw [Engine.resumeRun, loaded]
  rfl

/-- The limit is exact: a returned value that nests deeper is packed, and the checkpoint that holds
it is refused, whatever answers the call. -/
theorem resumeRun_deep (engine : Engine) (call : ExternalCall) (printsSeen : Nat)
    (answer : Instruction) {levels : Nat}
    (stored : ∀ entry ∈ c.journal, entry.instruction.Storable (levels + 1)) {entry : JournalEntry}
    (there : entry ∈ c.journal) {v : Json} (returned : entry.instruction = .returnValue v)
    (deep : Json.maxLevels < v.nesting + 4) :
    ∃ column, engine.resumeRun (Checkpoint.dump (Engine.suspend c call printsSeen)) answer =
      .failed (.checkpoint (.invalidContinuation ⟨.tooDeep, ⟨1, column⟩⟩)) := by
  have outer : Json.Within v 4 (Engine.suspend c call printsSeen).toJson :=
    Continuation.answer_within there returned
  obtain ⟨column, refused⟩ :=
    Checkpoint.load_dump_deep (c := Engine.suspend c call printsSeen) stored
      (Nat.lt_of_lt_of_le deep outer.nesting_le)
  exact ⟨column, by rw [Engine.resumeRun, refused]⟩

theorem resumeRun_paused {call : ExternalCall} {checkpoint : Checkpoint}
    (paused : (engine.execute c).outcome = .ok (.paused call checkpoint))
    (stored : ∀ entry ∈ c.journal, entry.instruction.Storable Checkpoint.answerLevels) :
    ∃ printsSeen, checkpoint.load = .ok (Engine.suspend c call printsSeen) ∧
      ∀ (engine' : Engine) answer,
        engine'.resumeRun checkpoint answer =
            engine'.execute (c.answered call printsSeen answer) ∧
          (engine'.resumeRun checkpoint answer).Accepted := by
  obtain ⟨printsSeen, rfl, accepted⟩ := execute_paused paused
  refine ⟨printsSeen, Checkpoint.load_dump stored, fun engine' answer => ?_⟩
  have replayed := resumeRun_dump engine' call printsSeen answer stored
  exact ⟨replayed, replayed ▸ accepted engine' answer⟩

end Steps

/-- The steps of one script, by the answers that have led to them. -/
inductive Engine.Resumed (source : String) (externals : List String) (limits : Limits) :
    List Instruction → Step → Prop where
  | created (engine : Engine) :
      Resumed source externals limits [] (engine.createRun source externals limits)
  | resumed (engine : Engine) {answers : List Instruction} {step : Step} {call : ExternalCall}
      {checkpoint : Checkpoint} (before : Resumed source externals limits answers step)
      (paused : step.outcome = .ok (.paused call checkpoint)) (answer : Instruction) :
      Resumed source externals limits (answers ++ [answer]) (engine.resumeRun checkpoint answer)

section Resumed

variable {source : String} {externals : List String} {limits : Limits} {answers : List Instruction}
  {step : Step}

/-- The last answer need not be one that a checkpoint can keep, since none has kept it yet. -/
theorem Engine.Resumed.executed (reached : Engine.Resumed source externals limits answers step)
    (stored : ∀ answer ∈ answers.dropLast, answer.Storable Checkpoint.answerLevels) :
    step.Accepted ∧ ∃ (engine : Engine) (c : Continuation), step = engine.execute c ∧
      c.journal.map (·.instruction) = answers := by
  induction reached with
  | created engine =>
    exact ⟨createRun_accepted engine source externals limits, engine, _, rfl, rfl⟩
  | @resumed engine answers step call checkpoint before paused answer ih =>
    rw [List.dropLast_concat] at stored
    obtain ⟨-, engine₁, c, rfl, journal⟩ :=
      ih fun other there => stored other (List.dropLast_subset answers there)
    have entries : ∀ entry ∈ c.journal, entry.instruction.Storable Checkpoint.answerLevels := by
      intro entry there
      exact stored _ (journal ▸ List.mem_map_of_mem there)
    obtain ⟨printsSeen, -, replayed⟩ := resumeRun_paused paused entries
    obtain ⟨same, accepted⟩ := replayed engine answer
    refine ⟨accepted, engine, _, same, ?_⟩
    rw [Continuation.answered, List.map_append, journal]
    rfl

theorem Engine.Resumed.accepted (reached : Engine.Resumed source externals limits answers step)
    (stored : ∀ answer ∈ answers.dropLast, answer.Storable Checkpoint.answerLevels) :
    step.Accepted := (reached.executed stored).1

end Resumed

end ResumableScript
