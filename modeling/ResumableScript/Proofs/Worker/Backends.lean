import Mathlib.Tactic.Basic
import ResumableScript.Proofs.Evaluation.Clock
import ResumableScript.Worker.Service

/-! Two ways to a step. A host may take a step in its own process, or ask a worker for it and read
the response. The two tell it the same, but for an exception that escapes the script: only a worker
tells it again in the details of the error. -/
namespace ResumableScript

def WorkerRequest.Timely (clock : Nat → Nat) : WorkerRequest → Prop
  | start _ payload => payload.limits.Timely clock
  | resume _ payload => ∀ c, payload.checkpoint.load = .ok c → c.limits.Timely clock

/-- What a worker tells of a failed step beyond kind, message and prints. -/
def Step.details (step : Step) : Option Json :=
  match step.outcome with
  | .error (.uncaught exception) => some (.object [("exception", exception.toJson)])
  | _ => none

section Timely

variable {engine worker : Engine}

theorem execute_timely {c : Continuation} (timely : c.limits.Timely engine.clock)
    (timely' : c.limits.Timely worker.clock) : engine.execute c = worker.execute c := by
  unfold Engine.execute
  cases Script.parse c.source with
  | error e => rfl
  | ok forms =>
    have same : engine.evaluate c forms = worker.evaluate c forms :=
      congrFun (evalScript_timely forms (show (c.setting engine).limits.Timely _ from timely)
        timely') c.machine
    dsimp only
    rw [same]

theorem answer_limits {c c' : Continuation} {instruction : Instruction}
    (answered : c.answer instruction = .ok c') : c'.limits = c.limits := by
  unfold Continuation.answer at answered
  split at answered
  · cases answered
  · cases answered
    rfl

theorem step_timely {request : WorkerRequest} (timely : request.Timely engine.clock)
    (timely' : request.Timely worker.clock) : engine.step request = worker.step request := by
  cases request with
  | start id payload => exact execute_timely timely timely'
  | resume id payload =>
    unfold Engine.step Engine.resumeRun
    dsimp only
    cases loaded : payload.checkpoint.load with
    | error fault => rfl
    | ok c =>
      dsimp only
      cases answered : c.answer payload.instruction with
      | error fault => rfl
      | ok c' =>
        have limits := answer_limits answered
        exact execute_timely (limits ▸ timely c loaded) (limits ▸ timely' c loaded)

end Timely

section Response

variable (engine : Engine) (request : WorkerRequest)

theorem reply_of_ok {progress : Progress} (outcome : (engine.step request).outcome = .ok progress) :
    engine.reply request = .ok ⟨progress, (engine.step request).prints⟩ := by
  unfold Engine.reply
  dsimp only
  rw [outcome]

theorem reply_of_error {fault : StepFault}
    (outcome : (engine.step request).outcome = .error fault) :
    engine.reply request = .error
      { WorkerError.ofEngine fault.report with printOutput := (engine.step request).prints } := by
  unfold Engine.reply
  dsimp only
  rw [outcome]

theorem handleRequest_of_ok {progress : Progress}
    (outcome : (engine.step request).outcome = .ok progress) :
    (Service.handleRequest engine request).result =
      .ok ⟨progress, (engine.step request).prints⟩ := by
  unfold Service.handleRequest WorkerResponse.ofStep
  rw [outcome]
  rfl

theorem handleRequest_of_error {fault : StepFault}
    (outcome : (engine.step request).outcome = .error fault) :
    (Service.handleRequest engine request).result =
      .error ⟨fault.report.kind, fault.report.message, (SerializedError.ofEngine fault.report).details,
        (engine.step request).prints⟩ := by
  unfold Service.handleRequest WorkerResponse.ofStep
  rw [outcome]
  show Except.error (WorkerError.mk (.ofName fault.report.kind.name) _ _ _) = _
  rw [ErrorKind.ofName_name]
  rfl

theorem details_ofEngine {fault : StepFault} {step : Step} (outcome : step.outcome = .error fault) :
    (SerializedError.ofEngine fault.report).details = step.details := by
  unfold Step.details
  rw [outcome]
  cases fault with
  | unreadable error => rfl
  | checkpoint fault => rfl
  | uncaught exception => rfl
  | evaluation fault => cases fault <;> rfl

end Response

/-- In time, a host is told the same by its own engine and by the response of a worker: the same
progress and prints, or an error of the same kind, with the same message and prints. The details are
the worker's only, and it has some only for an exception that escaped. -/
theorem backends_agree (engine worker : Engine) (request : WorkerRequest)
    (timely : request.Timely engine.clock) (timely' : request.Timely worker.clock) :
    (Service.handleRequest worker request).result =
        (engine.reply request).mapError (fun e => { e with details := (engine.step request).details }) ∧
      ∀ e, engine.reply request = .error e → e.details = none := by
  have same := step_timely timely timely'
  cases outcome : (engine.step request).outcome with
  | ok progress =>
    rw [reply_of_ok engine request outcome]
    refine ⟨?_, nofun⟩
    rw [same] at outcome ⊢
    exact handleRequest_of_ok worker request outcome
  | error fault =>
    rw [reply_of_error engine request outcome]
    constructor
    · rw [same] at outcome ⊢
      rw [handleRequest_of_error worker request outcome, details_ofEngine outcome]
      rfl
    · rintro e ⟨⟩
      rfl

def escapingRequest : WorkerRequest :=
  .start "1" { code := "(print 1) (raise :ValueError \"boom\")" }

theorem escapingRequest_timely : escapingRequest.Timely ({} : Engine).clock :=
  fun _ _ _ _ => (by decide : 0 < ({} : Limits).maxDurationMs.toNat)

theorem backends_agree_escaping :
    (Service.handleRequest {} escapingRequest).result =
      (({} : Engine).reply escapingRequest).mapError fun e =>
        { e with details := (({} : Engine).step escapingRequest).details } :=
  (backends_agree {} {} escapingRequest escapingRequest_timely escapingRequest_timely).1

def hasDetails : Except WorkerError WorkerReply → Bool
  | .error e => e.details.isSome
  | .ok _ => false

/-- Only the worker tells what has escaped, so the two results are not the same. -/
theorem escaped_exception_not_told :
    escapingRequest.Timely ({} : Engine).clock ∧
      (Service.handleRequest {} escapingRequest).result ≠ ({} : Engine).reply escapingRequest := by
  refine ⟨escapingRequest_timely, fun same => ?_⟩
  have told : hasDetails (Service.handleRequest {} escapingRequest).result = true := by
    decide +kernel
  have silent : hasDetails (({} : Engine).reply escapingRequest) = false := by decide +kernel
  rw [same, silent] at told
  cases told

end ResumableScript
