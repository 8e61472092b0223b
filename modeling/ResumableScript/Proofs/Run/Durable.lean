import Mathlib.Tactic.Basic
import ResumableScript.Config
import ResumableScript.Proofs.Worker.Wire

/-! What is written to last, and what goes over the wire, comes back from its text: the records of a
history, the results of runs, configurations, requests and responses. -/
namespace ResumableScript
open Json (Fits ReadsAs bytes RoundTrips roundTrips)

section Records

theorem Steering.ofJson?_toJson (steering : Steering) :
    Steering.ofJson? steering.toJson = some steering := by
  obtain ⟨text, origin⟩ := steering
  cases origin <;> simp [Steering.ofJson?, Steering.toJson, Json.isNull]

theorem Entry.fieldNames?_kind (entry : Entry) :
    ∃ names, Entry.fieldNames? entry.kind = some names := by
  cases entry <;> exact ⟨_, rfl⟩

theorem Entry.ofFields?_members (entry : Entry) (time callId : Json) :
    Entry.ofFields? entry.kind (.named (("type", .string entry.kind) :: ("at", time) ::
      ("tool_call_id", callId) :: entry.members)) = some entry := by
  cases entry with
  | start code preamble => simp [Entry.kind, Entry.members, Entry.ofFields?]
  | toolCall call =>
    simp [Entry.kind, Entry.members, Entry.ofFields?, Entry.strings?, Json.asUInt64?_ofUInt64]
  | toolResult toolName result isError =>
    simp [Entry.kind, Entry.members, Entry.ofFields?]
  | complete c =>
    obtain ⟨output, printOutput, toolCallCount, isError, error⟩ := c
    cases error <;>
      simp [Entry.kind, Entry.members, Entry.ofFields?, Entry.strings?, Json.isNull,
        Json.asUInt64?_ofUInt64]
  | steeringInterrupt output printOutput steering =>
    simp [Entry.kind, Entry.members, Entry.ofFields?, Entry.strings?, Steering.ofJson?_toJson]

theorem StoredRecord.ofJson?_toJson (record : StoredRecord) :
    StoredRecord.ofJson? record.toJson = some record := by
  obtain ⟨names, named⟩ := record.entry.fieldNames?_kind
  simp [StoredRecord.ofJson?, StoredRecord.toJson, named, Entry.ofFields?_members]

theorem RunResult.ofJson?_toJson (result : RunResult) :
    RunResult.ofJson? result.toJson = some result := by
  obtain ⟨output, printOutput, toolCallCount, steeringInterrupt, skipTurn⟩ := result
  have told steering : (Steering.toJson steering).isNull = false := rfl
  cases steeringInterrupt <;> cases skipTurn <;>
    simp [RunResult.ofJson?, RunResult.toJson, Json.asUInt64?_ofUInt64, told,
      Steering.ofJson?_toJson]

end Records

section Configuration

theorem WorkerLaunch.ofJson?_toJson (worker : WorkerLaunch) :
    WorkerLaunch.ofJson? worker.toJson = some worker := by
  obtain ⟨program, args⟩ := worker
  cases program <;> simp [WorkerLaunch.ofJson?, WorkerLaunch.toJson, Json.isNull]

theorem Config.ofJson?_toJson (config : Config) : Config.ofJson? config.toJson = some config := by
  simp [Config.ofJson?, Config.toJson, Json.asUInt64?_ofUInt64, Limits.ofJson?_toJson,
    WorkerLaunch.ofJson?_toJson]

variable {levels : Nat}

theorem WorkerLaunch.reads (worker : WorkerLaunch) :
    ReadsAs WorkerLaunch.shape (levels + 2) (bytes worker.toJson) worker.toJson := by
  refine Json.object_reads rfl rfl (show ["program", "args"].Nodup by decide) ?_
  simp only [List.forall_mem_cons]
  refine ⟨⟨_, rfl, ?_⟩, ⟨_, rfl, Json.ofStrings_reads _⟩, nofun⟩
  cases worker.program with
  | none => exact Json.null_reads.reads rfl
  | some program => exact (Json.string_reads program).reads rfl

theorem Config.reads (config : Config) :
    ReadsAs Config.shape (levels + 3) (bytes config.toJson) config.toJson := by
  refine Json.object_reads rfl rfl
    (show ["worker", "request_timeout_ms", "stop_grace_ms", "limits"].Nodup by decide) ?_
  simp only [List.forall_mem_cons]
  exact ⟨⟨_, rfl, config.worker.reads⟩, ⟨_, rfl, Json.ofUInt64_reads "u64" _⟩,
    ⟨_, rfl, Json.ofUInt64_reads "u64" _⟩, ⟨_, rfl, config.limits.reads⟩, nofun⟩

theorem WorkerLaunch.ofJson?_of_fits (v : Json) (fits : Fits WorkerLaunch.shape v) :
    ∃ worker, WorkerLaunch.ofJson? v = some worker := by
  obtain ⟨fields, found, fit⟩ := Json.fields?_of_fits fits
  have found : Json.fields? ["program", "args"] v = some fields := found
  obtain ⟨program, program_eq⟩ := fit.optional "program" rfl Json.orNull_of_fits
  obtain ⟨args, args_eq⟩ := fit.defaulted "args" [] rfl (Json.listOf?_of_fits Json.asString?_of_fits)
  refine ⟨⟨program, args⟩, ?_⟩
  simp only [WorkerLaunch.ofJson?, found, Option.bind_eq_bind, Option.bind_some]
  rw [program_eq, args_eq]
  rfl

theorem Config.ofJson?_of_fits {v : Json} (fits : Fits Config.shape v) :
    ∃ config, Config.ofJson? v = some config := by
  let default : Config := {}
  obtain ⟨fields, found, fit⟩ := Json.fields?_of_fits fits
  have found : Json.fields? ["worker", "request_timeout_ms", "stop_grace_ms", "limits"] v =
    some fields := found
  obtain ⟨worker, worker_eq⟩ := fit.defaulted "worker" default.worker rfl WorkerLaunch.ofJson?_of_fits
  obtain ⟨timeout, timeout_eq⟩ :=
    fit.defaulted "request_timeout_ms" default.requestTimeoutMs rfl Json.asUInt64?_of_fits
  obtain ⟨grace, grace_eq⟩ :=
    fit.defaulted "stop_grace_ms" default.stopGraceMs rfl Json.asUInt64?_of_fits
  obtain ⟨limits, limits_eq⟩ := fit.defaulted "limits" default.limits rfl Limits.ofJson?_of_fits
  refine ⟨⟨worker, timeout, grace, limits⟩, ?_⟩
  simp only [Config.ofJson?, found, Option.bind_eq_bind, Option.bind_some]
  rw [worker_eq, timeout_eq, grace_eq, limits_eq]
  rfl

theorem Config.parse_ok {content : List UInt8} {config : Config} :
    Config.parse content = .ok config ↔
      ∃ v, Json.parseBytes Config.shape content = .ok v ∧ Config.ofJson? v = some config := by
  unfold Config.parse
  cases parsed : Json.parseBytes Config.shape content with
  | error e => simp
  | ok v =>
    obtain ⟨found, back⟩ := Config.ofJson?_of_fits (Json.parseBytes_fits parsed)
    simp [back]

theorem Config.parse_compact (config : Config) :
    Config.parse (Text.utf8 config.toJson.compact) = .ok config := by
  have read : Json.parseBytes Config.shape (Text.utf8 config.toJson.compact) = .ok config.toJson :=
    (Config.reads config).parseBytes (show 3 ≤ Json.maxLevels by decide)
  exact Config.parse_ok.mpr ⟨config.toJson, read, Config.ofJson?_toJson config⟩

end Configuration

/-- Whatever is sent or kept comes back from its compact text, as long as its checkpoints are not
empty and its details not `null`. The line of a request is to the worker that request, the line of a
response is to the host that response, and a file loads as the configuration it was written from. -/
theorem formats_round_trip :
    RoundTrips WorkerRequest.toJson WorkerRequest.ofJson? WorkerRequest.Filled ∧
    RoundTrips WorkerResponse.toJson WorkerResponse.ofJson? WorkerResponse.Filled ∧
    RoundTrips Progress.toJson Progress.ofJson? Progress.Filled ∧
    RoundTrips Instruction.toJson Instruction.ofJson? (fun _ => True) ∧
    RoundTrips Emission.toJson Emission.ofJson? (fun _ => True) ∧
    RoundTrips Limits.toJson Limits.ofJson? (fun _ => True) ∧
    RoundTrips StoredRecord.toJson StoredRecord.ofJson? (fun _ => True) ∧
    RoundTrips RunResult.toJson RunResult.ofJson? (fun _ => True) ∧
    RoundTrips StartPayload.toJson StartPayload.ofJson? (fun _ => True) ∧
    RoundTrips ResumePayload.toJson ResumePayload.ofJson? ResumePayload.Filled ∧
    RoundTrips Config.toJson Config.ofJson? (fun _ => True) ∧
    (∀ (engine : Engine) (request : WorkerRequest), request.Filled → request.toJson.Faithful →
      Service.handleLine engine request.line = some (Service.handleRequest engine request)) ∧
    (∀ response : WorkerResponse, response.Filled → response.toJson.Faithful →
      WorkerResponse.ofLine? response.line = some response) ∧
    ∀ config : Config, Config.parse (Text.utf8 config.toJson.compact) = .ok config := by
  refine ⟨?request, ?response, ?progress, ?instruction, ?emission, ?limits, ?record, ?result, ?start,
    ?resume, ?config, ?handled, ?told, Config.parse_compact⟩
  case request => exact roundTrips fun _ => WorkerRequest.ofJson?_toJson
  case response => exact roundTrips fun _ => WorkerResponse.ofJson?_toJson
  case progress => exact roundTrips fun _ => Progress.ofJson?_toJson
  case instruction => exact roundTrips fun instruction _ => instruction.ofJson?_toJson
  case emission => exact roundTrips fun e _ => e.ofJson?_toJson
  case limits => exact roundTrips fun limits _ => limits.ofJson?_toJson
  case record => exact roundTrips fun record _ => record.ofJson?_toJson
  case result => exact roundTrips fun result _ => result.ofJson?_toJson
  case start => exact roundTrips fun payload _ => payload.ofJson?_toJson
  case resume => exact roundTrips fun _ => ResumePayload.ofJson?_toJson
  case config => exact roundTrips fun config _ => config.ofJson?_toJson
  case handled => exact fun engine _ => Service.handleLine_line engine
  case told => exact fun _ => WorkerResponse.ofLine?_line

def nullAnswer : WorkerRequest := .resume "1" ⟨⟨[1]⟩, .returnValue .null⟩

theorem nullAnswer_faithful : nullAnswer.toJson.Faithful := by
  have instruction : (Json.object [("return_value", .null)]).Storable 125 :=
    .object 124 _ (by simp) (by simpa using .null 124)
  have payload : (Json.object [("checkpoint", Checkpoint.toJson ⟨[1]⟩),
      ("instruction", .object [("return_value", .null)])]).Storable 126 :=
    .object 125 _ (by simp) (by simpa using ⟨.string 125 _, instruction⟩)
  exact Json.faithful_iff.mpr
    (.object 126 _ (by simp) (by simpa using ⟨.string 126 _, .string 126 _, payload⟩))

theorem formats_round_trip_nullAnswer :
    nullAnswer.Filled ∧ nullAnswer.toJson.Faithful ∧
      (Json.parse nullAnswer.toJson.compact).toOption.bind WorkerRequest.ofJson? =
        some nullAnswer := by
  have filled : nullAnswer.Filled := by simp [nullAnswer, WorkerRequest.Filled, ResumePayload.Filled]
  exact ⟨filled, nullAnswer_faithful, formats_round_trip.1 nullAnswer filled nullAnswer_faithful⟩

end ResumableScript
