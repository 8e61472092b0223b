import ResumableScript.Engine.Step
import ResumableScript.Json.Misfit

/-! Requests to the worker that runs scripts, and its responses; each is one line of JSON. -/
namespace ResumableScript

structure StartPayload where
  code : String
  externals : List String := []
  limits : Limits := {}

structure ResumePayload where
  checkpoint : Checkpoint
  instruction : Instruction

inductive WorkerRequest where
  | start (id : String) (payload : StartPayload)
  | resume (id : String) (payload : ResumePayload)

def WorkerRequest.id : WorkerRequest → String
  | start id _ | resume id _ => id

structure SerializedError where
  kind : String
  message : String
  details : Option Json := none

/-- An escaped exception is told again in the details. -/
def SerializedError.ofEngine (e : EngineError) : SerializedError where
  kind := e.kind.name
  message := e.message
  details := match e with
    | .uncaught exception => some (.object [("exception", exception.toJson)])
    | _ => none

structure WorkerResponse where
  id : String
  ok : Bool
  progress : Option Progress := none
  printOutput : List Emission := []
  error : Option SerializedError := none

structure WorkerReply where
  progress : Progress
  printOutput : List Emission

/-- A step that failed, or got lost on the way. -/
structure WorkerError where
  kind : ErrorKind
  message : String
  details : Option Json := none
  printOutput : List Emission := []

namespace WorkerError

def crash (message : String) : WorkerError := { kind := .workerCrash, message }

def protocol (message : String) : WorkerError := { kind := .workerProtocol, message }

def ofEngine (e : EngineError) : WorkerError := { kind := e.kind, message := e.message }

def text (e : WorkerError) : String := s!"{e.kind.name}: {e.message}"

end WorkerError

namespace WorkerResponse

def ofStep (id : String) (step : Step) : WorkerResponse :=
  match step.outcome with
  | .ok progress => { id, ok := true, progress := some progress, printOutput := step.prints }
  | .error fault =>
    { id, ok := false, printOutput := step.prints, error := some (.ofEngine fault.report) }

def result (response : WorkerResponse) : Except WorkerError WorkerReply :=
  match response.ok, response.progress, response.error with
  | true, some progress, _ => .ok ⟨progress, response.printOutput⟩
  | true, none, _ =>
    .error { WorkerError.protocol "worker response is missing progress" with
      printOutput := response.printOutput }
  | false, _, some e => .error ⟨.ofName e.kind, e.message, e.details, response.printOutput⟩
  | false, _, none =>
    .error { WorkerError.protocol "worker response is missing error" with
      printOutput := response.printOutput }

end WorkerResponse

def Json.optionalMember (key : String) (value : Option Json) : Json.Members :=
  match value with
  | some value => [(key, value)]
  | none => []

namespace StartPayload

def toJson (payload : StartPayload) : Json :=
  .object [("code", .string payload.code),
    ("external_functions", Json.ofStrings payload.externals), ("limits", payload.limits.toJson)]

def ofJson? (json : Json) : Option StartPayload := do
  let fields ← Json.fields? ["code", "external_functions", "limits"] json
  let code ← fields.required "code" Json.asString?
  let externals ← fields.defaulted "external_functions" [] (Json.listOf? Json.asString?)
  let limits ← fields.defaulted "limits" {} Limits.ofJson?
  return ⟨code, externals, limits⟩

def shape : Json.Shape :=
  .fields "StartPayload" [("code", .anyText), ("external_functions", .orDefault (.each .anyText)),
    ("limits", .orDefault Limits.shape)]

end StartPayload

namespace ResumePayload

def toJson (payload : ResumePayload) : Json :=
  .object [("checkpoint", payload.checkpoint.toJson), ("instruction", payload.instruction.toJson)]

def ofJson? (json : Json) : Option ResumePayload := do
  let fields ← Json.fields? ["checkpoint", "instruction"] json
  let checkpoint ← fields.required "checkpoint" Checkpoint.ofJson?
  let instruction ← fields.required "instruction" Instruction.ofJson?
  return ⟨checkpoint, instruction⟩

def shape : Json.Shape :=
  .fields "ResumePayload" [("checkpoint", Checkpoint.shape), ("instruction", Instruction.shape)]

end ResumePayload

namespace WorkerRequest

def toJson : WorkerRequest → Json
  | start id payload =>
    .object [("kind", .string "start"), ("id", .string id), ("payload", payload.toJson)]
  | resume id payload =>
    .object [("kind", .string "resume"), ("id", .string id), ("payload", payload.toJson)]

def ofJson? (json : Json) : Option WorkerRequest := do
  let (kind, content) ← Json.tagged? "kind" json
  let fields ← Json.fields? ["id", "payload"] content
  let id ← fields.required "id" Json.asString?
  match kind with
  | "start" => return start id (← fields.required "payload" StartPayload.ofJson?)
  | "resume" => return resume id (← fields.required "payload" ResumePayload.ofJson?)
  | _ => none

def shape? : String → Option Json.Shape
  | "start" => some (.fields "WorkerRequest" [("id", .anyText), ("payload", StartPayload.shape)])
  | "resume" => some (.fields "WorkerRequest" [("id", .anyText), ("payload", ResumePayload.shape)])
  | _ => none

/-- Why an object is no request. The kind comes first, wherever it stands. -/
def misfit? (json : Json) : Option Json.Fault :=
  match json.get? "kind" with
  | none => some (.missingField "kind")
  | some (.string kind) =>
    match shape? kind with
    | none => some (.unknownVariant kind ["start", "resume"])
    | some shape => Json.misfit? shape json
  | some value => some (.wrongType (Json.Shape.describe value) "variant identifier")

/-- The request of an object. One that has no fault can be read. -/
def read (json : Json) : Except Json.Fault WorkerRequest :=
  match ofJson? json with
  | some request => .ok request
  | none => .error ((misfit? json).getD (.missingField "id"))

def line (request : WorkerRequest) : String := request.toJson.compact

end WorkerRequest

namespace SerializedError

def toJson (e : SerializedError) : Json :=
  .object ([("kind", .string e.kind), ("message", .string e.message)] ++
    Json.optionalMember "details" e.details)

def ofJson? (json : Json) : Option SerializedError := do
  let fields ← Json.fields? ["kind", "message", "details"] json
  let kind ← fields.required "kind" Json.asString?
  let message ← fields.required "message" Json.asString?
  let details ← fields.optional "details" some
  return ⟨kind, message, details⟩

def shape : Json.Shape :=
  .fields "SerializedError"
    [("kind", .anyText), ("message", .anyText), ("details", .orDefault .any)]

end SerializedError

namespace WorkerResponse

def toJson (response : WorkerResponse) : Json :=
  .object ([("id", .string response.id), ("ok", .bool response.ok)] ++
    Json.optionalMember "progress" (response.progress.map Progress.toJson) ++
    [("print_output", .array (response.printOutput.map Emission.toJson))] ++
    Json.optionalMember "error" (response.error.map SerializedError.toJson))

def ofJson? (json : Json) : Option WorkerResponse := do
  let fields ← Json.fields? ["id", "ok", "progress", "print_output", "error"] json
  let id ← fields.required "id" Json.asString?
  let ok ← fields.required "ok" Json.asBool?
  let progress ← fields.optional "progress" Progress.ofJson?
  let printOutput ← fields.defaulted "print_output" [] (Json.listOf? Emission.ofJson?)
  let error ← fields.optional "error" SerializedError.ofJson?
  return ⟨id, ok, progress, printOutput, error⟩

def shape : Json.Shape :=
  .fields "WorkerResponse" [("id", .anyText), ("ok", .any), ("progress", .orDefault .any),
    ("print_output", .orDefault (.each Emission.shape)),
    ("error", .orDefault (.orNull SerializedError.shape))]

def line (response : WorkerResponse) : String := response.toJson.compact

def ofLine? (line : String) : Option WorkerResponse :=
  match Json.parseBytes shape (Text.utf8 line) with
  | .ok json => ofJson? json
  | .error _ => none

end WorkerResponse

end ResumableScript
