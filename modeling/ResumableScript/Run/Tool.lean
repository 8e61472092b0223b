import ResumableScript.Json.Decode
import ResumableScript.Json.Printer

/-! Tools that a host offers to scripts. -/
namespace ResumableScript

structure ToolDefinition where
  name : String
  description : String := ""
  /-- A JSON schema of the argument object. -/
  parameters : Json := .null

namespace ToolDefinition

def properties (tool : ToolDefinition) : Json.Members :=
  ((tool.parameters.get? "properties").bind Json.asObject?).getD []

def required (tool : ToolDefinition) : List String :=
  (((tool.parameters.get? "required").bind Json.asArray?).getD []).filterMap Json.asString?

def isClosed (tool : ToolDefinition) : Bool :=
  (tool.parameters.get? "additionalProperties").bind Json.asBool? == some false

def toJson (tool : ToolDefinition) : Json :=
  .object [("name", .string tool.name), ("description", .string tool.description),
    ("parameters", tool.parameters)]

def ofJson? (json : Json) : Option ToolDefinition := do
  let fields ← Json.fields? ["name", "description", "parameters"] json
  let name ← fields.required "name" Json.asString?
  let description ← fields.defaulted "description" "" Json.asString?
  let parameters ← fields.defaulted "parameters" .null some
  return ⟨name, description, parameters⟩

end ToolDefinition

/-- What a tool gave back: a text, and maybe a structured value beside it. -/
structure ToolOutcome where
  text : String
  isError : Bool := false
  value : Option Json := none

namespace ToolOutcome

def ofText (text : String) : ToolOutcome := { text }

def ofValue (value : Json) : ToolOutcome := { text := value.compact, value := some value }

def ofError (text : String) : ToolOutcome := { text, isError := true }

def result (outcome : ToolOutcome) : Json := outcome.value.getD (.string outcome.text)

def toJson (outcome : ToolOutcome) : Json :=
  .object [("text", .string outcome.text), ("is_error", .bool outcome.isError),
    ("value", outcome.value.getD .null)]

def ofJson? (json : Json) : Option ToolOutcome := do
  let fields ← Json.fields? ["text", "is_error", "value"] json
  let text ← fields.required "text" Json.asString?
  let isError ← fields.required "is_error" Json.asBool?
  let value ← fields.nullable "value" some
  return ⟨text, isError, value⟩

end ToolOutcome

structure ToolCall where
  id : String
  name : String
  arguments : Json.Members

namespace ToolCall

def toJson (call : ToolCall) : Json :=
  .object [("id", .string call.id), ("name", .string call.name),
    ("arguments", .object call.arguments)]

def ofJson? (json : Json) : Option ToolCall := do
  let fields ← Json.fields? ["id", "name", "arguments"] json
  let id ← fields.required "id" Json.asString?
  let name ← fields.required "name" Json.asString?
  let arguments ← fields.required "arguments" Json.asObject?
  return ⟨id, name, arguments⟩

end ToolCall

structure ToolContext where
  workerKey : String
  metadata : Json := .null

namespace ToolContext

def toJson (context : ToolContext) : Json :=
  .object [("worker_key", .string context.workerKey), ("metadata", context.metadata)]

def ofJson? (json : Json) : Option ToolContext := do
  let fields ← Json.fields? ["worker_key", "metadata"] json
  let workerKey ← fields.required "worker_key" Json.asString?
  let metadata ← fields.defaulted "metadata" .null some
  return ⟨workerKey, metadata⟩

end ToolContext

/-- One reason in the chain of reasons why a call could not be executed. -/
inductive Cause where
  | message (text : String)
  /-- The call was cancelled, and the run with it. -/
  | aborted (reason : String)
  deriving DecidableEq, Repr

def Cause.text : Cause → String
  | message text => text
  | aborted reason => s!"tool call aborted: {reason}"

structure ExecutorError where
  outermost : Cause
  inner : List Cause := []
  deriving DecidableEq, Repr

namespace ExecutorError

def message (e : ExecutorError) : String := e.outermost.text

/-- The reason of a cancellation anywhere in the chain. -/
def abortReason? (e : ExecutorError) : Option String :=
  (e.outermost :: e.inner).findSome? fun
    | .aborted reason => some reason
    | .message _ => none

def wrap (e : ExecutorError) (text : String) : ExecutorError :=
  ⟨.message text, e.outermost :: e.inner⟩

end ExecutorError

/-- A message that interrupts a run between two calls. -/
structure Steering where
  text : String
  origin : Option String := none
  deriving DecidableEq, Repr

namespace Steering

def toJson (steering : Steering) : Json :=
  .object ([("text", .string steering.text)] ++
    match steering.origin with
    | some origin => [("origin", .string origin)]
    | none => [])

def ofJson? (json : Json) : Option Steering := do
  let fields ← Json.fields? ["text", "origin"] json
  let text ← fields.required "text" Json.asString?
  let origin ← fields.optional "origin" Json.asString?
  return ⟨text, origin⟩

end Steering

end ResumableScript
