import ResumableScript.Engine.Checkpoint
import ResumableScript.Run.Tool

/-! The durable history of a run. A tool call is recorded before it is made, together with the
checkpoint from which the run can be taken up again. -/
namespace ResumableScript

structure CallEntry where
  checkpoint : String
  printOutput : List String
  /-- Calls made before this one. -/
  toolCallCount : UInt64
  toolName : String
  /-- The argument object, or the raw arguments if they did not convert. -/
  toolArgs : Json

structure CompleteEntry where
  output : String
  printOutput : List String
  toolCallCount : UInt64
  isError : Bool
  error : Option String := none

inductive Entry where
  | start (code preamble : String)
  | toolCall (call : CallEntry)
  | toolResult (toolName result : String) (isError : Bool)
  | complete (complete : CompleteEntry)
  | steeringInterrupt (output : String) (printOutput : List String) (steering : Steering)

def Entry.kind : Entry → String
  | start .. => "rlm_start"
  | toolCall .. => "rlm_tool_call"
  | toolResult .. => "rlm_tool_result"
  | complete .. => "rlm_complete"
  | steeringInterrupt .. => "rlm_steering_interrupt"

/-- An entry of the run that an outer call owns. -/
structure Record where
  callId : String
  entry : Entry

structure StoredRecord extends Record where
  time : Int64

namespace CallEntry

def decode (call : CallEntry) : Except SnapshotFault Checkpoint := Checkpoint.decode call.checkpoint

end CallEntry

namespace Entry

/-- The fields of an entry behind those that all have. -/
def members : Entry → Json.Members
  | start code preamble => [("code", .string code), ("preamble", .string preamble)]
  | toolCall call =>
    [("checkpoint", .string call.checkpoint), ("print_output", Json.ofStrings call.printOutput),
      ("tool_call_count", Json.ofUInt64 call.toolCallCount), ("tool_name", .string call.toolName),
      ("tool_args", call.toolArgs)]
  | toolResult toolName result isError =>
    [("tool_name", .string toolName), ("tool_result", .string result),
      ("tool_is_error", .bool isError)]
  | complete c =>
    [("output", .string c.output), ("print_output", Json.ofStrings c.printOutput),
      ("tool_call_count", Json.ofUInt64 c.toolCallCount), ("is_error", .bool c.isError)] ++
      match c.error with
      | some error => [("error", .string error)]
      | none => []
  | steeringInterrupt output printOutput steering =>
    [("output", .string output), ("print_output", Json.ofStrings printOutput),
      ("steering", steering.toJson)]

def fieldNames? : String → Option (List String)
  | "rlm_start" => some ["code", "preamble"]
  | "rlm_tool_call" =>
    some ["checkpoint", "print_output", "tool_call_count", "tool_name", "tool_args"]
  | "rlm_tool_result" => some ["tool_name", "tool_result", "tool_is_error"]
  | "rlm_complete" => some ["output", "print_output", "tool_call_count", "is_error", "error"]
  | "rlm_steering_interrupt" => some ["output", "print_output", "steering"]
  | _ => none

def strings? : Json → Option (List String) := Json.listOf? Json.asString?

def ofFields? (kind : String) (fields : Json.Fields) : Option Entry :=
  match kind with
  | "rlm_start" => do
    let code ← fields.required "code" Json.asString?
    let preamble ← fields.required "preamble" Json.asString?
    return start code preamble
  | "rlm_tool_call" => do
    let checkpoint ← fields.required "checkpoint" Json.asString?
    let printOutput ← fields.required "print_output" strings?
    let toolCallCount ← fields.required "tool_call_count" Json.asUInt64?
    let toolName ← fields.required "tool_name" Json.asString?
    let toolArgs ← fields.required "tool_args" some
    return toolCall { checkpoint, printOutput, toolCallCount, toolName, toolArgs }
  | "rlm_tool_result" => do
    let toolName ← fields.required "tool_name" Json.asString?
    let result ← fields.required "tool_result" Json.asString?
    let isError ← fields.required "tool_is_error" Json.asBool?
    return toolResult toolName result isError
  | "rlm_complete" => do
    let output ← fields.required "output" Json.asString?
    let printOutput ← fields.required "print_output" strings?
    let toolCallCount ← fields.required "tool_call_count" Json.asUInt64?
    let isError ← fields.required "is_error" Json.asBool?
    let error ← fields.optional "error" Json.asString?
    return complete { output, printOutput, toolCallCount, isError, error }
  | "rlm_steering_interrupt" => do
    let output ← fields.required "output" Json.asString?
    let printOutput ← fields.required "print_output" strings?
    let steering ← fields.required "steering" Steering.ofJson?
    return steeringInterrupt output printOutput steering
  | _ => none

end Entry

namespace StoredRecord

def toJson (record : StoredRecord) : Json :=
  .object ([("type", .string record.entry.kind), ("at", Json.ofInt64 record.time),
    ("tool_call_id", .string record.callId)] ++ record.entry.members)

def ofJson? (json : Json) : Option StoredRecord := do
  let (kind, content) ← Json.tagged? "type" json
  let names ← Entry.fieldNames? kind
  let fields ← Json.fields? (["at", "tool_call_id"] ++ names) content
  let time ← fields.required "at" Json.asInt64?
  let callId ← fields.required "tool_call_id" Json.asString?
  let entry ← Entry.ofFields? kind fields
  return { callId, entry, time }

end StoredRecord

structure RunResult where
  output : String
  printOutput : List String
  toolCallCount : UInt64
  steeringInterrupt : Option Steering := none
  skipTurn : Bool := false

namespace RunResult

def toJson (result : RunResult) : Json :=
  .object ([("output", .string result.output), ("print_output", Json.ofStrings result.printOutput),
    ("tool_call_count", Json.ofUInt64 result.toolCallCount)] ++
    (match result.steeringInterrupt with
      | some steering => [("steering_interrupt", steering.toJson)]
      | none => []) ++
    if result.skipTurn then [("skip_turn", .bool true)] else [])

def ofJson? (json : Json) : Option RunResult := do
  let fields ← Json.fields?
    ["output", "print_output", "tool_call_count", "steering_interrupt", "skip_turn"] json
  let output ← fields.required "output" Json.asString?
  let printOutput ← fields.required "print_output" (Json.listOf? Json.asString?)
  let toolCallCount ← fields.required "tool_call_count" Json.asUInt64?
  let steeringInterrupt ← fields.optional "steering_interrupt" Steering.ofJson?
  let skipTurn ← fields.defaulted "skip_turn" false Json.asBool?
  return { output, printOutput, toolCallCount, steeringInterrupt, skipTurn }

end RunResult

end ResumableScript
