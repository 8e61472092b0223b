import ResumableScript.Json.Decode
import ResumableScript.Json.Parser
import ResumableScript.Script.Expr
import ResumableScript.Script.Exchange

/-! The JSON forms of expressions and of what a script and its host exchange. -/
namespace ResumableScript
open Json (fields?)

def Expr.tagged (type : String) (content : Json) : Json :=
  .object [("type", .string type), ("value", content)]

mutual

def Expr.toJson : Expr → Json
  | .symbol name => Expr.tagged "Symbol" (.string name)
  | .keyword name => Expr.tagged "Keyword" (.string name)
  | .string text => Expr.tagged "String" (.string text)
  | .integer value => Expr.tagged "Integer" (Json.ofInt64 value)
  | .float value => Expr.tagged "Float" (Json.ofFloat value)
  | .boolean flag => Expr.tagged "Boolean" (.bool flag)
  | .nil => .object [("type", .string "Nil")]
  | .list items => Expr.tagged "List" (.array (Expr.toJsonItems items))

def Expr.toJsonItems : List Expr → List Json
  | [] => []
  | item :: rest => item.toJson :: Expr.toJsonItems rest

end

namespace Emission

def toJson (e : Emission) : Json :=
  .object [("values", .array e.values), ("end", .string e.ending)]

def ofJson? (json : Json) : Option Emission := do
  let fields ← fields? ["values", "end"] json
  let values ← fields.required "values" Json.asArray?
  let ending ← fields.defaulted "end" "" Json.asString?
  return ⟨values, ending⟩

def shape : Json.Shape :=
  .fields "PrintEmission" [("values", .each .any), ("end", .orDefault .anyText)]

end Emission

namespace ScriptException

def fieldNames : List String := ["kind", "message"]

def shape : Json.Shape := .fields "ExceptionInfo" (fieldNames.map (·, .anyText))

def toJson (e : ScriptException) : Json :=
  .object [("kind", .string e.kind), ("message", .string e.message)]

def ofJson? (json : Json) : Option ScriptException := do
  let fields ← fields? fieldNames json
  let kind ← fields.required "kind" Json.asString?
  let message ← fields.required "message" Json.asString?
  return ⟨kind, message⟩

end ScriptException

namespace Instruction

def shape : Json.Shape :=
  .oneOf [("return_value", .any), ("exception", ScriptException.shape)]

def toJson : Instruction → Json
  | returnValue value => .object [("return_value", value)]
  | exception e => .object [("exception", e.toJson)]

def ofJson? (json : Json) : Option Instruction := do
  match ← Json.alternative? json with
  | ("return_value", value) => return returnValue value
  | ("exception", content) => return exception (← ScriptException.ofJson? content)
  | _ => none

end Instruction

namespace Limits

def fieldNames : List String := ["max_steps", "max_depth", "max_duration_ms"]

def shape : Json.Shape :=
  .fields "Limits" [("max_steps", .orDefault (.whole "u64")),
    ("max_depth", .orDefault (.whole "usize")), ("max_duration_ms", .orDefault (.whole "u64"))]

def toJson (limits : Limits) : Json :=
  .object [("max_steps", Json.ofUInt64 limits.maxSteps), ("max_depth", Json.ofUInt64 limits.maxDepth),
    ("max_duration_ms", Json.ofUInt64 limits.maxDurationMs)]

def ofJson? (json : Json) : Option Limits := do
  let default : Limits := {}
  let fields ← fields? fieldNames json
  let maxSteps ← fields.defaulted "max_steps" default.maxSteps Json.asUInt64?
  let maxDepth ← fields.defaulted "max_depth" default.maxDepth Json.asUInt64?
  let maxDurationMs ← fields.defaulted "max_duration_ms" default.maxDurationMs Json.asUInt64?
  return ⟨maxSteps, maxDepth, maxDurationMs⟩

end Limits

namespace JournalEntry

def fieldNames : List String := ["function_name", "instruction"]

def shape : Json.Shape :=
  .fields "JournalEntry" [("function_name", .anyText), ("instruction", Instruction.shape)]

def toJson (entry : JournalEntry) : Json :=
  .object [("function_name", .string entry.functionName), ("instruction", entry.instruction.toJson)]

def ofJson? (json : Json) : Option JournalEntry := do
  let fields ← fields? fieldNames json
  let functionName ← fields.required "function_name" Json.asString?
  let instruction ← fields.required "instruction" Instruction.ofJson?
  return ⟨functionName, instruction⟩

end JournalEntry

def Json.ofStrings (texts : List String) : Json := .array (texts.map .string)

def Expr.atom? (type : String) (content : Option Json) : Option Expr :=
  match type, content with
  | "Symbol", some content => content.asString?.map .symbol
  | "Keyword", some content => content.asString?.map .keyword
  | "String", some content => content.asString?.map .string
  | "Integer", some content => content.asInt64?.map .integer
  | "Float", some content => content.asFloat?.map .float
  | "Boolean", some content => content.asBool?.map .boolean
  | "Nil", none | "Nil", some .null => some .nil
  | _, _ => none

mutual

def Expr.ofJson? : Json → Option Expr
  | .object members =>
    match (members.lookup "type").bind Json.unitAlternative? with
    | some "List" => (Expr.ofValueMember? members).map .list
    | some type => Expr.atom? type (members.lookup "value")
    | none => none
  | .array [tag, content] =>
    match Json.unitAlternative? tag with
    | some "List" => (Expr.ofArray? content).map .list
    | some type => Expr.atom? type (some content)
    | none => none
  | _ => none

def Expr.ofValueMember? : List (String × Json) → Option (List Expr)
  | [] => none
  | (key, content) :: rest =>
    if key = "value" then Expr.ofArray? content else Expr.ofValueMember? rest

def Expr.ofArray? : Json → Option (List Expr)
  | .array items => Expr.ofItems? items
  | _ => none

def Expr.ofItems? : List Json → Option (List Expr)
  | [] => some []
  | item :: rest => do
    let expr ← Expr.ofJson? item
    let exprs ← Expr.ofItems? rest
    return expr :: exprs

end

end ResumableScript
