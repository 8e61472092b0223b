import ResumableScript.Run.Tool
import ResumableScript.Json.Parser

/-! Functions that the host answers itself. A tool of the host's own that has the name of one takes
its place in the list. -/
namespace ResumableScript.RuntimeTool

def skipName : String := "skip"

def skipOutput : String := "Turn skipped"

def parseName : String := "json_parse"

def stringifyName : String := "json_stringify"

def ofType (type : String) : Json := .object [("type", .string type)]

def definitions : List ToolDefinition :=
  [{ name := skipName
     description := "End this turn without producing a result."
     parameters := .object [("type", .string "object"), ("properties", .object [])] },
   { name := parseName
     description := "Parse JSON text. Returns \x7b\"value\": parsed\x7d."
     parameters := .object [("type", .string "object"),
       ("properties", .object [("text", ofType "string")]),
       ("required", .array [.string "text"])] },
   { name := stringifyName
     description := "Serialize a value to JSON text. Returns \x7b\"value\": text\x7d."
     parameters := .object [("type", .string "object"),
       ("properties", .object [("value", .object []), ("pretty", ofType "boolean")]),
       ("required", .array [.string "value"])] }]

/-- The tools, and behind them the runtime functions whose names they leave free. -/
def extend (tools : List ToolDefinition) : List ToolDefinition :=
  definitions.foldl
    (fun tools definition =>
      if tools.any (·.name == definition.name) then tools else tools ++ [definition])
    tools

inductive Fault where
  | notText
  | invalidJson (error : Json.ParseError)

def Fault.message : Fault → String
  | notText => s!"{parseName} expects a string"
  | invalidJson e => s!"{parseName}: invalid JSON: {e.message}"

def parse (arguments : Json.Members) : Except Fault Json :=
  match (arguments.lookup "text").bind Json.asString? with
  | none => .error .notText
  | some text =>
    match Json.parse text with
    | .ok value => .ok (.object [("value", value)])
    | .error e => .error (.invalidJson e)

def stringify (arguments : Json.Members) : Json :=
  let value := (arguments.lookup "value").getD .null
  let isPretty := ((arguments.lookup "pretty").bind Json.asBool?).getD false
  .object [("value", .string (if isPretty then value.pretty else value.compact))]

/-- The answer of a runtime function; other names belong to the executor. -/
def answer? (name : String) (arguments : Json.Members) : Option (Except Fault Json) :=
  if name = parseName then some (parse arguments)
  else if name = stringifyName then some (.ok (stringify arguments))
  else none

end ResumableScript.RuntimeTool
