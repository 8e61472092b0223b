import ResumableScript.Run.Tool
import ResumableScript.Text.Blank

/-! The comment in front of a script that lists the tools as call signatures, required parameters
first. -/
namespace ResumableScript.Preamble

def header : List String :=
  ["; Tools are available as functions. Call them directly.",
    "; Tool failures raise ToolError (alias of RuntimeError).",
    "; Use (print ...) for logs; the last expression is returned.",
    ";"]

def isLetter (c : Char) : Bool := ('a' ≤ c && c ≤ 'z') || ('A' ≤ c && c ≤ 'Z')

/-- Whether a name can be written as a bare symbol, which takes ASCII letters, digits, underscores
and hyphens, the first of which is a letter or an underscore. -/
def isSymbol (name : String) : Bool :=
  match name.toList with
  | [] => false
  | first :: rest =>
    (isLetter first || first == '_') &&
      rest.all fun c => isLetter c || ('0' ≤ c && c ≤ '9') || c == '_' || c == '-'

def scriptType (name : String) : String :=
  match name with
  | "string" => "str"
  | "integer" => "int"
  | "number" => "float"
  | "boolean" => "bool"
  | "object" => "dict"
  | "array" => "list"
  | "null" => "nil"
  | other => other

def distinct (texts : List String) : List String :=
  (texts.foldl (fun seen text => if seen.contains text then seen else text :: seen) []).reverse

def alternatives (texts : List String) : String := String.intercalate " | " texts

/-- The hint for a schema that lists its values or names its type, where `items` is the hint for
the items of an array. -/
def plainHint (schema : Json.Members) (items : Option String) : String :=
  match (schema.lookup "enum").bind Json.asArray? with
  | some values => alternatives (values.map Json.compact)
  | none =>
    match schema.lookup "type" with
    | some (.string "array") =>
      match items with
      | some hint => s!"list {hint}"
      | none => "list"
    | some (.string name) => scriptType name
    | some (.array names) => alternatives ((names.filterMap Json.asString?).map scriptType)
    | _ => "any"

mutual

def typeHint : Json → String
  | .object schema =>
    match distinct (unionHints "anyOf" schema), distinct (unionHints "oneOf" schema) with
    | [], [] => plainHint schema (itemsHint? schema)
    | [], hints => alternatives hints
    | hints, _ => alternatives hints
  | _ => "any"

def unionHints (key : String) : List (String × Json) → List String
  | [] => []
  | (k, value) :: rest => if k = key then arrayHints value else unionHints key rest

def arrayHints : Json → List String
  | .array options => hints options
  | _ => []

def hints : List Json → List String
  | [] => []
  | option :: rest => typeHint option :: hints rest

def itemsHint? : List (String × Json) → Option String
  | [] => none
  | (k, value) :: rest => if k = "items" then some (typeHint value) else itemsHint? rest

end

/-- The parameters that can be written as keywords, with their types; optional ones are marked. -/
def signature (tool : ToolDefinition) : String :=
  let shown := tool.properties.filter fun property => isSymbol property.1
  let (mandatory, optional) := shown.partition fun property => tool.required.contains property.1
  String.intercalate " "
    (mandatory.map (fun (name, schema) => s!":{name} <{typeHint schema}>") ++
      optional.map (fun (name, schema) => s!":{name}? <{typeHint schema}>"))

def splitLines : List Char → List (List Char)
  | [] => [[]]
  | c :: rest =>
    match splitLines rest with
    | line :: more => if c = '\n' then [] :: line :: more else (c :: line) :: more
    | [] => [[c]]

def describe (description : String) : List String :=
  match Text.trim description.toList with
  | [] => [";   No description."]
  | text => (splitLines text).map fun line => ";   " ++ String.ofList (Text.trimRight line)

def entry (tool : ToolDefinition) : List String :=
  let call := match signature tool with
    | "" => s!"; ({tool.name})"
    | signature => s!"; ({tool.name} {signature})"
  call :: describe tool.description

/-- The preamble for tools; those whose names are no symbols are left out. -/
def build (tools : List ToolDefinition) : String :=
  let shown := tools.filter fun tool => isSymbol tool.name
  let entries := if shown.isEmpty then ["; (no tools available)"] else shown.flatMap entry
  String.intercalate "\n" (header ++ entries)

/-- The script that is run: the preamble and the code, two newlines apart. -/
def join (preamble code : String) : String :=
  String.intercalate "\n\n" ([Text.trimmed preamble, code].filter (!·.isEmpty))

end ResumableScript.Preamble
