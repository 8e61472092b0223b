import ResumableScript.Run.Tool
import ResumableScript.Decimal.Shortest

/-! From the arguments of a script's call to the argument object of a tool. -/
namespace ResumableScript

inductive ArgumentFault where
  | tooManyPositional (declared given : Nat)
  | duplicate (name : String)
  | unknown (name : String)
  | missing (name : String)
  | mismatch (name expected found : String)
  deriving DecidableEq, Repr

def ArgumentFault.message (tool : String) : ArgumentFault → String
  | tooManyPositional declared given =>
    s!"{tool} accepts at most {declared} positional arguments, got {given}"
  | duplicate name => s!"{tool} got multiple values for argument '{name}'"
  | unknown name => s!"{tool} got an unexpected argument '{name}'"
  | missing name => s!"{tool} is missing required argument '{name}'"
  | mismatch name expected found => s!"{tool} argument '{name}' must be {expected}, got {found}"

def Decimal.isWhole (x : Float) : Bool :=
  let m := Magnitude.ofBits x.toBits
  0 ≤ m.exponent || m.mantissa % Nat.pow 2 m.exponent.natAbs == 0

namespace Arguments

def typeNames : List String :=
  ["string", "boolean", "number", "integer", "array", "object", "null"]

/-- Whether a value is of a type that a schema names; an unknown type takes all values. -/
def isOfType (name : String) (value : Json) : Bool :=
  match name, value with
  | "string", .string _ | "boolean", .bool _ | "number", .number _ | "array", .array _
  | "object", .object _ | "null", .null => true
  | "integer", .number (.integer _ _) => true
  | "integer", .number (.float x _) => Decimal.isWhole x
  | name, _ => !typeNames.contains name

def fits (expected value : Json) : Bool :=
  match expected with
  | .string name => isOfType name value
  | .array names => (names.filterMap Json.asString?).any (isOfType · value)
  | _ => true

def typeLabel : Json → String
  | .string name => name
  | .array names => String.intercalate " | " (names.filterMap Json.asString?)
  | other => other.compact

def typeName : Json → String
  | .null => "null"
  | .bool _ => "boolean"
  | .number (.float _ _) => "number"
  | .number (.integer _ _) => "integer"
  | .string _ => "string"
  | .array _ => "array"
  | .object _ => "object"

def addKeyword (tool : ToolDefinition) (taken : Json.Members) (keyword : String × Json) :
    Except ArgumentFault Json.Members :=
  if (taken.lookup keyword.1).isSome then .error (.duplicate keyword.1)
  else if tool.isClosed && (tool.properties.lookup keyword.1).isNone then .error (.unknown keyword.1)
  else .ok (taken ++ [keyword])

def declaredType? (tool : ToolDefinition) (name : String) : Option Json :=
  (tool.properties.lookup name).bind (Json.get? "type")

def mismatch? (tool : ToolDefinition) (arguments : Json.Members) : Option ArgumentFault :=
  arguments.findSome? fun (name, value) =>
    match declaredType? tool name with
    | some expected =>
      if fits expected value then none
      else some (.mismatch name (typeLabel expected) (typeName value))
    | none => none

/-- Positional arguments take the declared parameters in order, keywords follow, and a `null` that
is not required is dropped. -/
def convert (tool : ToolDefinition) (args : List Json) (kwargs : Json.Members) :
    Except ArgumentFault Json.Members := do
  if tool.properties.length < args.length then
    throw (.tooManyPositional tool.properties.length args.length)
  let positional := (tool.properties.map (·.1)).zip args
  let given ← kwargs.foldlM (addKeyword tool) positional
  let kept := given.filter fun (name, value) => !value.isNull || tool.required.contains name
  match tool.required.find? fun name => (kept.lookup name).isNone with
  | some name => throw (.missing name)
  | none =>
    match mismatch? tool kept with
    | some fault => throw fault
    | none => return kept

end Arguments

end ResumableScript
