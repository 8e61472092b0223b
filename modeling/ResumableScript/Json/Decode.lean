import ResumableScript.Json.Basic

/-! Reading structures off JSON values. A structure is an object with its fields as members, of
which unknown ones are passed over, or an array of its fields in order. An alternative is an object
with its name as only key, or a structure that carries its name in a tag. -/
namespace ResumableScript.Json

/-- Whole numbers of 64 bits; a float is none, whatever its value. -/
def asUInt64? : Json → Option UInt64
  | number (.integer n _) => if 0 ≤ n then some (UInt64.ofNat n.toNat) else none
  | _ => none

def asInt64? : Json → Option Int64
  | number (.integer n _) => if n < 9223372036854775808 then some (Int64.ofInt n) else none
  | _ => none

def asFloat? : Json → Option Float
  | number n => some n.toFloat
  | _ => none

def listOf? {α : Type} (item : Json → Option α) : Json → Option (List α)
  | array items => items.mapM item
  | _ => none

inductive Fields where
  | named (members : Members)
  | listed (fields : List (String × Json))

/-- The fields of a structure whose names are given in order; an array may be too short, but not
too long. -/
def fields? (names : List String) : Json → Option Fields
  | object members => some (.named members)
  | array items => if items.length ≤ names.length then some (.listed (names.zip items)) else none
  | _ => none

namespace Fields

def get? (name : String) : Fields → Option Json
  | named members => members.lookup name
  | listed fields => fields.lookup name

def required {α : Type} (fields : Fields) (name : String) (read : Json → Option α) : Option α :=
  (fields.get? name).bind read

/-- A field that may be missing, but is not `null` for that. -/
def defaulted {α : Type} (fields : Fields) (name : String) (default : α) (read : Json → Option α) :
    Option α :=
  match fields.get? name with
  | none => some default
  | some value => read value

def optional {α : Type} (fields : Fields) (name : String) (read : Json → Option α) :
    Option (Option α) :=
  match fields.get? name with
  | none | some null => some none
  | some value => (read value).map some

/-- A field that may be `null`, or missing from an object but not from an array. -/
def nullable {α : Type} (fields : Fields) (name : String) (read : Json → Option α) :
    Option (Option α) :=
  match fields, fields.get? name with
  | listed _, none => none
  | _, none | _, some null => some none
  | _, some value => (read value).map some

end Fields

/-- The tag and the structure of a tagged alternative; in an array the tag comes first. -/
def tagged? (tag : String) : Json → Option (String × Json)
  | object members =>
    match members.lookup tag with
    | some (string name) => some (name, object members)
    | _ => none
  | array (string name :: items) => some (name, array items)
  | _ => none

def alternative? : Json → Option (String × Json)
  | object [(name, content)] => some (name, content)
  | _ => none

def unitAlternative? : Json → Option String
  | string name => some name
  | object [(name, null)] => some name
  | _ => none

end ResumableScript.Json
