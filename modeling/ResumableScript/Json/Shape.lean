import ResumableScript.Json.Failure
import ResumableScript.Json.Printer
import ResumableScript.Text.Quoted

/-! What a reader of a known structure is looking for, so that it refuses a value of another type
and a repeated field where they stand, and passes over the values of unknown fields. -/
namespace ResumableScript.Json

/-- What a reader is looking for. A label is what a message calls it. -/
inductive Shape where
  | any
  | whole (label : String)
  | text (label : String)
  /-- A text that stands for something else, and why another text does not. -/
  | encoded (reason? : String → Option String)
  | orNull (inner : Shape)
  | orDefault (inner : Shape)
  | each (item : Shape)
  /-- A structure with these fields, by name or in this order. -/
  | fields (label : String) (known : List (String × Shape))
  /-- An object with one of these members, and no other. -/
  | oneOf (known : List (String × Shape))

namespace Shape

def anyText : Shape := text "a string"

def given : Shape → Shape
  | orDefault inner => inner
  | shape => shape

/-- The shape of a member of an object; a structure has none for an unknown field. -/
def member? (key : String) : Shape → Option Shape
  | any => some any
  | orNull inner | orDefault inner => inner.member? key
  | fields _ known => (known.lookup key).map given
  | oneOf known => known.lookup key
  | _ => none

def item? (index : Nat) : Shape → Option Shape
  | any => some any
  | orNull inner | orDefault inner => inner.item? index
  | each item => some item
  | fields _ known => known[index]?.map (·.2.given)
  | _ => none

/-- Whether a second member with this key is refused. -/
def isField (key : String) : Shape → Bool
  | orNull inner | orDefault inner => inner.isField key
  | fields _ known => (known.lookup key).isSome
  | _ => false

/-- Whether a structure may come without a field of this shape. One that may be `null` may be left
out of an object, but not of an array. -/
def mayLack (listed : Bool) : Shape → Bool
  | orNull _ => !listed
  | orDefault _ => true
  | _ => false

def lacked? (members : Members) : Shape → Option String
  | orNull inner | orDefault inner => inner.lacked? members
  | fields _ known =>
    (known.find? fun field => !field.2.mayLack false && (members.lookup field.1).isNone).map (·.1)
  | _ => none

def elements (count : Nat) : String := s!"{count} element" ++ if count = 1 then "" else "s"

def shortage? (length : Nat) : Shape → Option Fault
  | orNull inner | orDefault inner => inner.shortage? length
  | fields label known =>
    ((known.drop length).findIdx? fun field => !field.2.mayLack true).map fun behind =>
      .wrongLength (length + behind) s!"struct {label} with {elements known.length}"
  | _ => none

def alternatives? : Shape → Option (List (String × Shape))
  | oneOf known => some known
  | _ => none

def nameFault (known : List (String × Shape)) (name : String) : Fault :=
  if (known.lookup name).isSome then .wrongType "unit variant" "newtype variant"
  else .unknownVariant name (known.map (·.1))

/-- What a message says was expected, unless all values are. -/
def expected? : Shape → Option String
  | any => none
  | whole label | text label => some label
  | encoded _ => some "a string"
  | orNull inner | orDefault inner => inner.expected?
  | each _ => some "a sequence"
  | fields label _ => some s!"struct {label}"
  | oneOf _ => some "string or map"

def takesArray : Shape → Bool
  | any | each _ | fields .. => true
  | orNull inner | orDefault inner => inner.takesArray
  | whole _ | text _ | encoded _ | oneOf _ => false

def takesObject : Shape → Bool
  | any | fields .. => true
  | orNull inner | orDefault inner => inner.takesObject
  | whole _ | text _ | encoded _ | each _ | oneOf _ => false

def describe : Json → String
  | null => "null"
  | bool flag => if flag then "boolean `true`" else "boolean `false`"
  | number (.integer n _) => s!"integer `{n}`"
  | number (.float x _) => s!"floating point `{Decimal.floatText x}`"
  | string content => s!"string {Text.quoted content}"
  | array _ => "sequence"
  | object _ => "map"

def refusal? (shape : Shape) (value : Json) : Option Fault :=
  match shape, value with
  | any, _ | orNull _, null | text _, string _ => none
  | encoded reason?, string content => (reason? content).map .undecodable
  | oneOf known, string name => some (nameFault known name)
  | whole label, number (.integer n bounds) =>
    if 0 ≤ n then none else some (.wrongValue (describe (number (.integer n bounds))) label)
  | orNull inner, value | orDefault inner, value => inner.refusal? value
  | shape, value => shape.expected?.map (.wrongType (describe value))

end Shape

end ResumableScript.Json
