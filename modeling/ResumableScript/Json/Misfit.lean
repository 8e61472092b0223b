import ResumableScript.Json.Shape

/-! Why a value that is no longer text does not have a shape. There are no positions to tell, but the
first fault counts, in the order in which the value is gone through. -/
namespace ResumableScript.Json

namespace Shape

def lengthFault? (length : Nat) : Shape → Option Fault
  | orNull inner | orDefault inner => inner.lengthFault? length
  | fields label known =>
    if known.length < length then
      some (.wrongLength length s!"{elements known.length} in sequence")
    else (fields label known).shortage? length
  | _ => none

def variantFault? (known : List (String × Shape)) : Members → Option Fault
  | [(name, _)] => if (known.lookup name).isSome then none else some (nameFault known name)
  | _ => some (.wrongValue "map" "map with a single key")

end Shape

mutual

/-- The first fault by which a value does not have a shape. -/
def misfit? (shape : Shape) : Json → Option Fault
  | array items =>
    if shape.takesArray then
      (misfitItem? shape 0 items).or (shape.lengthFault? items.length)
    else some (.wrongType "sequence" (shape.expected?.getD ""))
  | object members =>
    match shape.alternatives? with
    | some known => (Shape.variantFault? known members).or (misfitMember? shape members)
    | none =>
      if shape.takesObject then
        (misfitMember? shape members).or ((shape.lacked? members).map .missingField)
      else some (.wrongType "map" (shape.expected?.getD ""))
  | null => shape.refusal? null
  | bool flag => shape.refusal? (bool flag)
  | number n => shape.refusal? (number n)
  | string text => shape.refusal? (string text)

def misfitItem? (shape : Shape) (index : Nat) : List Json → Option Fault
  | [] => none
  | item :: rest =>
    match shape.item? index with
    | none => none
    | some inner => (misfit? inner item).or (misfitItem? shape (index + 1) rest)

/-- Unknown fields may have any value. -/
def misfitMember? (shape : Shape) : Members → Option Fault
  | [] => none
  | (key, value) :: rest =>
    match shape.member? key with
    | none => misfitMember? shape rest
    | some inner => (misfit? inner value).or (misfitMember? shape rest)

end

end ResumableScript.Json
