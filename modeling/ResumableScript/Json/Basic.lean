/-! JSON values. Integers are kept apart from floats; an object is the list of its members in
order of first appearance. -/
namespace ResumableScript

namespace Json

/-- Integers from the least signed to the greatest unsigned 64-bit one, and finite doubles. -/
inductive Number where
  | integer (value : Int) (bounds : -9223372036854775808 ≤ value ∧ value < 18446744073709551616)
  | float (value : Float) (finite : value.isFinite = true)
  deriving DecidableEq

def Number.ofFloat? (x : Float) : Option Number :=
  if h : x.isFinite = true then some (.float x h) else none

def Number.ofInt? (n : Int) : Option Number :=
  if h : -9223372036854775808 ≤ n ∧ n < 18446744073709551616 then some (.integer n h) else none

def Number.toFloat : Number → Float
  | .integer n _ => Float.ofInt n
  | .float x _ => x

end Json

inductive Json where
  | null
  | bool (flag : Bool)
  | number (value : Json.Number)
  | string (text : String)
  | array (items : List Json)
  | object (members : List (String × Json))
  deriving Inhabited

namespace Json

abbrev Members := List (String × Json)

/-- Replaces the value of a key where the key stands, or adds the member at the end. -/
def Members.put (key : String) (value : Json) : Members → Members
  | [] => [(key, value)]
  | (k, v) :: rest => if k = key then (k, value) :: rest else (k, v) :: Members.put key value rest

def get? (key : String) : Json → Option Json
  | object members => members.lookup key
  | _ => none

def asString? : Json → Option String
  | string text => some text
  | _ => none

def asBool? : Json → Option Bool
  | bool flag => some flag
  | _ => none

def asArray? : Json → Option (List Json)
  | array items => some items
  | _ => none

def asObject? : Json → Option Members
  | object members => some members
  | _ => none

def isNull : Json → Bool
  | null => true
  | _ => false

/-- The number for a double; JSON has none for infinities and NaN, which become `null`. -/
def ofFloat (x : Float) : Json :=
  match Number.ofFloat? x with
  | some n => number n
  | none => null

def ofInt64 (n : Int64) : Json :=
  number (.integer n.toInt ⟨Int64.le_toInt n, Int.lt_trans n.toInt_lt (by decide)⟩)

def ofUInt64 (n : UInt64) : Json :=
  number (.integer n.toNat ⟨by omega, by have := n.toNat_lt; omega⟩)

end Json

end ResumableScript
