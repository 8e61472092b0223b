import ResumableScript.Json.Printer

/-! Values inside a script. They leave and enter it only as JSON. A dictionary is the list of its
entries in strictly increasing order of keys, by code point. -/
namespace ResumableScript

inductive Value where
  | nil
  | bool (flag : Bool)
  | int (value : Int64)
  | float (value : Float)
  | str (text : String)
  | list (items : List Value)
  | dict (entries : List (String × Value))
  deriving Inhabited

namespace Value

abbrev Entries := List (String × Value)

/-- Puts an entry at its place in the order, over one of the same key. -/
def Entries.insert (key : String) (value : Value) : Entries → Entries
  | [] => [(key, value)]
  | (k, v) :: rest =>
    if key < k then (key, value) :: (k, v) :: rest
    else if k = key then (key, value) :: rest
    else (k, v) :: Entries.insert key value rest

def Entries.ofList (pairs : List (String × Value)) : Entries :=
  pairs.foldl (fun entries pair => Entries.insert pair.1 pair.2 entries) []

/-- Keys strictly increase, at every level. -/
inductive Ordered : Value → Prop where
  | nil : Ordered nil
  | bool (flag : Bool) : Ordered (bool flag)
  | int (value : Int64) : Ordered (int value)
  | float (value : Float) : Ordered (float value)
  | str (text : String) : Ordered (str text)
  | list (items : List Value) (each : ∀ v ∈ items, Ordered v) : Ordered (list items)
  | dict (entries : Entries) (increasing : entries.Pairwise fun a b => a.1 < b.1)
      (each : ∀ entry ∈ entries, Ordered entry.2) : Ordered (dict entries)

mutual

/-- The JSON form; infinities and NaN have none and become `null`. -/
def toJson : Value → Json
  | nil => .null
  | bool flag => .bool flag
  | int n => Json.ofInt64 n
  | float x => Json.ofFloat x
  | str text => .string text
  | list items => .array (toJsonItems items)
  | dict entries => .object (toJsonMembers entries)

def toJsonItems : List Value → List Json
  | [] => []
  | item :: rest => item.toJson :: toJsonItems rest

def toJsonMembers : List (String × Value) → List (String × Json)
  | [] => []
  | (key, value) :: rest => (key, value.toJson) :: toJsonMembers rest

end

/-- Integers above the signed range become floats. -/
def ofNumber : Json.Number → Value
  | .integer n _ => if n < 9223372036854775808 then int (Int64.ofInt n) else float (Float.ofInt n)
  | .float x _ => float x

mutual

def ofJson : Json → Value
  | .null => nil
  | .bool flag => bool flag
  | .number n => ofNumber n
  | .string text => str text
  | .array items => list (ofJsonItems items)
  | .object members => dict (Entries.ofList (ofJsonMembers members))

def ofJsonItems : List Json → List Value
  | [] => []
  | item :: rest => ofJson item :: ofJsonItems rest

def ofJsonMembers : List (String × Json) → List (String × Value)
  | [] => []
  | (key, value) :: rest => (key, ofJson value) :: ofJsonMembers rest

end

/-- What conditions take as true: all but `nil`, `false`, zero and what is empty. -/
def isTruthy : Value → Bool
  | nil => false
  | bool flag => flag
  | int n => n != 0
  | float x => x != 0
  | str text => !text.isEmpty
  | list items => !items.isEmpty
  | dict entries => !entries.isEmpty

def typeName : Value → String
  | nil => "nil"
  | bool _ => "bool"
  | int _ => "int"
  | float _ => "float"
  | str _ => "str"
  | list _ => "list"
  | dict _ => "dict"

def toFloat? : Value → Option Float
  | int n => some (Float.ofInt n.toInt)
  | float x => some x
  | _ => none

mutual

/-- Equality by structure, in which an integer equals the float of its value. -/
def looseEq : Value → Value → Bool
  | nil, nil => true
  | bool a, bool b => a == b
  | int a, int b => a == b
  | int a, float b => Float.ofInt a.toInt == b
  | float a, int b => Float.ofInt b.toInt == a
  | float a, float b => a == b
  | str a, str b => a == b
  | list a, list b => looseEqItems a b
  | dict a, dict b => looseEqEntries a b
  | _, _ => false

def looseEqItems : List Value → List Value → Bool
  | [], [] => true
  | a :: as, b :: bs => looseEq a b && looseEqItems as bs
  | _, _ => false

def looseEqEntries : List (String × Value) → List (String × Value) → Bool
  | [], [] => true
  | (j, a) :: as, (k, b) :: bs => j == k && looseEq a b && looseEqEntries as bs
  | _, _ => false

end

/-- The text of a value within other text: strings as they are, all else as compact JSON. -/
def display : Value → String
  | str text => text
  | nil => "nil"
  | value => value.toJson.compact

end Value

end ResumableScript
