import ResumableScript.Script.Value
import ResumableScript.Script.Exchange

/-! Functions that scripts call without leaving the sandbox. Integer arithmetic is exact or
raises; mixed arithmetic and all order of numbers goes through doubles. -/
namespace ResumableScript

inductive Builtin where
  | print | write | dict
  | list | get | len | str | append | keys | not | type
  | add | subtract | multiply | divide | modulo
  | equal | unequal | less | greater | lessOrEqual | greaterOrEqual
  deriving DecidableEq, Repr

namespace Builtin

def name : Builtin → String
  | print => "print"
  | write => "write"
  | dict => "dict"
  | list => "list"
  | get => "get"
  | len => "len"
  | str => "str"
  | append => "append"
  | keys => "keys"
  | not => "not"
  | type => "type"
  | add => "+"
  | subtract => "-"
  | multiply => "*"
  | divide => "/"
  | modulo => "%"
  | equal => "="
  | unequal => "!="
  | less => "<"
  | greater => ">"
  | lessOrEqual => "<="
  | greaterOrEqual => ">="

def all : List Builtin :=
  [print, write, dict, list, get, len, str, append, keys, not, type, add, subtract, multiply, divide,
    modulo, equal, unequal, less, greater, lessOrEqual, greaterOrEqual]

def ofName? (text : String) : Option Builtin := all.find? (·.name == text)

abbrev Result (α : Type) := Except ScriptException α

def raise {α : Type} (kind message : String) : Result α := .error ⟨kind, message⟩

def typeError {α : Type} (message : String) : Result α := raise "TypeError" message

/-- Exact integers, as long as they fit. -/
def checked (n : Int) : Result Value :=
  if Int64.minValue.toInt ≤ n ∧ n ≤ Int64.maxValue.toInt then .ok (.int (Int64.ofInt n))
  else raise "OverflowError" "integer overflow"

def operandError {α : Type} (operator : String) (a b : Value) : Result α :=
  typeError s!"unsupported operand types for {operator}: '{a.typeName}' and '{b.typeName}'"

/-- An operation on integers, or on doubles if either operand is one. -/
def arithmetic (operator : String) (exact : Int → Int → Int) (rounded : Float → Float → Float)
    (a b : Value) : Result Value :=
  match a, b with
  | .int x, .int y => checked (exact x.toInt y.toInt)
  | a, b =>
    match a.toFloat?, b.toFloat? with
    | some x, some y => .ok (.float (rounded x y))
    | _, _ => operandError operator a b

/-- Sums of numbers; text takes anything behind it, and lists are joined. -/
def addValues (a b : Value) : Result Value :=
  match a, b with
  | .str x, y => .ok (.str (x ++ y.display))
  | .list x, .list y => .ok (.list (x ++ y))
  | a, b => arithmetic "+" (· + ·) (· + ·) a b

def multiplyValues : Value → Value → Result Value := arithmetic "*" (· * ·) (· * ·)

def subtractValues : Value → Value → Result Value := arithmetic "-" (· - ·) (· - ·)

def foldValues (identity : Value) (operation : Value → Value → Result Value) :
    List Value → Result Value
  | [] => .ok identity
  | first :: rest => rest.foldlM operation first

def negate : Value → Result Value
  | .int n => checked (-n.toInt)
  | .float x => .ok (.float (-x))
  | other => typeError s!"bad operand type for unary -: '{other.typeName}'"

def difference : List Value → Result Value
  | [] => typeError "`-` expects at least 1 argument"
  | [single] => negate single
  | first :: rest => rest.foldlM subtractValues first

def unary (self : Builtin) : List Value → Result Value
  | [value] => .ok value
  | args => typeError s!"`{self.name}` expects 1 argument, got {args.length}"

def binary (self : Builtin) : List Value → Result (Value × Value)
  | [a, b] => .ok (a, b)
  | args => typeError s!"`{self.name}` expects 2 arguments, got {args.length}"

/-- Division is always a float's. -/
def quotient (a b : Value) : Result Value :=
  match a.toFloat?, b.toFloat? with
  | some x, some y =>
    if y == 0 then raise "ZeroDivisionError" "division by zero" else .ok (.float (x / y))
  | _, _ => operandError "/" a b

/-- The remainder of division towards zero, moved by the divisor where the two differ in sign. -/
def floored (x y : Int64) : Int64 :=
  let r := x % y
  if r ≠ 0 ∧ decide (r < 0) ≠ decide (y < 0) then r + y else r

def remainder (a b : Value) : Result Value :=
  match a, b with
  | .int x, .int y =>
    if y = 0 then raise "ZeroDivisionError" "modulo by zero"
    else if x = Int64.minValue ∧ y = -1 then raise "OverflowError" "integer overflow"
    else .ok (.int (floored x y))
  | a, b =>
    match a.toFloat?, b.toFloat? with
    | some x, some y =>
      if y == 0 then raise "ZeroDivisionError" "modulo by zero"
      else .ok (.float (x - y * (x / y).floor))
    | _, _ => operandError "%" a b

/-- Whether a test holds of each two neighbours; those behind a failure are not looked at. -/
def allNeighbours (test : Value → Value → Result Bool) : List Value → Result Bool
  | a :: b :: rest => do
    if ← test a b then allNeighbours test (b :: rest) else return false
  | _ => .ok true

def pairwise (test : Value → Value → Result Bool) (args : List Value) : Result Value :=
  if args.length < 2 then
    typeError s!"comparison expects at least 2 arguments, got {args.length}"
  else (allNeighbours test args).map .bool

def compareValues (self : Builtin) (texts : String → String → Bool) (numbers : Float → Float → Bool)
    (a b : Value) : Result Bool :=
  match a, b with
  | .str x, .str y => .ok (texts x y)
  | a, b =>
    match a.toFloat?, b.toFloat? with
    | some x, some y => .ok (numbers x y)
    | _, _ => typeError s!"'{self.name}' not supported between '{a.typeName}' and '{b.typeName}'"

/-- The place that an index names; a negative one counts from the end. -/
def place? (index : Int64) (length : Nat) : Option Nat :=
  let i := if index < 0 then index.toInt + length else index.toInt
  if 0 ≤ i ∧ i < length then some i.toNat else none

def lookUp (collection key default : Value) : Result Value :=
  let found : Result (Option Value) := match collection, key with
    | .dict entries, .str key => .ok (entries.lookup key)
    | .list items, .int index => .ok ((place? index items.length).bind (items[·]?))
    | .str text, .int index =>
      let chars := text.toList
      .ok ((place? index chars.length).bind fun i =>
        chars[i]?.map fun c => .str (String.singleton c))
    | collection, key =>
      typeError s!"cannot index '{collection.typeName}' with '{key.typeName}'"
  found.map (·.getD default)

def length : Value → Result Value
  | .str text => .ok (.int (Int64.ofNat text.length))
  | .list items => .ok (.int (Int64.ofNat items.length))
  | .dict entries => .ok (.int (Int64.ofNat entries.length))
  | other => typeError s!"object of type '{other.typeName}' has no len()"

def appendAll : List Value → Result Value
  | .list items :: rest => .ok (.list (items ++ rest))
  | other :: _ => typeError s!"cannot append to '{other.typeName}'"
  | [] => typeError "`append` expects a list"

def keysOf : Value → Result Value
  | .dict entries => .ok (.list (entries.map fun entry => .str entry.1))
  | other => typeError s!"'{other.typeName}' object has no keys"

def pairUp (entries : Value.Entries) : List Value → Result Value.Entries
  | .str key :: value :: rest => pairUp (Value.Entries.insert key value entries) rest
  | key :: _ :: _ => typeError s!"dict keys must be str, not '{key.typeName}'"
  | _ => .ok entries

def buildDict (args : List Value) (keywords : List (String × Value)) : Result Value :=
  if args.length % 2 ≠ 0 then typeError "`dict` expects key/value pairs"
  else do
    let entries ← pairUp [] args
    return .dict (keywords.foldl (fun all pair => Value.Entries.insert pair.1 pair.2 all) entries)

def ending (self : Builtin) (current : String) : List (String × Value) → Result String
  | [] => .ok current
  | (key, value) :: rest =>
    if key = "end" then ending self value.display rest
    else typeError s!"`{self.name}` got an unexpected keyword argument ':{key}'"

inductive Outcome where
  | value (value : Value)
  | emit (emission : Emission)

/-- The functions that take no keywords and print nothing. -/
def applyPure (self : Builtin) (args : List Value) : Result Value :=
  match self with
  | list => .ok (.list args)
  | get =>
    match args with
    | [collection, key] => lookUp collection key .nil
    | [collection, key, default] => lookUp collection key default
    | args => typeError s!"`get` expects 2 or 3 arguments, got {args.length}"
  | len => do length (← unary self args)
  | str => .ok (.str (String.join (args.map Value.display)))
  | append => appendAll args
  | keys => do keysOf (← unary self args)
  | not => do return .bool !(← unary self args).isTruthy
  | type => do return .str (← unary self args).typeName
  | add => foldValues (.int 0) addValues args
  | multiply => foldValues (.int 1) multiplyValues args
  | subtract => difference args
  | divide => do
    let (a, b) ← binary self args
    quotient a b
  | modulo => do
    let (a, b) ← binary self args
    remainder a b
  | equal => pairwise (fun a b => .ok (a.looseEq b)) args
  | unequal => do
    let (a, b) ← binary self args
    return .bool !(a.looseEq b)
  | less => pairwise (compareValues self (· < ·) (· < ·)) args
  | greater => pairwise (compareValues self (fun x y => y < x) (fun x y => y < x)) args
  | lessOrEqual => pairwise (compareValues self (fun x y => !(y < x)) (· ≤ ·)) args
  | greaterOrEqual => pairwise (compareValues self (fun x y => !(x < y)) (fun x y => y ≤ x)) args
  | print | write | dict => .ok .nil

def apply (self : Builtin) (args : List Value) (keywords : List (String × Value)) : Result Outcome :=
  match self with
  | print => do return .emit ⟨args.map Value.toJson, ← ending self "\n" keywords⟩
  | write => do return .emit ⟨args.map Value.toJson, ← ending self "" keywords⟩
  | dict => do return .value (← buildDict args keywords)
  | _ =>
    if keywords.isEmpty then (applyPure self args).map .value
    else typeError s!"`{self.name}` takes no keyword arguments"

end Builtin

end ResumableScript
