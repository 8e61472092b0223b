import ResumableScript.Json.Printer

/-! Expressions of the script language: atoms and lists. -/
namespace ResumableScript

inductive Expr where
  | symbol (name : String)
  /-- Written with a colon in front; names keyword arguments and exception kinds. -/
  | keyword (name : String)
  | string (text : String)
  | integer (value : Int64)
  | float (value : Float)
  | boolean (flag : Bool)
  | nil
  | list (items : List Expr)
  deriving Inhabited

namespace Expr

def list? : Expr → Option (List Expr)
  | list items => some items
  | _ => none

mutual

def nesting : Expr → Nat
  | list items => nestingItems items + 1
  | _ => 0

def nestingItems : List Expr → Nat
  | [] => 0
  | item :: rest => max item.nesting (nestingItems rest)

end

end Expr

end ResumableScript
