import ResumableScript.Json.Basic
import ResumableScript.Decimal.Layout

/-! JSON text: the compact form without any blanks, and the pretty form with two spaces a level. -/
namespace ResumableScript.Json

def hexDigit (n : Nat) : Char :=
  if n < 10 then Char.ofNat (48 + n) else Char.ofNat (87 + n)

/-- Quotes, backslashes and control characters are escaped; all else stands for itself. -/
def escape (c : Char) : List Char :=
  if c = '"' then ['\\', '"']
  else if c = '\\' then ['\\', '\\']
  else if c = '\x08' then ['\\', 'b']
  else if c = '\x0c' then ['\\', 'f']
  else if c = '\n' then ['\\', 'n']
  else if c = '\r' then ['\\', 'r']
  else if c = '\t' then ['\\', 't']
  else if c.toNat < 0x20 then ['\\', 'u', '0', '0', hexDigit (c.toNat / 16), hexDigit (c.toNat % 16)]
  else [c]

def quoted (text : String) : String :=
  String.ofList ('"' :: text.toList.flatMap escape ++ ['"'])

def Number.text : Number → String
  | .integer n _ => toString n
  | .float x _ => Decimal.floatText x

mutual

def compact : Json → String
  | null => "null"
  | bool flag => if flag then "true" else "false"
  | number n => n.text
  | string text => quoted text
  | array items => "[" ++ compactItems items ++ "]"
  | object members => "\x7b" ++ compactMembers members ++ "\x7d"

def compactItems : List Json → String
  | [] => ""
  | [item] => item.compact
  | item :: next :: rest => item.compact ++ "," ++ compactItems (next :: rest)

def compactMembers : List (String × Json) → String
  | [] => ""
  | [(key, value)] => quoted key ++ ":" ++ value.compact
  | (key, value) :: next :: rest =>
    quoted key ++ ":" ++ value.compact ++ "," ++ compactMembers (next :: rest)

end

def newline (level : Nat) : String :=
  String.ofList ('\n' :: List.replicate (2 * level) ' ')

mutual

def prettyAt (level : Nat) : Json → String
  | null => "null"
  | bool flag => if flag then "true" else "false"
  | number n => n.text
  | string text => quoted text
  | array [] => "[]"
  | array (item :: rest) =>
    "[" ++ prettyItems (level + 1) (item :: rest) ++ newline level ++ "]"
  | object [] => "\x7b\x7d"
  | object (member :: rest) =>
    "\x7b" ++ prettyMembers (level + 1) (member :: rest) ++ newline level ++ "\x7d"

def prettyItems (level : Nat) : List Json → String
  | [] => ""
  | [item] => newline level ++ item.prettyAt level
  | item :: next :: rest =>
    newline level ++ item.prettyAt level ++ "," ++ prettyItems level (next :: rest)

def prettyMembers (level : Nat) : List (String × Json) → String
  | [] => ""
  | [(key, value)] => newline level ++ quoted key ++ ": " ++ value.prettyAt level
  | (key, value) :: next :: rest =>
    newline level ++ quoted key ++ ": " ++ value.prettyAt level ++ "," ++
      prettyMembers level (next :: rest)

end

def pretty (value : Json) : String := value.prettyAt 0

end ResumableScript.Json
