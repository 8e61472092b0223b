import ResumableScript.Json.Token

/-! Passing over a value. Its syntax is checked, but neither the size of its numbers, nor the
encoding of its strings, nor how deep it nests: the brackets that are open are kept in a list. -/
namespace ResumableScript.Json

def skipDigits (s : Bytes) : Bytes := s.dropWhile isDigit

def skipWhole : Bytes → Except Failure Bytes
  | [] => failAt .invalidNumber []
  | b :: s =>
    if b = byte '0' then
      if (s.head?.map isDigit).getD false then failPast .invalidNumber s else .ok s
    else if isDigit b then .ok (skipDigits s)
    else failAt .invalidNumber s

def skipFraction (s : Bytes) : Except Failure Bytes :=
  if (s.head?.map isDigit).getD false then .ok (skipDigits s) else failPast .invalidNumber s

def skipSign : Bytes → Bytes
  | [] => []
  | b :: s => if b = byte '+' ∨ b = byte '-' then s else b :: s

def skipExponent (s : Bytes) : Except Failure Bytes :=
  match skipSign s with
  | [] => failAt .invalidNumber []
  | b :: s => if isDigit b then .ok (skipDigits s) else failAt .invalidNumber s

def skipPart (starts : UInt8 → Bool) (part : Bytes → Except Failure Bytes) :
    Bytes → Except Failure Bytes
  | [] => .ok []
  | b :: s => if starts b then part s else .ok (b :: s)

def skipNumber (s : Bytes) : Except Failure Bytes := do
  let s ← skipWhole s
  let s ← skipPart (· == byte '.') skipFraction s
  skipPart (fun b => b == byte 'e' || b == byte 'E') skipExponent s

/-- A string behind its opening quote. Any four digits may stand behind `\u`; before a control
character the reader stops. -/
def skipString : Bytes → Except Failure Bytes
  | [] => failAt .endInString []
  | b :: s =>
    if b = byte '"' then .ok s
    else if b = byte '\\' then
      match s with
      | [] => failAt .endInString []
      | b :: s =>
        if (simpleEscape? b).isSome then skipString s
        else if b ≠ byte 'u' then failAt .invalidEscape s
        else match s with
          | a :: b :: c :: d :: s =>
            if [a, b, c, d].all fun digit => (hexValue? digit).isSome then skipString s
            else failAt .invalidEscape s
          | _ => failAt .endInString []
    else if b < 0x20 then failAt .controlCharacter (b :: s)
    else skipString s

def skipScalar (b : UInt8) (r : Bytes) : Except Failure Bytes :=
  if b = byte 'n' then readWord [0x75, 0x6C, 0x6C] r
  else if b = byte 't' then readWord [0x72, 0x75, 0x65] r
  else if b = byte 'f' then readWord [0x61, 0x6C, 0x73, 0x65] r
  else if b = byte '-' then skipNumber r
  else if isDigit b then skipNumber (b :: r)
  else if b = byte '"' then skipString r
  else failPast .expectedValue (b :: r)

def skipKey (s : Bytes) : Except Failure Bytes :=
  match skipSpace s with
  | [] => failAt .endInObject []
  | b :: r =>
    if b = byte '"' then do readColon (← skipString r) else failPast .keyNotString (b :: r)

inductive Bracket where
  | list | object
  deriving DecidableEq, Repr

namespace Bracket

def closing : Bracket → UInt8
  | list => byte ']'
  | object => byte '\x7d'

def unclosed : Bracket → Fault
  | list => .endInList
  | object => .endInObject

def unseparated : Bracket → Fault
  | list => .expectedListEnd
  | object => .expectedObjectEnd

def skipLead : Bracket → Bytes → Except Failure Bytes
  | list, s => .ok s
  | object, s => skipKey s

end Bracket

/-- What comes next in a value that is passed over. -/
inductive Stage where
  | value
  /-- A value, or the bracket that closes again what was just opened. -/
  | opened
  | behindValue
  deriving DecidableEq, Repr

def skipFrom : Nat → Stage → List Bracket → Bytes → Except Failure Bytes
  | 0, _, _, s => failAt .expectedValue s
  | fuel + 1, .value, brackets, s =>
    match skipSpace s with
    | [] => failAt .endInValue []
    | b :: r =>
      if b = byte '[' then skipFrom fuel .opened (.list :: brackets) r
      else if b = byte '\x7b' then skipFrom fuel .opened (.object :: brackets) r
      else match skipScalar b r with
        | .error e => .error e
        | .ok s => skipFrom fuel .behindValue brackets s
  | _ + 1, _, [], s => .ok s
  | fuel + 1, stage, bracket :: brackets, s =>
    match skipSpace s with
    | [] => failAt bracket.unclosed []
    | b :: r =>
      if b = bracket.closing then skipFrom fuel .behindValue brackets r
      else if stage ≠ .opened ∧ b ≠ byte ',' then failPast bracket.unseparated (b :: r)
      else match bracket.skipLead (if stage = .opened then b :: r else r) with
        | .error e => .error e
        | .ok s => skipFrom fuel .value (bracket :: brackets) s

/-- Passes over a value. The fuel covers two steps for every byte. -/
def skipValue (s : Bytes) : Except Failure Bytes := skipFrom (2 * s.length + 2) .value [] s

end ResumableScript.Json
