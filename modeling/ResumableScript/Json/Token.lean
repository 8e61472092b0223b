import ResumableScript.Json.Basic
import ResumableScript.Json.Failure
import ResumableScript.Decimal.Scaling
import ResumableScript.Text.Utf8

/-! Reading the words, strings and numbers of JSON. -/
namespace ResumableScript.Json

/-- The rest of a literal word, such as `ull` behind an `n`. -/
def readWord : Bytes → Bytes → Except Failure Bytes
  | [], s => .ok s
  | _ :: _, [] => failAt .endInValue []
  | b :: word, c :: s => if b = c then readWord word s else failAt .expectedIdent s

def hexValue? (b : UInt8) : Option Nat :=
  if isDigit b then some (b.toNat - 48)
  else if 0x41 ≤ b && b ≤ 0x46 then some (b.toNat - 55)
  else if 0x61 ≤ b && b ≤ 0x66 then some (b.toNat - 87)
  else none

def readHex : Bytes → Reader Nat
  | a :: b :: c :: d :: s =>
    match hexValue? a, hexValue? b, hexValue? c, hexValue? d with
    | some a, some b, some c, some d => .ok (((a * 16 + b) * 16 + c) * 16 + d, s)
    | _, _, _, _ => failAt .invalidEscape s
  | _ => failAt .endInString []

def readLowSurrogate (high : Nat) : Bytes → Reader Nat
  | [] => failAt .endInString []
  | b :: s =>
    if b ≠ byte '\\' then failAt .unfinishedSurrogate s
    else match s with
      | [] => failAt .endInString []
      | b :: s =>
        if b ≠ byte 'u' then failAt .unfinishedSurrogate s
        else match readHex s with
          | .error e => .error e
          | .ok (low, s) =>
            if low < 0xDC00 ∨ 0xDFFF < low then failAt .loneSurrogate s
            else .ok (0x10000 + (high - 0xD800) * 0x400 + (low - 0xDC00), s)

def readCodePoint (s : Bytes) : Reader Nat :=
  match readHex s with
  | .error e => .error e
  | .ok (n, s) =>
    if 0xDC00 ≤ n ∧ n ≤ 0xDFFF then failAt .loneSurrogate s
    else if 0xD800 ≤ n ∧ n ≤ 0xDBFF then readLowSurrogate n s
    else .ok (n, s)

def simpleEscape? (b : UInt8) : Option UInt8 :=
  if b = byte '"' ∨ b = byte '\\' ∨ b = byte '/' then some b
  else if b = byte 'b' then some 8
  else if b = byte 'f' then some 12
  else if b = byte 'n' then some 10
  else if b = byte 'r' then some 13
  else if b = byte 't' then some 9
  else none

def readEscape : Bytes → Reader Bytes
  | [] => failAt .endInString []
  | b :: s =>
    match simpleEscape? b with
    | some c => .ok ([c], s)
    | none =>
      if b ≠ byte 'u' then failAt .invalidEscape s
      else (readCodePoint s).map fun (n, s) => (String.utf8EncodeChar (Char.ofNat n), s)

def readStringBytes : Nat → Bytes → Reader Bytes
  | 0, s => failAt .endInString s
  | _ + 1, [] => failAt .endInString []
  | fuel + 1, b :: s =>
    if b = byte '"' then .ok ([], s)
    else if b = byte '\\' then
      match readEscape s with
      | .error e => .error e
      | .ok (chunk, s) => (readStringBytes fuel s).map fun (rest, s) => (chunk ++ rest, s)
    else if b < 0x20 then failAt .controlCharacter s
    else (readStringBytes fuel s).map fun (rest, s) => (b :: rest, s)

def readString (s : Bytes) : Reader String :=
  match readStringBytes (s.length + 1) s with
  | .error e => .error e
  | .ok (bytes, s) =>
    match Text.ofUtf8? bytes with
    | some text => .ok (text, s)
    | none => failAt .invalidUnicode s

def takeDigits (s : Bytes) : Bytes × Bytes := (s.takeWhile isDigit, s.dropWhile isDigit)

def digitValue (b : UInt8) : Nat := b.toNat - 48

def digitsValue (digits : Bytes) : Nat :=
  digits.foldl (fun n b => 10 * n + digitValue b) 0

structure NumberText where
  negative : Bool
  whole : Bytes
  fraction : Option Bytes
  exponent : Option Int

/-- The digits before the point; only a lone zero may start with zero. -/
def readWhole : Bytes → Reader Bytes
  | [] => failAt .endInValue []
  | b :: s =>
    if b = byte '0' then
      if (s.head?.map isDigit).getD false then failPast .invalidNumber s else .ok ([b], s)
    else if isDigit b then
      let (digits, s) := takeDigits s
      .ok (b :: digits, s)
    else failAt .invalidNumber s

def readFraction : Bytes → Reader (Option Bytes)
  | [] => .ok (none, [])
  | b :: s =>
    if b = byte '.' then
      match takeDigits s with
      | ([], s) => failPast (if s.isEmpty then .endInValue else .invalidNumber) s
      | (digits, s) => .ok (some digits, s)
    else .ok (none, b :: s)

/-- The greatest exponent that is counted; a greater one is only a direction. -/
def maxExponent : Nat := 2147483647

/-- The digits of an exponent behind its first one. A positive exponent that is too great for a
mantissa other than zero is out of range where it becomes so. -/
def readExponentDigits (overflows : Bool) : Nat → Bytes → Reader Nat
  | n, [] => .ok (n, [])
  | n, b :: s =>
    if isDigit b then
      let next := 10 * n + digitValue b
      if next ≤ maxExponent then readExponentDigits overflows next s
      else if overflows then failAt .numberOutOfRange s
      else .ok (next, s.dropWhile isDigit)
    else .ok (n, b :: s)

def takeSign : Bytes → Bool × Bytes
  | [] => (false, [])
  | b :: s =>
    if b = byte '-' then (true, s) else if b = byte '+' then (false, s) else (false, b :: s)

def readExponent (nonzero : Bool) : Bytes → Reader (Option Int)
  | [] => .ok (none, [])
  | b :: s =>
    if b = byte 'e' ∨ b = byte 'E' then
      let (negative, s) := takeSign s
      match s with
      | [] => failAt .endInValue []
      | c :: s =>
        if isDigit c then
          (readExponentDigits (nonzero && !negative) (digitValue c) s).map fun (n, s) =>
            (some (if negative then -(n : Int) else n), s)
        else failAt .invalidNumber s
    else .ok (none, b :: s)

def readNumberText (negative : Bool) (s : Bytes) : Reader NumberText :=
  match readWhole s with
  | .error e => .error e
  | .ok (whole, s) =>
    match readFraction s with
    | .error e => .error e
    | .ok (fraction, s) =>
      let nonzero := digitsValue (whole ++ fraction.getD []) != 0
      (readExponent nonzero s).map fun (exponent, s) => (⟨negative, whole, fraction, exponent⟩, s)

def NumberText.magnitude (t : NumberText) : Float :=
  let significand := ({} : Decimal.Significand).takeWhole (t.whole.map digitValue)
  (significand.takeFraction ((t.fraction.getD []).map digitValue)).scaled (t.exponent.getD 0)

/-- The integer that a text denotes, if it has neither point nor exponent and is no negative zero. -/
def NumberText.integer? (t : NumberText) : Option Number :=
  let value := digitsValue t.whole
  if t.fraction.isSome ∨ t.exponent.isSome ∨ (t.negative ∧ value = 0) then none
  else Number.ofInt? (if t.negative then -value else value)

/-- The number that a text denotes. Whole numbers in range are integers; all others are doubles, of
which infinity is no number. -/
def NumberText.value? (t : NumberText) : Option Number :=
  t.integer?.or (Number.ofFloat? (if t.negative then -t.magnitude else t.magnitude))

def readNumber (negative : Bool) (s : Bytes) : Reader Json :=
  match readNumberText negative s with
  | .error e => .error e
  | .ok (t, s) =>
    match t.value? with
    | some n => .ok (number n, s)
    | none => failAt .numberOutOfRange s

def readColon (s : Bytes) : Except Failure Bytes :=
  match skipSpace s with
  | [] => failAt .endInObject []
  | b :: r => if b = byte ':' then .ok r else failPast .expectedColon (b :: r)

end ResumableScript.Json
