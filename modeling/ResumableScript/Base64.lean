/-! Base64 with the standard alphabet and required padding. Only canonical texts are read: the
padding completes the last group of four, and the bits that no byte uses are zero. -/
namespace ResumableScript.Base64

abbrev Bytes := List UInt8

def symbol (n : Nat) : Char :=
  if n < 26 then Char.ofNat (65 + n)
  else if n < 52 then Char.ofNat (97 + (n - 26))
  else if n < 62 then Char.ofNat (48 + (n - 52))
  else if n = 62 then '+'
  else '/'

def value? (b : UInt8) : Option Nat :=
  if 65 ≤ b && b ≤ 90 then some (b.toNat - 65)
  else if 97 ≤ b && b ≤ 122 then some (b.toNat - 97 + 26)
  else if 48 ≤ b && b ≤ 57 then some (b.toNat - 48 + 52)
  else if b = 43 then some 62
  else if b = 47 then some 63
  else none

def pad : UInt8 := 61

def encodeChars : Bytes → List Char
  | [] => []
  | [a] => [symbol (a.toNat / 4), symbol (a.toNat % 4 * 16), '=', '=']
  | [a, b] =>
    [symbol (a.toNat / 4), symbol (a.toNat % 4 * 16 + b.toNat / 16), symbol (b.toNat % 16 * 4), '=']
  | a :: b :: c :: rest =>
    symbol (a.toNat / 4) :: symbol (a.toNat % 4 * 16 + b.toNat / 16) ::
      symbol (b.toNat % 16 * 4 + c.toNat / 64) :: symbol (c.toNat % 64) :: encodeChars rest

def encode (bytes : Bytes) : String := String.ofList (encodeChars bytes)

inductive Fault where
  | symbol (byte : UInt8) (offset : Nat)
  | length (count : Nat)
  | padding
  | lastSymbol (byte : UInt8) (offset : Nat)
  deriving DecidableEq, Repr

def Fault.message : Fault → String
  | symbol byte offset => s!"Invalid symbol {byte.toNat}, offset {offset}."
  | length count => s!"Invalid input length: {count}"
  | padding => "Invalid padding"
  | lastSymbol byte offset => s!"Invalid last symbol {byte.toNat}, offset {offset}."

def joinQuad (a b c d : Nat) : Bytes :=
  [UInt8.ofNat (a * 4 + b / 16), UInt8.ofNat (b % 16 * 16 + c / 4), UInt8.ofNat (c % 4 * 64 + d)]

def readSymbol (offset : Nat) (b : UInt8) : Except Fault Nat :=
  match value? b with
  | some v => .ok v
  | none => .error (.symbol b offset)

/-- The symbols of the last group, which may end in padding, as bytes with their values; then
the count of padding. `index` counts the bytes read, `padAt` is where padding began. -/
def readGroup (offset : Nat) (index : Nat) (padAt : Option Nat) :
    Bytes → Except Fault (List (UInt8 × Nat) × Nat)
  | [] => .ok ([], match padAt with | some first => index - first | none => 0)
  | b :: rest =>
    if b = pad then
      if index < 2 then .error (.symbol b (offset + index))
      else readGroup offset (index + 1) (padAt.or (some index)) rest
    else match padAt with
      | some first => .error (.symbol pad (offset + first))
      | none => match readSymbol (offset + index) b with
        | .error e => .error e
        | .ok v => (readGroup offset (index + 1) none rest).map fun (symbols, pads) =>
            ((b, v) :: symbols, pads)

def decodeLast (offset : Nat) (group : Bytes) : Except Fault Bytes :=
  match readGroup offset 0 none group with
  | .error e => .error e
  | .ok (symbols, pads) =>
    if symbols.length < 2 then .error (.length (offset + symbols.length))
    else if symbols.length + pads ≠ 4 then .error .padding
    else match symbols with
      | [(_, a), (last, b)] =>
        if b % 16 = 0 then .ok ((joinQuad a b 0 0).take 1)
        else .error (.lastSymbol last (offset + 1))
      | [(_, a), (_, b), (last, c)] =>
        if c % 4 = 0 then .ok ((joinQuad a b c 0).take 2)
        else .error (.lastSymbol last (offset + 2))
      | [(_, a), (_, b), (_, c), (_, d)] => .ok (joinQuad a b c d)
      | _ => .error .padding

def decodeGroups (offset : Nat) : Bytes → Except Fault Bytes
  | a :: b :: c :: d :: next :: rest => do
    let a ← readSymbol offset a
    let b ← readSymbol (offset + 1) b
    let c ← readSymbol (offset + 2) c
    let d ← readSymbol (offset + 3) d
    let bytes ← decodeGroups (offset + 4) (next :: rest)
    return joinQuad a b c d ++ bytes
  | [] => .ok []
  | group => decodeLast offset group

/-- A stray byte behind full groups is reported first. -/
def strayByte? (text : Bytes) : Option Fault :=
  match text.getLast? with
  | some last =>
    if text.length % 4 = 1 && last != pad && (value? last).isNone then
      some (.symbol last (text.length - 1))
    else none
  | none => none

def decode (text : Bytes) : Except Fault Bytes :=
  match strayByte? text with
  | some fault => .error fault
  | none => decodeGroups 0 text

end ResumableScript.Base64
