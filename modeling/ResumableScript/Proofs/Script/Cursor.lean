import Mathlib.Tactic.Basic
import ResumableScript.Script.Parser

/-! Reading by position. The scanner holds its source as a whole and a cursor into it: the byte where
it stands, and how many lists stand around it. It sees the source through slices alone, which there
are only between characters, and goes round loops that nothing but their own condition ends. All
that a scan does to its cursor is written down. -/
namespace ResumableScript.Script

/-- The characters from a byte on. There are none where the byte is inside a character, or too far. -/
def sliceFrom? : Chars → Nat → Option Chars
  | s, 0 => some s
  | [], _ + 1 => none
  | c :: s, index + 1 =>
    if c.utf8Size ≤ index + 1 then sliceFrom? s (index + 1 - c.utf8Size) else none

def slice? (s : Chars) (start stop : Nat) : Option Chars :=
  (sliceFrom? s stop).bind fun rest => sliceFrom? (s.take (s.length - rest.length)) start

structure Cursor where
  index : Nat := 0
  depth : Nat := 0
  deriving DecidableEq, Repr

/-- What is written down of a scan: each setting of the cursor, and where it stood before and after
each expression and each list, with whether that was read or refused. -/
inductive Event where
  | moved (cursor : Cursor)
  | expression (before after : Cursor) (read : Bool)
  | list (before after : Cursor) (read : Bool)
  deriving DecidableEq, Repr

/-- Why a scan comes to no result: a fault of the source, or one of the scanner itself, which asks for
a slice that is no text, or goes round and round. -/
inductive Halt where
  | fault (e : SyntaxError)
  | slice (start stop : Nat)
  | unfinished
  deriving DecidableEq, Repr

/-- The source, and the rounds that a loop may take and the levels that a recursion may go down. -/
structure Sheet where
  source : String
  rounds : Nat

structure Scanned (α : Type) where
  events : List Event
  cursor : Cursor
  result : Except Halt α

def Scan (α : Type) := Sheet → Cursor → Scanned α

namespace Scan

variable {α γ : Type}

protected def pure (a : α) : Scan α := fun _ c => ⟨[], c, .ok a⟩

protected def bind (x : Scan α) (f : α → Scan γ) : Scan γ := fun sheet c =>
  let first := x sheet c
  match first.result with
  | .ok a =>
    let rest := f a sheet first.cursor
    { rest with events := first.events ++ rest.events }
  | .error halt => ⟨first.events, first.cursor, .error halt⟩

instance : Monad Scan where
  pure := Scan.pure
  bind := Scan.bind

def halt (why : Halt) : Scan α := fun _ c => ⟨[], c, .error why⟩

def cursor : Scan Cursor := fun _ c => ⟨[], c, .ok c⟩

def put (c : Cursor) : Scan Unit := fun _ _ => ⟨[.moved c], c, .ok ()⟩

def faultAt (fault : SyntaxFault) (index : Nat) : Scan α := halt (.fault ⟨fault, index⟩)

def fault (fault : SyntaxFault) : Scan α := do faultAt fault (← cursor).index

def rest : Scan Chars := fun sheet c =>
  match sliceFrom? sheet.source.toList c.index with
  | some s => ⟨[], c, .ok s⟩
  | none => ⟨[], c, .error (.slice c.index sheet.source.utf8ByteSize)⟩

def textFrom (start : Nat) : Scan Chars := fun sheet c =>
  match slice? sheet.source.toList start c.index with
  | some s => ⟨[], c, .ok s⟩
  | none => ⟨[], c, .error (.slice start c.index)⟩

def atEnd : Scan Bool := fun sheet c => ⟨[], c, .ok (sheet.source.utf8ByteSize ≤ c.index)⟩

def current : Scan (Option Char) := do return (← rest).head?

def next : Scan (Option Char) := do return (← rest).tail.head?

def advance : Scan Unit := do
  match ← current with
  | some c =>
    let here ← cursor
    put { here with index := here.index + c.utf8Size }
  | none => return ()

def backTo (start : Nat) : Scan Unit := do put { (← cursor) with index := start }

/-- A loop goes on with what a round puts left, and ends with what it puts right. -/
def iterate (body : α → Scan (α ⊕ γ)) : Nat → α → Scan γ
  | 0, _ => halt .unfinished
  | rounds + 1, a => do
    match ← body a with
    | .inl a => iterate body rounds a
    | .inr c => return c

def loop (body : α → Scan (α ⊕ γ)) (a : α) : Scan γ := fun sheet =>
  iterate body sheet.rounds a sheet

/-- The result of a computation, or the fault of the source that it met. -/
def attempt (x : Scan α) : Scan (Except SyntaxError α) := fun sheet c =>
  let after := x sheet c
  match after.result with
  | .ok a => { after with result := .ok (.ok a) }
  | .error (.fault e) => { after with result := .ok (.error e) }
  | .error why => { after with result := .error why }

def ofExcept : Except SyntaxError α → Scan α
  | .ok a => return a
  | .error e => halt (.fault e)

/-- A computation with a note of it, whatever it came to. -/
def noted (event : Cursor → Cursor → Bool → Event) (x : Scan α) : Scan α := fun sheet c =>
  let after := x sheet c
  { after with events := after.events ++ [event c after.cursor after.result.isOk] }

end Scan

open Scan

def passOne (p : Char → Bool) (passed : Bool) : Scan (Bool ⊕ Bool) := do
  match ← current with
  | none => return .inr passed
  | some c =>
    if p c then do
      advance
      return .inl true
    else return .inr passed

def passWhile (p : Char → Bool) : Scan Bool := loop (passOne p) false

def commentRound (_ : Unit) : Scan (Unit ⊕ Unit) := do
  match ← current with
  | none => return .inr ()
  | some c =>
    advance
    if c = '\n' then return .inr () else return .inl ()

def passComment : Scan Unit := loop commentRound ()

def gapRound (_ : Unit) : Scan (Unit ⊕ Unit) := do
  let _ ← passWhile Text.isBlank
  if (← current) = some ';' then do
    passComment
    return .inl ()
  else return .inr ()

def passGap : Scan Unit := loop gapRound ()

def takeSymbol : Scan Chars := do
  let start ← cursor
  let _ ← passWhile isSymbolChar
  textFrom start.index

def scanName (missing : SyntaxFault) (atom : String → Expr) : Scan Expr := do
  let name ← takeSymbol
  if name.isEmpty then fault missing else return atom (String.ofList name)

def scanSymbol : Scan Expr := scanName .unexpectedCharacter symbolAtom

def scanKeyword : Scan Expr := do
  advance
  scanName .emptyKeyword .keyword

def scanEscape : Scan Char := do
  match ← current with
  | none => fault .incompleteEscape
  | some e =>
    advance
    match escaped? e with
    | some c => return c
    | none => fault (.unknownEscape e)

def stringRound (text : Chars) : Scan (Chars ⊕ Expr) := do
  match ← current with
  | none => fault .unterminatedString
  | some c =>
    advance
    if c = '"' then return .inr (.string (String.ofList text))
    else if c = '\\' then return .inl (text ++ [← scanEscape])
    else return .inl (text ++ [c])

def scanString : Scan Expr := do
  advance
  loop stringRound []

def passSign : Scan Unit := do
  let c ← current
  if c = some '-' ∨ c = some '+' then advance else return ()

/-- Behind digits passes over a point and the digits behind it, and says whether they are there. -/
def passFraction : Bool → Scan Bool
  | false => return false
  | true => do
    if (← current) = some '.' then
      if ((← next).map isDigit).getD false then do
        advance
        let _ ← passWhile isDigit
        return true
      else return false
    else return false

def numeral (isFloat : Bool) (number : NumberText) : Scan Expr :=
  if isFloat then
    return .float (Decimal.readFixed number.negative number.whole (number.fraction.getD []))
  else match number.int64? with
    | some value => return .integer value
    | none => fault .invalidInteger

def scanNumber : Scan Expr := do
  let start ← cursor
  passSign
  let hasDigit ← passWhile isDigit
  let isFloat ← passFraction hasDigit
  if !hasDigit || ((← current).map isSymbolChar).getD false then do
    backTo start.index
    scanSymbol
  else numeral isFloat (takeNumber (← textFrom start.index)).1

def itemsRound (item : Scan Expr) (opened : Nat) (items : List Expr) : Scan (List Expr ⊕ Expr) := do
  passGap
  match ← current with
  | none => faultAt .unterminatedList opened
  | some c =>
    if c = ')' then do
      advance
      return .inr (.list items)
    else return .inl (items ++ [← item])

def scanItems (item : Scan Expr) : Scan Expr := do
  let opened ← cursor
  advance
  loop (itemsRound item opened.index) []

/-- A computation one list further in. The counter is set back if it meets a fault, too. -/
def inside (x : Scan Expr) : Scan Expr := do
  let here ← cursor
  put { here with depth := here.depth + 1 }
  let result ← attempt x
  let there ← cursor
  put { there with depth := there.depth - 1 }
  ofExcept result

def scanList (item : Scan Expr) : Scan Expr := do
  let here ← cursor
  if maxNesting ≤ here.depth then fault .nestedTooDeep else inside (scanItems item)

def scanForm (list : Scan Expr) : Scan Expr := do
  passGap
  match ← current with
  | none => fault .endOfInput
  | some c =>
    if c = '(' then list
    else if c = '"' then scanString
    else if c = ':' then scanKeyword
    else if c = '-' ∨ c = '+' ∨ isDigit c then scanNumber
    else scanSymbol

def scanExpr : Nat → Scan Expr
  | 0 => halt .unfinished
  | levels + 1 => noted .expression (scanForm (noted .list (scanList (scanExpr levels))))

def formsRound (levels : Nat) (forms : List Expr) : Scan (List Expr ⊕ List Expr) := do
  passGap
  if ← atEnd then return .inr forms
  else if (← current) = some ')' then fault .strayClose
  else return .inl (forms ++ [← scanExpr levels])

def scanForms : Scan (List Expr) := fun sheet => loop (formsRound sheet.rounds) [] sheet

def scan (rounds : Nat) (source : String) : Scanned (List Expr) :=
  (do put {}; scanForms : Scan (List Expr)) ⟨source, rounds⟩ {}

end ResumableScript.Script
