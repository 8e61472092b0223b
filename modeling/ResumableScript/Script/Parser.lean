import ResumableScript.Script.Expr
import ResumableScript.Text.Blank
import ResumableScript.Decimal.Layout

/-! Reading scripts. A reader passes on the characters that are left; a failure carries those that
were left where it arose, and so always lies on a character's boundary. -/
namespace ResumableScript

inductive SyntaxFault where
  | strayClose
  | unterminatedList
  | nestedTooDeep
  | unterminatedString
  | incompleteEscape
  | unknownEscape (escaped : Char)
  | emptyKeyword
  | invalidInteger
  | endOfInput
  | unexpectedCharacter
  deriving DecidableEq, Repr

def maxNesting : Nat := 256

def SyntaxFault.message : SyntaxFault → String
  | strayClose => "unexpected ')'"
  | unterminatedList => "unterminated list opened"
  | nestedTooDeep => s!"lists nested deeper than {maxNesting}"
  | unterminatedString => "unterminated string literal"
  | incompleteEscape => "incomplete escape"
  | unknownEscape escaped => "unknown escape: \\" ++ String.singleton escaped
  | emptyKeyword => "empty keyword"
  | invalidInteger => "invalid integer literal"
  | endOfInput => "unexpected end of input"
  | unexpectedCharacter => "unexpected character"

structure SyntaxError where
  fault : SyntaxFault
  position : Nat
  deriving DecidableEq, Repr

def SyntaxError.message (e : SyntaxError) : String :=
  s!"{e.fault.message} at byte {e.position}"

namespace Script

abbrev Chars := List Char

/-- A fault, and the characters after its position. -/
structure Failure where
  fault : SyntaxFault
  left : Chars

abbrev Reader (α : Type) := Except Failure (α × Chars)

def fail {α : Type} (fault : SyntaxFault) (s : Chars) : Except Failure α := .error ⟨fault, s⟩

def skip (inComment : Bool) : Chars → Chars
  | [] => []
  | c :: s =>
    if inComment then skip (c != '\n') s
    else if Text.isBlank c then skip false s
    else if c = ';' then skip true s
    else c :: s

def isSymbolChar (c : Char) : Bool :=
  !(c == '(' || c == ')' || c == '"' || c == ';') && !Text.isBlank c

def isDigit (c : Char) : Bool := '0' ≤ c && c ≤ '9'

def symbolAtom (name : String) : Expr :=
  if name = "true" then .boolean true
  else if name = "false" then .boolean false
  else if name = "nil" then .nil
  else .symbol name

def readSymbol (s : Chars) : Reader Expr :=
  match s.takeWhile isSymbolChar with
  | [] => fail .unexpectedCharacter s
  | name => .ok (symbolAtom (String.ofList name), s.dropWhile isSymbolChar)

def readKeyword (s : Chars) : Reader Expr :=
  match s.takeWhile isSymbolChar with
  | [] => fail .emptyKeyword s
  | name => .ok (.keyword (String.ofList name), s.dropWhile isSymbolChar)

def escaped? (c : Char) : Option Char :=
  if c = '"' ∨ c = '\\' then some c
  else if c = 'n' then some '\n'
  else if c = 'r' then some '\r'
  else if c = 't' then some '\t'
  else none

def readStringChars : Chars → Reader Chars
  | [] => fail .unterminatedString []
  | c :: s =>
    if c = '"' then .ok ([], s)
    else if c = '\\' then
      match s with
      | [] => fail .incompleteEscape []
      | e :: s =>
        match escaped? e with
        | none => fail (.unknownEscape e) s
        | some c => (readStringChars s).map fun (text, s) => (c :: text, s)
    else (readStringChars s).map fun (text, s) => (c :: text, s)

def readString (s : Chars) : Reader Expr :=
  (readStringChars s).map fun (text, s) => (.string (String.ofList text), s)

structure NumberText where
  negative : Bool
  whole : Chars
  fraction : Option Chars

/-- The longest number at the front. A point belongs to it only before a digit. -/
def takeNumber (s : Chars) : NumberText × Chars :=
  let (negative, s) := match s with
    | c :: t => if c = '-' then (true, t) else if c = '+' then (false, t) else (false, s)
    | [] => (false, s)
  let whole := s.takeWhile isDigit
  let rest := s.dropWhile isDigit
  match rest with
  | point :: first :: _ =>
    if !whole.isEmpty && point == '.' && isDigit first then
      (⟨negative, whole, some (rest.tail.takeWhile isDigit)⟩, rest.tail.dropWhile isDigit)
    else (⟨negative, whole, none⟩, rest)
  | _ => (⟨negative, whole, none⟩, rest)

def NumberText.int64? (t : NumberText) : Option Int64 :=
  let magnitude : Int := Decimal.readDigits t.whole
  let value := if t.negative then -magnitude else magnitude
  if Int64.minValue.toInt ≤ value ∧ value ≤ Int64.maxValue.toInt then some (Int64.ofInt value)
  else none

/-- A number, or a symbol that starts like one. -/
def readNumber (s : Chars) : Reader Expr :=
  let (number, rest) := takeNumber s
  if number.whole.isEmpty || (rest.head?.map isSymbolChar).getD false then readSymbol s
  else match number.fraction with
    | some fraction => .ok (.float (Decimal.readFixed number.negative number.whole fraction), rest)
    | none => match number.int64? with
      | some value => .ok (.integer value, rest)
      | none => fail .invalidInteger rest

/-- One expression at the front, where `list` reads a list behind its parenthesis. -/
def readForm (list : Chars → Reader Expr) (s : Chars) : Reader Expr :=
  match skip false s with
  | [] => fail .endOfInput []
  | c :: rest =>
    if c = '(' then list rest
    else if c = '"' then readString rest
    else if c = ':' then readKeyword rest
    else if c = '-' ∨ c = '+' ∨ isDigit c then readNumber (c :: rest)
    else readSymbol (c :: rest)

/-- The items of a list up to its closing parenthesis. `opened` starts at the opening one. -/
def readItems (item : Chars → Reader Expr) (opened : Chars) : Nat → Chars → Reader (List Expr)
  | 0, _ => fail .unterminatedList opened
  | fuel + 1, s =>
    match skip false s with
    | [] => fail .unterminatedList opened
    | c :: rest =>
      if c = ')' then .ok ([], rest)
      else match item (c :: rest) with
        | .error e => .error e
        | .ok (expr, s) =>
          (readItems item opened fuel s).map fun (items, s) => (expr :: items, s)

def readList (item : Chars → Reader Expr) (s : Chars) : Reader Expr :=
  (readItems item ('(' :: s) (s.length + 1) s).map fun (items, s) => (.list items, s)

def readExpr : Nat → Chars → Reader Expr
  | 0 => readForm fun s => fail .nestedTooDeep ('(' :: s)
  | levels + 1 => readForm (readList (readExpr levels))

def readForms : Nat → Chars → Except Failure (List Expr)
  | 0, s => fail .endOfInput s
  | fuel + 1, s =>
    match skip false s with
    | [] => .ok []
    | c :: rest =>
      if c = ')' then fail .strayClose (c :: rest)
      else match readExpr maxNesting (c :: rest) with
        | .error e => .error e
        | .ok (expr, s) => (readForms fuel s).map (expr :: ·)

def byteLength (s : Chars) : Nat := s.foldr (fun c n => c.utf8Size + n) 0

def parseChars (source : Chars) : Except SyntaxError (List Expr) :=
  (readForms (source.length + 1) source).mapError fun e =>
    ⟨e.fault, byteLength source - byteLength e.left⟩

def parse (source : String) : Except SyntaxError (List Expr) := parseChars source.toList

end Script

end ResumableScript
