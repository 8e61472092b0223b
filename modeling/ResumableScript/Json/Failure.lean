/-! What can be wrong with a JSON text, and where. A reader passes on the bytes that are left; a
failure carries those that were left where it arose, which give its position. -/
namespace ResumableScript.Json

abbrev Bytes := List UInt8

inductive Fault where
  | endInValue | endInList | endInObject | endInString
  | expectedIdent | expectedValue | expectedColon | expectedListEnd | expectedObjectEnd
  | trailingComma | trailingCharacters | keyNotString
  | invalidNumber | numberOutOfRange
  | invalidEscape | loneSurrogate | unfinishedSurrogate | controlCharacter | invalidUnicode
  | tooDeep
  | repeatedField (name : String)
  | missingField (name : String)
  | unknownVariant (name : String) (known : List String)
  | wrongType (found expected : String)
  | wrongValue (found expected : String)
  | wrongLength (found : Nat) (expected : String)
  | undecodable (reason : String)
  deriving DecidableEq, Repr

def choice : List String → String
  | [name] => s!"`{name}`"
  | [name, other] => s!"`{name}` or `{other}`"
  | names => "one of " ++ String.intercalate ", " (names.map fun name => s!"`{name}`")

def Fault.message : Fault → String
  | endInValue => "EOF while parsing a value"
  | endInList => "EOF while parsing a list"
  | endInObject => "EOF while parsing an object"
  | endInString => "EOF while parsing a string"
  | expectedIdent => "expected ident"
  | expectedValue => "expected value"
  | expectedColon => "expected `:`"
  | expectedListEnd => "expected `,` or `]`"
  | expectedObjectEnd => "expected `,` or `\x7d`"
  | trailingComma => "trailing comma"
  | trailingCharacters => "trailing characters"
  | keyNotString => "key must be a string"
  | invalidNumber => "invalid number"
  | numberOutOfRange => "number out of range"
  | invalidEscape => "invalid escape"
  | loneSurrogate => "lone leading surrogate in hex escape"
  | unfinishedSurrogate => "unexpected end of hex escape"
  | controlCharacter => "control character (\\u0000-\\u001F) found while parsing a string"
  | invalidUnicode => "invalid unicode code point"
  | tooDeep => "recursion limit exceeded"
  | repeatedField name => s!"duplicate field `{name}`"
  | missingField name => s!"missing field `{name}`"
  | unknownVariant name known => s!"unknown variant `{name}`, expected {choice known}"
  | wrongType found expected => s!"invalid type: {found}, expected {expected}"
  | wrongValue found expected => s!"invalid value: {found}, expected {expected}"
  | wrongLength found expected => s!"invalid length {found}, expected {expected}"
  | undecodable reason => reason

/-- A fault, and the bytes after its position, unless that is still to be found. -/
structure Failure where
  fault : Fault
  left : Bytes
  placed : Bool := true

/-- What a reader gives: a result and the bytes left, or a failure. -/
abbrev Reader (α : Type) := Except Failure (α × Bytes)

/-- Fails behind the bytes consumed so far. -/
def failAt {α : Type} (fault : Fault) (s : Bytes) : Except Failure α :=
  .error { fault, left := s }

def failPast {α : Type} (fault : Fault) (s : Bytes) : Except Failure α :=
  .error { fault, left := s.tail }

/-- A failure that has no position yet gets that of the end of its container. -/
def Failure.place (past : Bytes → Bytes) (e : Failure) : Failure :=
  if e.placed then e else { e with left := past e.left, placed := true }

abbrev byte (c : Char) : UInt8 := c.toUInt8

def isSpace (b : UInt8) : Bool :=
  b == 0x20 || b == 0x0A || b == 0x09 || b == 0x0D

def skipSpace (s : Bytes) : Bytes := s.dropWhile isSpace

def isDigit (b : UInt8) : Bool := 0x30 ≤ b && b ≤ 0x39

/-- Where a fault lies: the line from 1, and the bytes of that line before the position. -/
structure Position where
  line : Nat
  column : Nat
  deriving DecidableEq, Repr

def Position.behind (bytes : Bytes) : Position where
  line := 1 + bytes.count 0x0A
  column := (bytes.reverse.takeWhile (· != 0x0A)).length

structure ParseError where
  fault : Fault
  position : Position
  deriving DecidableEq, Repr

def ParseError.message (e : ParseError) : String :=
  s!"{e.fault.message} at line {e.position.line} column {e.position.column}"

end ResumableScript.Json
