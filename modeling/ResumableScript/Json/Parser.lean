import ResumableScript.Json.Shape
import ResumableScript.Json.Skip

/-! Reading JSON from bytes, for a shape that the text is known to have. -/
namespace ResumableScript.Json

/-- Moves on to an item behind the items read so far, or past the closing bracket. -/
def nextItem (first : Bool) (s : Bytes) : Reader Bool :=
  match skipSpace s with
  | [] => failAt .endInList []
  | b :: r =>
    if b = byte ']' then .ok (false, r)
    else if first then .ok (true, b :: r)
    else if b = byte ',' then
      match skipSpace r with
      | [] => failAt .endInValue []
      | c :: t => if c = byte ']' then failPast .trailingComma (c :: t) else .ok (true, c :: t)
    else failPast .expectedListEnd (b :: r)

def endItems (s : Bytes) : Except Failure Bytes :=
  match skipSpace s with
  | [] => failAt .endInList []
  | b :: r =>
    if b = byte ']' then .ok r
    else if b = byte ',' ∧ (skipSpace r).head? = some (byte ']') then
      failPast .trailingComma (skipSpace r)
    else failPast .trailingCharacters (if b = byte ',' then skipSpace r else b :: r)

def nextKey (first : Bool) (s : Bytes) : Reader Bool :=
  match skipSpace s with
  | [] => failAt .endInObject []
  | b :: r =>
    if b = byte '\x7d' then .ok (false, r)
    else if first then
      if b = byte '"' then .ok (true, r) else failPast .keyNotString (b :: r)
    else if b = byte ',' then
      match skipSpace r with
      | [] => failAt .endInValue []
      | c :: t =>
        if c = byte '"' then .ok (true, t)
        else if c = byte '\x7d' then failPast .trailingComma (c :: t)
        else failPast .keyNotString (c :: t)
    else failPast .expectedObjectEnd (b :: r)

def pastBrace (s : Bytes) : Bytes :=
  match skipSpace s with
  | [] => []
  | b :: r => if b = byte '\x7d' then r else b :: r

def pastBracket (s : Bytes) : Bytes :=
  match skipSpace s with
  | [] => []
  | b :: r => if b = byte ']' then r else if b = byte ',' then skipSpace r else b :: r

/-- How many levels an item may nest, if its container may nest `levels`. -/
def enter (levels : Nat) (s : Bytes) : Except Failure Nat :=
  match levels with
  | 0 => failPast .tooDeep s
  | inner + 1 => .ok inner

def readScalar (b : UInt8) (r : Bytes) : Reader Json :=
  if b = byte 'n' then (readWord [0x75, 0x6C, 0x6C] r).map fun s => (null, s)
  else if b = byte 't' then (readWord [0x72, 0x75, 0x65] r).map fun s => (bool true, s)
  else if b = byte 'f' then (readWord [0x61, 0x6C, 0x73, 0x65] r).map fun s => (bool false, s)
  else if b = byte '-' then readNumber true r
  else if isDigit b then readNumber false (b :: r)
  else if b = byte '"' then (readString r).map fun (text, s) => (string text, s)
  else failPast .expectedValue (b :: r)

def readFitting (shape : Shape) (b : UInt8) (r : Bytes) : Reader Json :=
  match readScalar b r with
  | .error e => .error e
  | .ok (value, s) =>
    match shape.refusal? value with
    | some fault => failAt fault s
    | none => .ok (value, s)

def refuse {α : Type} (shape : Shape) (found : String) (s : Bytes) : Except Failure α :=
  failAt (.wrongType found (shape.expected?.getD "")) s

def readName (known : List (String × Shape)) (s : Bytes) : Reader String :=
  match readString s with
  | .error e => .error e
  | .ok (name, s) =>
    if (known.lookup name).isSome then .ok (name, s) else failAt (Shape.nameFault known name) s

/-- Refuses an alternative without its content. The fault of a known one is its container's. -/
def refuseName {α : Type} (known : List (String × Shape)) (b : UInt8) (r : Bytes) :
    Except Failure α :=
  if b = byte '"' then
    match readName known r with
    | .error e => .error e
    | .ok (name, s) => .error ⟨Shape.nameFault known name, s, false⟩
  else failPast .expectedValue (b :: r)

def readVariant (known : List (String × Shape)) (s : Bytes) : Reader String :=
  match skipSpace s with
  | [] => failAt .endInValue []
  | b :: r =>
    if b = byte '"' then
      match readName known r with
      | .error e => .error e
      | .ok (name, s) => (readColon s).map fun s => (name, s)
    else if b = byte '[' then failAt (.wrongType "sequence" "variant identifier") (b :: r)
    else if b = byte '\x7b' then failAt (.wrongType "map" "variant identifier") (b :: r)
    else match readScalar b r with
      | .error e => .error e
      | .ok (value, s) => failAt (.wrongType (Shape.describe value) "variant identifier") s

def endVariant (s : Bytes) : Except Failure Bytes :=
  match skipSpace s with
  | [] => failAt .endInObject []
  | b :: r => if b = byte '\x7d' then .ok r else failAt .expectedValue (b :: r)

mutual

/-- One value of a shape, nested at most `levels` deep. -/
def readValue (shape : Shape) : Nat → Nat → Bytes → Reader Json
  | 0, _, s => failAt .expectedValue s
  | fuel + 1, levels, s =>
    match skipSpace s with
    | [] => failAt .endInValue []
    | b :: r =>
      match shape.alternatives? with
      | some known =>
        if b = byte '\x7b' then
          match enter levels (b :: r) with
          | .error e => .error e
          | .ok inner => (readContent known fuel inner r).map fun (members, s) => (object members, s)
        else refuseName known b r
      | none =>
        if b = byte '[' then
          if !shape.takesArray then refuse shape "sequence" (b :: r)
          else match enter levels (b :: r) with
            | .error e => .error e
            | .ok inner => (readItems shape 0 fuel inner r).map fun (items, s) => (array items, s)
        else if b = byte '\x7b' then
          if !shape.takesObject then refuse shape "map" (b :: r)
          else match enter levels (b :: r) with
            | .error e => .error e
            | .ok inner =>
              (readMembers shape [] fuel inner r).map fun (members, s) => (object members, s)
        else readFitting shape b r
termination_by structural fuel => fuel

def readItems (shape : Shape) (index : Nat) : Nat → Nat → Bytes → Reader (List Json)
  | 0, _, s => failAt .expectedValue s
  | fuel + 1, levels, s =>
    match shape.item? index with
    | none => (endItems s).map fun s => ([], s)
    | some inner =>
      match nextItem (index == 0) s with
      | .error e => .error e
      | .ok (false, s) =>
        match shape.shortage? index with
        | some fault => failAt fault s
        | none => .ok ([], s)
      | .ok (true, s) =>
        match readValue inner fuel levels s with
        | .error e => .error (e.place pastBracket)
        | .ok (item, s) =>
          (readItems shape (index + 1) fuel levels s).map fun (items, s) => (item :: items, s)
termination_by structural fuel => fuel

/-- The members of an object behind those read so far, up to its closing brace. The value of an
unknown field is passed over and counts as `null`. -/
def readMembers (shape : Shape) (read : Members) : Nat → Nat → Bytes → Reader Members
  | 0, _, s => failAt .expectedValue s
  | fuel + 1, levels, s =>
    match nextKey read.isEmpty s with
    | .error e => .error e
    | .ok (false, s) =>
      match shape.lacked? read with
      | some name => failAt (.missingField name) s
      | none => .ok (read, s)
    | .ok (true, s) =>
      match readString s with
      | .error e => .error e
      | .ok (key, s) =>
        if shape.isField key && (read.lookup key).isSome then
          failAt (.repeatedField key) (pastBrace s)
        else match readColon s with
          | .error e => .error e
          | .ok s =>
            let value := match shape.member? key with
              | some inner => readValue inner fuel levels s
              | none => (skipValue s).map fun s => (null, s)
            match value with
            | .error e => .error (e.place pastBrace)
            | .ok (value, s) => readMembers shape (read.put key value) fuel levels s
termination_by structural fuel => fuel

def readContent (known : List (String × Shape)) : Nat → Nat → Bytes → Reader Members
  | 0, _, s => failAt .expectedValue s
  | fuel + 1, levels, s =>
    match readVariant known s with
    | .error e => .error e
    | .ok (name, s) =>
      match readValue ((known.lookup name).getD .any) fuel levels s with
      | .error e => .error e
      | .ok (value, s) => (endVariant s).map fun s => ([(name, value)], s)
termination_by structural fuel => fuel

end

/-- A text that holds one value and nothing else. The fuel covers every byte's own step. -/
def readText (shape : Shape) (levels : Nat) (bytes : Bytes) : Except Failure Json :=
  match readValue shape (2 * bytes.length + 2) levels bytes with
  | .error e => .error e
  | .ok (value, s) =>
    match skipSpace s with
    | [] => .ok value
    | b :: r => failPast .trailingCharacters (b :: r)

def maxLevels : Nat := 127

def parseBytes (shape : Shape) (bytes : Bytes) : Except ParseError Json :=
  (readText shape maxLevels bytes).mapError fun e =>
    ⟨e.fault, .behind (bytes.take (bytes.length - e.left.length))⟩

def parse (text : String) : Except ParseError Json :=
  parseBytes .any (Text.utf8 text)

end ResumableScript.Json
