import ResumableScript.Base64
import ResumableScript.Digest
import ResumableScript.Text.Blank
import ResumableScript.Json.Parser
import ResumableScript.Json.Printer
import ResumableScript.Engine.Codec

/-! Checkpoints of paused scripts. A checkpoint is the letters `RLMC`, a version in two bytes, the
hash of the body, and the body: the continuation as compact JSON. As text it is Base64. -/
namespace ResumableScript

/-- Everything that is needed to rebuild a paused script by replay. -/
structure Continuation where
  source : String
  externals : List String
  limits : Limits
  journal : List JournalEntry := []
  pending : Option String := none
  /-- Prints that the host has already got. -/
  printsDelivered : UInt64 := 0

inductive CheckpointFault where
  | truncated (bytes : Nat)
  | badMagic
  | unsupportedVersion (version : Nat)
  | digestMismatch
  | invalidContinuation (error : Json.ParseError)
  | notSuspended
  deriving DecidableEq, Repr

def CheckpointFault.message : CheckpointFault → String
  | truncated bytes => s!"checkpoint truncated: {bytes} bytes"
  | badMagic => "bad checkpoint magic"
  | unsupportedVersion version => s!"unsupported checkpoint version {version}"
  | digestMismatch => "checkpoint digest mismatch"
  | invalidContinuation e => s!"invalid continuation: {e.message}"
  | notSuspended => "checkpoint is not suspended on a call"

namespace Continuation

def answer (c : Continuation) (instruction : Instruction) : Except CheckpointFault Continuation :=
  match c.pending with
  | none => .error .notSuspended
  | some functionName =>
    .ok { c with journal := c.journal ++ [⟨functionName, instruction⟩], pending := none }

def fieldNames : List String :=
  ["source", "external_functions", "limits", "journal", "pending", "prints_delivered"]

def toJson (c : Continuation) : Json :=
  .object [("source", .string c.source), ("external_functions", Json.ofStrings c.externals),
    ("limits", c.limits.toJson), ("journal", .array (c.journal.map JournalEntry.toJson)),
    ("pending", (c.pending.map Json.string).getD .null),
    ("prints_delivered", Json.ofUInt64 c.printsDelivered)]

def ofJson? (json : Json) : Option Continuation := do
  let fields ← Json.fields? fieldNames json
  let source ← fields.required "source" Json.asString?
  let externals ← fields.required "external_functions" (Json.listOf? Json.asString?)
  let limits ← fields.required "limits" Limits.ofJson?
  let journal ← fields.required "journal" (Json.listOf? JournalEntry.ofJson?)
  let pending ← fields.nullable "pending" Json.asString?
  let printsDelivered ← fields.required "prints_delivered" Json.asUInt64?
  return ⟨source, externals, limits, journal, pending, printsDelivered⟩

def shape : Json.Shape :=
  .fields "Continuation" [("source", .anyText), ("external_functions", .each .anyText),
    ("limits", Limits.shape), ("journal", .each JournalEntry.shape), ("pending", .orNull .anyText),
    ("prints_delivered", .whole "usize")]

def body (c : Continuation) : List UInt8 := Text.utf8 c.toJson.compact

def ofBody (bytes : List UInt8) : Except Json.ParseError Continuation :=
  match Json.parseBytes shape bytes with
  | .ok json => .ok ((ofJson? json).getD { source := "", externals := [], limits := {} })
  | .error e => .error e

end Continuation

/-- A continuation that the host stores without looking inside. -/
structure Checkpoint where
  bytes : List UInt8
  deriving DecidableEq, Repr

inductive SnapshotFault where
  | encoding (fault : Base64.Fault)
  | empty
  deriving DecidableEq, Repr

def SnapshotFault.message : SnapshotFault → String
  | encoding fault => s!"checkpoint is not valid base64: {fault.message}"
  | empty => "checkpoint is empty"

namespace Checkpoint

def magic : List UInt8 := [0x52, 0x4C, 0x4D, 0x43]

def version : List UInt8 := [0, 1]

def headerLength : Nat := 38

def dump (c : Continuation) : Checkpoint :=
  ⟨magic ++ version ++ Digest.blake3 c.body ++ c.body⟩

/-- Unpacks a continuation, checking the header from front to back. -/
def load (checkpoint : Checkpoint) : Except CheckpointFault Continuation :=
  let bytes := checkpoint.bytes
  let found := (bytes.drop 4).take 2
  let body := bytes.drop headerLength
  if bytes.length < headerLength then .error (.truncated bytes.length)
  else if bytes.take 4 ≠ magic then .error .badMagic
  else if found ≠ version then
    .error (.unsupportedVersion (found.foldl (fun n b => 256 * n + b.toNat) 0))
  else if Digest.blake3 body ≠ (bytes.drop 6).take 32 then .error .digestMismatch
  else match Continuation.ofBody body with
    | .ok c => .ok c
    | .error e => .error (.invalidContinuation e)

def encode (checkpoint : Checkpoint) : String := Base64.encode checkpoint.bytes

def decode (text : String) : Except SnapshotFault Checkpoint :=
  match Base64.decode (Text.utf8 (Text.trimmed text)) with
  | .error fault => .error (.encoding fault)
  | .ok [] => .error .empty
  | .ok bytes => .ok ⟨bytes⟩

def toJson (checkpoint : Checkpoint) : Json := .string checkpoint.encode

def ofJson? (json : Json) : Option Checkpoint :=
  json.asString?.bind fun text => (decode text).toOption

def shape : Json.Shape :=
  .encoded fun text =>
    match decode text with
    | .ok _ => none
    | .error fault => some fault.message

/-- How a checkpoint shows itself: its content stays hidden. -/
def describe (checkpoint : Checkpoint) : String := s!"Checkpoint({checkpoint.bytes.length} bytes)"

end Checkpoint

end ResumableScript
