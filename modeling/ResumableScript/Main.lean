import ResumableScript.CommandLine.Session
import Std.Time.DateTime.Timestamp

/-! The program: reads what a session needs, and writes what it leaves behind. The worker that
comes along is run inside the program, and no other one is at hand. -/
namespace ResumableScript.CommandLine

def namedFiles (args : List String) : List String :=
  match parse args with
  | .ok options =>
    options.configFile.toList ++ match options.command with
      | .run run => [run.file]
      | _ => []
  | .error _ => []

def systemCode? : IO.Error → Option UInt32
  | .noFileOrDirectory _ code _ | .permissionDenied _ code _ | .inappropriateType _ code _
  | .invalidArgument _ code _ | .resourceExhausted _ code _ | .noSuchThing _ code _
  | .otherError code _ => some code
  | _ => none

def systemText? : Nat → Option String
  | 2 => some "No such file or directory"
  | 13 => some "Permission denied"
  | 20 => some "Not a directory"
  | 21 => some "Is a directory"
  | 36 => some "File name too long"
  | 40 => some "Too many levels of symbolic links"
  | _ => none

/-- The system's reason for a failure to read. Its number may come with its sign turned. -/
def systemReason (e : IO.Error) : String :=
  let number? := (systemCode? e).map fun code => code.toInt32.toInt.natAbs
  match number?, number?.bind systemText? with
  | some number, some text => s!"{text} (os error {number})"
  | _, _ => toString e

def readNamed (file : String) : IO (String × Except String (List UInt8)) := do
  try
    return (file, .ok (← IO.FS.readBinFile file).toList)
  catch e =>
    return (file, .error (systemReason e))

def settingNames : List String :=
  ["RLM_WORKER_PATH", "RLM_REQUEST_TIMEOUT_MS", "RLM_STOP_GRACE_MS", "RLM_MAX_STEPS",
    "RLM_MAX_DEPTH", "RLM_MAX_DURATION_MS"]

def readSettings : IO (List (String × String)) :=
  settingNames.filterMapM fun name => do return (← IO.getEnv name).map (name, ·)

def freshId : IO String := do
  let bytes ← IO.getRandomBytes 16
  return String.ofList (bytes.toList.flatMap fun b =>
    [Json.hexDigit (b.toNat / 16), Json.hexDigit (b.toNat % 16)])

end ResumableScript.CommandLine

open ResumableScript ResumableScript.CommandLine in
def main (args : List String) : IO UInt32 := do
  let files ← (namedFiles args).mapM readNamed
  let settings ← readSettings
  let outcome := session
    { callId := ← freshId
      contentOf := fun file => (files.lookup file).getD (.error "file was not read")
      environment := fun name => settings.lookup name
      engine := .steady 10000
      startWorker := fun program => match program with
        | some _ => .error "No such file or directory (os error 2)"
        | none => .ok () }
    args
  let time := Int64.ofInt (← Std.Time.Timestamp.now).toMillisecondsSinceUnixEpoch.val
  for record in outcome.history do
    IO.eprintln (StoredRecord.mk record time).toJson.compact
  IO.print outcome.stdout
  if let some failure := outcome.failure then IO.eprint failure
  return outcome.code
