import ResumableScript.Engine.Codec
import ResumableScript.Text.Blank

/-! Configuration: defaults, a file over them, and environment variables over both. -/
namespace ResumableScript

structure WorkerLaunch where
  /-- The worker executable, if it is not the one that comes with the program. -/
  program : Option String := none
  args : List String := []
  deriving DecidableEq, Repr

structure Config where
  worker : WorkerLaunch := {}
  requestTimeoutMs : UInt64 := 60000
  stopGraceMs : UInt64 := 1000
  limits : Limits := {}

/-- Starts a worker for a key through the system, which may refuse a program for a reason. The
program, its arguments and the key are handed over as texts that a NUL ends, so none holds one. -/
def WorkerLaunch.start (worker : WorkerLaunch) (key : String)
    (system : Option String → Except String Unit) : Except String Unit :=
  if (key :: worker.program.toList ++ worker.args).any (·.toList.contains '\x00') then
    .error "nul byte found in provided data"
  else system worker.program

inductive ConfigFault where
  | unreadable (reason : String)
  | invalid (error : Json.ParseError)
  | badSetting (name value : String)

def ConfigFault.cause? : ConfigFault → Option String
  | unreadable reason => some reason
  | invalid e => some e.message
  | badSetting .. => none

def ConfigFault.message : ConfigFault → String
  | unreadable reason => s!"config file error: {reason}"
  | invalid e => s!"invalid config file: {e.message}"
  | badSetting name value => s!"invalid value for {name}: {Text.quoted value}"

namespace WorkerLaunch

def toJson (worker : WorkerLaunch) : Json :=
  .object [("program", (worker.program.map Json.string).getD .null),
    ("args", Json.ofStrings worker.args)]

def ofJson? (json : Json) : Option WorkerLaunch := do
  let fields ← Json.fields? ["program", "args"] json
  let program ← fields.optional "program" Json.asString?
  let args ← fields.defaulted "args" [] (Json.listOf? Json.asString?)
  return ⟨program, args⟩

def shape : Json.Shape :=
  .fields "WorkerConfig" [("program", .orDefault (.orNull (.text "path string"))),
    ("args", .orDefault (.each .anyText))]

end WorkerLaunch

namespace Config

def toJson (config : Config) : Json :=
  .object [("worker", config.worker.toJson),
    ("request_timeout_ms", Json.ofUInt64 config.requestTimeoutMs),
    ("stop_grace_ms", Json.ofUInt64 config.stopGraceMs), ("limits", config.limits.toJson)]

def ofJson? (json : Json) : Option Config := do
  let default : Config := {}
  let fields ← Json.fields? ["worker", "request_timeout_ms", "stop_grace_ms", "limits"] json
  let worker ← fields.defaulted "worker" default.worker WorkerLaunch.ofJson?
  let requestTimeoutMs ← fields.defaulted "request_timeout_ms" default.requestTimeoutMs Json.asUInt64?
  let stopGraceMs ← fields.defaulted "stop_grace_ms" default.stopGraceMs Json.asUInt64?
  let limits ← fields.defaulted "limits" default.limits Limits.ofJson?
  return ⟨worker, requestTimeoutMs, stopGraceMs, limits⟩

def shape : Json.Shape :=
  .fields "RlmConfig" [("worker", .orDefault WorkerLaunch.shape),
    ("request_timeout_ms", .orDefault (.whole "u64")), ("stop_grace_ms", .orDefault (.whole "u64")),
    ("limits", .orDefault Limits.shape)]

/-- The configuration of a file with this content. All that the shape admits can be read. -/
def parse (content : List UInt8) : Except ConfigFault Config :=
  match Json.parseBytes shape content with
  | .ok json => .ok ((ofJson? json).getD {})
  | .error e => .error (.invalid e)

def ofFile (file : Except String (List UInt8)) : Except ConfigFault Config :=
  match file with
  | .ok content => parse content
  | .error reason => .error (.unreadable reason)

/-- A whole number of 64 bits in decimal digits, which one plus sign may precede. -/
def readWhole? (text : List Char) : Option UInt64 :=
  let digits := match text with
    | '+' :: digits => digits
    | digits => digits
  if digits.isEmpty || !digits.all Char.isDigit then none
  else
    let value := digits.foldl (fun n c => 10 * n + (c.toNat - 48)) 0
    if value < 18446744073709551616 then some (UInt64.ofNat value) else none

def setting (lookup : String → Option String) (name : String) (default : UInt64) :
    Except ConfigFault UInt64 :=
  match lookup name with
  | none => .ok default
  | some value =>
    match readWhole? (Text.trim value.toList) with
    | some n => .ok n
    | none => .error (.badSetting name value)

/-- The configuration under the variables of an environment. A worker path of blanks counts as
unset. -/
def override (config : Config) (lookup : String → Option String) : Except ConfigFault Config := do
  let program := match lookup "RLM_WORKER_PATH" with
    | some path => if Text.isAllBlank path then config.worker.program else some path
    | none => config.worker.program
  let requestTimeoutMs ← setting lookup "RLM_REQUEST_TIMEOUT_MS" config.requestTimeoutMs
  let stopGraceMs ← setting lookup "RLM_STOP_GRACE_MS" config.stopGraceMs
  let maxSteps ← setting lookup "RLM_MAX_STEPS" config.limits.maxSteps
  let maxDepth ← setting lookup "RLM_MAX_DEPTH" config.limits.maxDepth
  let maxDurationMs ← setting lookup "RLM_MAX_DURATION_MS" config.limits.maxDurationMs
  return {
    worker := { config.worker with program }
    requestTimeoutMs, stopGraceMs
    limits := ⟨maxSteps, maxDepth, maxDurationMs⟩ }

end Config

end ResumableScript
