import ResumableScript.Script.Parser
import ResumableScript.Script.Replay
import ResumableScript.Engine.Checkpoint

/-! Failures of a step, and how they are reported. -/
namespace ResumableScript

inductive ErrorKind where
  | syntaxError | runtime | limit | checkpoint | internal
  | workerCrash
  /-- The worker did not answer in time, or answered nonsense. -/
  | workerProtocol
  deriving DecidableEq, Repr

namespace ErrorKind

def name : ErrorKind → String
  | syntaxError => "syntax"
  | runtime => "runtime"
  | limit => "limit"
  | checkpoint => "checkpoint"
  | internal => "internal"
  | workerCrash => "worker_crash"
  | workerProtocol => "worker_protocol"

def all : List ErrorKind :=
  [syntaxError, runtime, limit, checkpoint, internal, workerCrash, workerProtocol]

def ofName? (text : String) : Option ErrorKind := all.find? (·.name == text)

/-- The kind of a name; unknown names are internal failures. -/
def ofName (text : String) : ErrorKind := (ofName? text).getD internal

/-- Whether the way to the script failed, rather than the script. -/
def isTransport : ErrorKind → Bool
  | workerCrash | workerProtocol => true
  | _ => false

theorem ofName_name (kind : ErrorKind) : ofName kind.name = kind := by
  cases kind <;> rfl

end ErrorKind

inductive EngineError where
  | syntaxError (detail : String)
  | uncaught (exception : ScriptException)
  | limit (detail : String)
  | checkpoint (detail : String)
  | internal (detail : String)
  deriving DecidableEq, Repr

namespace EngineError

def kind : EngineError → ErrorKind
  | syntaxError _ => .syntaxError
  | uncaught _ => .runtime
  | limit _ => .limit
  | checkpoint _ => .checkpoint
  | internal _ => .internal

def message : EngineError → String
  | syntaxError detail => s!"SyntaxError: {detail}"
  | uncaught e => s!"{e.kind}: {e.message}"
  | limit detail => s!"limit exceeded: {detail}"
  | checkpoint detail => s!"invalid checkpoint: {detail}"
  | internal detail => s!"internal interpreter error: {detail}"

end EngineError

inductive StepFault where
  | unreadable (error : SyntaxError)
  | checkpoint (fault : CheckpointFault)
  | uncaught (exception : ScriptException)
  | evaluation (fault : Fault)
  deriving DecidableEq, Repr

/-- Misuse of a form counts as an error of syntax, and a journal that the script does not follow as
an invalid checkpoint. -/
def StepFault.report : StepFault → EngineError
  | unreadable error => .syntaxError error.message
  | checkpoint fault => .checkpoint fault.message
  | uncaught e => .uncaught e
  | evaluation (.malformed fault) => .syntaxError fault.message
  | evaluation (.limit fault) => .limit fault.message
  | evaluation (.replay fault) => .checkpoint fault.message
  | evaluation .stalled => .internal "loop makes no progress"

end ResumableScript
