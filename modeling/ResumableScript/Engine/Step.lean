import ResumableScript.Engine.Error

/-! Running a script from one pause to the next. The engine keeps nothing between steps: a step
replays the script from its start against the answers in its checkpoint. -/
namespace ResumableScript

inductive Progress where
  | paused (call : ExternalCall) (checkpoint : Checkpoint)
  | finished (output : Json)

structure Step where
  outcome : Except StepFault Progress
  prints : List Emission

def Step.failed (fault : StepFault) : Step := ⟨.error fault, []⟩

/-- An engine that reads the time as milliseconds since the first live step, at each live step. -/
structure Engine where
  clock : Nat → Nat := fun _ => 0

/-- An engine that makes so many steps in every millisecond. -/
def Engine.steady (pace : Nat) : Engine := ⟨fun steps => steps / pace⟩

def Continuation.setting (engine : Engine) (c : Continuation) : Setting where
  externals := c.externals
  limits := c.limits
  answers := c.journal.length
  delivered := c.printsDelivered.toNat
  clock := engine.clock

def Continuation.machine (c : Continuation) : Machine Replay := { book := { unread := c.journal } }

namespace Engine

def suspend (c : Continuation) (call : ExternalCall) (printsSeen : Nat) : Continuation :=
  { c with pending := some call.functionName, printsDelivered := UInt64.ofNat printsSeen }

def outcome (c : Continuation) (printsSeen : Nat) : Except Exit Value → Except StepFault Progress
  | .ok value => .ok (.finished value.toJson)
  | .error (.suspended call) => .ok (.paused call (Checkpoint.dump (suspend c call printsSeen)))
  | .error (.raised e) => .error (.uncaught e)
  | .error (.failed fault) => .error (.evaluation fault)

def evaluate (engine : Engine) (c : Continuation) (forms : List Expr) :
    Except Exit Value × Machine Replay :=
  evalScript (c.setting engine) forms c.machine

/-- Replays a continuation, and goes on to the next call without an answer. -/
def execute (engine : Engine) (c : Continuation) : Step :=
  match Script.parse c.source with
  | .error e => .failed (.unreadable e)
  | .ok forms =>
    let (result, m) := engine.evaluate c forms
    ⟨outcome c m.book.printsSeen result, m.book.emitted.reverse⟩

def createRun (engine : Engine) (source : String) (externals : List String) (limits : Limits) : Step :=
  engine.execute { source, externals, limits }

def resumeRun (engine : Engine) (checkpoint : Checkpoint) (instruction : Instruction) : Step :=
  match checkpoint.load with
  | .error fault => .failed (.checkpoint fault)
  | .ok c =>
    match c.answer instruction with
    | .error fault => .failed (.checkpoint fault)
    | .ok c => engine.execute c

end Engine

namespace Progress

def toJson : Progress → Json
  | paused call checkpoint =>
    .object [("type", .string "paused"), ("function_name", .string call.functionName),
      ("args", .array call.args), ("kwargs", .object call.kwargs), ("checkpoint", checkpoint.toJson)]
  | finished output => .object [("type", .string "finished"), ("output", output)]

def ofJson? (json : Json) : Option Progress := do
  match ← Json.tagged? "type" json with
  | ("paused", content) =>
    let fields ← Json.fields? ["function_name", "args", "kwargs", "checkpoint"] content
    let functionName ← fields.required "function_name" Json.asString?
    let args ← fields.required "args" Json.asArray?
    let kwargs ← fields.required "kwargs" Json.asObject?
    let checkpoint ← fields.required "checkpoint" Checkpoint.ofJson?
    return paused ⟨functionName, args, kwargs⟩ checkpoint
  | ("finished", content) =>
    let fields ← Json.fields? ["output"] content
    return finished (← fields.required "output" some)
  | _ => none

end Progress

end ResumableScript
