import ResumableScript.Run.Plan
import ResumableScript.Run.Arguments
import ResumableScript.Run.Preamble
import ResumableScript.Run.PrintCapture
import ResumableScript.Run.RuntimeTool

/-! The loop of a run: start the script, answer each external call through the host's tools, and
resume it, until it ends. Every call is recorded before it is made and after it has been answered.
A run can be taken up again from the record of any of its calls. -/
namespace ResumableScript

structure RunRequest where
  callId : String
  code : String
  /-- Generated from the tools if none is given. -/
  preamble : Option String := none

inductive RunError where
  | worker (error : WorkerError)
  | history (reason : String)
  | snapshot (fault : SnapshotFault)
  | aborted (reason : String)
  /-- The run made more rounds than it was given. -/
  | unfinished

def RunError.message : RunError → String
  | worker e => e.text
  | history reason => s!"history write failed: {reason}"
  | snapshot fault => fault.message
  | aborted reason => s!"run aborted: {reason}"
  | unfinished => "run is unfinished"

/-- A plan that may end early. -/
abbrev Run (α : Type) := ExceptT RunError Plan α

/-- What a run keeps between two steps of its script. -/
structure RunState where
  callId : String
  definitions : List ToolDefinition
  prints : PrintCapture := {}
  toolCallCount : UInt64 := 0

/-- What answered a call, as the script and the history see it. -/
structure CallAnswer where
  instruction : Instruction
  text : String
  isError : Bool

/-- Every failed call raises a runtime error in the script. -/
def CallAnswer.failure (message text : String) : CallAnswer :=
  ⟨.exception ⟨"RuntimeError", message⟩, text, true⟩

def CallAnswer.toolError (message : String) : CallAnswer :=
  let text := s!"ToolError: {message}"
  .failure text text

def CallAnswer.ofOutcome (tool : String) (outcome : ToolOutcome) : CallAnswer :=
  let value := outcome.result
  let text := value.render
  if outcome.isError then
    .failure (if Text.isAllBlank text then s!"Tool execution failed: {tool}" else text) text
  else ⟨.returnValue value, text, false⟩

def steeringOutput (lines : List String) (steering : Steering) : String :=
  let soFar := if lines.isEmpty then ""
    else "Print output so far:\n" ++ String.intercalate "\n" lines ++ "\n\n"
  "<script_result>\nScript execution interrupted by steering.\n\n" ++ soFar ++
    "<steering_interrupt>\nMessage from " ++ steering.origin.getD "system" ++ ": " ++
    steering.text ++ "\n</steering_interrupt>\n</script_result>"

inductive Pending where
  | unknown (name : String)
  | tool (tool : ToolDefinition) (converted : Except ArgumentFault Json.Members)

namespace Pending

def ofCall (definitions : List ToolDefinition) (call : ExternalCall) : Pending :=
  match definitions.find? (·.name == call.functionName) with
  | none => unknown call.functionName
  | some found => tool found (Arguments.convert found call.args call.kwargs)

def toolName : Pending → String
  | unknown name => name
  | tool found _ => found.name

/-- The argument object, or the arguments before conversion. -/
def toolArgs (call : ExternalCall) : Pending → Json
  | tool _ (.ok arguments) => .object arguments
  | _ => .object [("args", .array call.args), ("kwargs", .object call.kwargs)]

end Pending

inductive Opening where
  | fresh (limits : Limits) (request : RunRequest)
  /-- Again from the record of a call, which is answered as interrupted. -/
  | again (callId : String) (call : CallEntry)

/-- How a runtime shows itself: by the limits that go with every start. -/
def Limits.describe (limits : Limits) : String :=
  s!"RlmRuntime \x7b limits: Limits \x7b max_steps: {limits.maxSteps}, max_depth: {limits.maxDepth}, " ++
    s!"max_duration_ms: {limits.maxDurationMs} \x7d, .. \x7d"

namespace Run

def record (callId : String) (entry : Entry) : Run Unit :=
  ExceptT.mk <| .append ⟨callId, entry⟩ fun
    | .ok () => .done (.ok ())
    | .error reason => .done (.error (.history reason))

def start (payload : StartPayload) : Run (Except WorkerError WorkerReply) :=
  ExceptT.mk (.start payload fun reply => .done (.ok reply))

def resume (payload : ResumePayload) : Run (Except WorkerError WorkerReply) :=
  ExceptT.mk (.resume payload fun reply => .done (.ok reply))

def poll : Run (Option Steering) :=
  ExceptT.mk (.poll fun signal => .done (.ok signal))

def invoke (call : Invocation) : Run (Except ExecutorError ToolOutcome) :=
  ExceptT.mk (.execute call fun outcome => .done (.ok outcome))

def complete (st : RunState) (output : String) (error : Option String) : Run Unit :=
  record st.callId <| .complete
    { output, printOutput := st.prints.lines, toolCallCount := st.toolCallCount,
      isError := error.isSome, error }

def resultOf (st : RunState) (output : String) : RunResult :=
  { output, printOutput := st.prints.lines, toolCallCount := st.toolCallCount }

def finish (st : RunState) (output : Json) : Run RunResult := do
  let st := { st with prints := st.prints.flushTrailing }
  complete st output.render none
  return resultOf st output.render

/-- The step failed; what it printed before still counts. -/
def fail (st : RunState) (e : WorkerError) : Run RunResult := do
  let st := { st with prints := (st.prints.extend e.printOutput).flushTrailing }
  complete st "" (some e.text)
  throw (.worker e)

/-- The script asked to end its turn. -/
def skip (st : RunState) : Run RunResult := do
  complete st RuntimeTool.skipOutput none
  return { resultOf st RuntimeTool.skipOutput with skipTurn := true }

def interrupt (st : RunState) (steering : Steering) : Run RunResult := do
  let st := { st with prints := st.prints.flushTrailing }
  let output := steeringOutput st.prints.lines steering
  record st.callId (.steeringInterrupt output st.prints.lines steering)
  complete st output none
  return { resultOf st output with steeringInterrupt := some steering }

def recordResult (st : RunState) (toolName : String) (answer : CallAnswer) : Run Unit :=
  record st.callId (.toolResult toolName answer.text answer.isError)

/-- Executes a call whose arguments converted: runtime functions here, all others by the host. -/
def execute (tool : ToolDefinition) (arguments : Json.Members) : Run CallAnswer :=
  match RuntimeTool.answer? tool.name arguments with
  | some (.ok value) => pure ⟨.returnValue value, value.render, false⟩
  | some (.error fault) => pure (.toolError fault.message)
  | none => do
    match ← invoke ⟨tool.name, arguments⟩ with
    | .ok outcome => return .ofOutcome tool.name outcome
    | .error e =>
      match e.abortReason? with
      | some reason => throw (.aborted reason)
      | none => return .toolError e.message

/-- Either the instruction with which the script goes on, or the result with which it ends. -/
abbrev CallOutcome := Instruction ⊕ RunResult

/-- A call of a function that is no tool; it is not counted. -/
def settleUnknown (st : RunState) (name : String) : Run (RunState × CallOutcome) := do
  let answer := CallAnswer.toolError s!"Unknown tool: {name}"
  recordResult st name answer
  return (st, .inl answer.instruction)

def report (st : RunState) (tool : ToolDefinition) (answer : CallAnswer) :
    Run (RunState × CallOutcome) := do
  recordResult st tool.name answer
  match ← poll with
  | some steering => return (st, .inr (← interrupt st steering))
  | none => return (st, .inl answer.instruction)

def settleTool (st : RunState) (tool : ToolDefinition)
    (converted : Except ArgumentFault Json.Members) : Run (RunState × CallOutcome) := do
  let st := { st with toolCallCount := st.toolCallCount + 1 }
  match converted with
  | .ok arguments => report st tool (← execute tool arguments)
  | .error fault => report st tool (.toolError (fault.message tool.name))

def settle (st : RunState) : Pending → Run (RunState × CallOutcome)
  | .unknown name => settleUnknown st name
  | .tool tool converted => settleTool st tool converted

def callEntry (st : RunState) (call : ExternalCall) (checkpoint : Checkpoint) : CallEntry :=
  let pending := Pending.ofCall st.definitions call
  { checkpoint := checkpoint.encode, printOutput := st.prints.lines,
    toolCallCount := st.toolCallCount, toolName := pending.toolName,
    toolArgs := pending.toolArgs call }

def answerCall (settle : RunState → Pending → Run (RunState × CallOutcome)) (st : RunState)
    (call : ExternalCall) (checkpoint : Checkpoint) : Run (RunState × CallOutcome) := do
  let st := { st with prints := st.prints.flushTrailing }
  if call.functionName = RuntimeTool.skipName then return (st, .inr (← skip st))
  else
    record st.callId (.toolCall (callEntry st call checkpoint))
    settle st (.ofCall st.definitions call)

/-- Goes on from the reply to a step: to the end of the script, or through a call to `next`. -/
def round (settle : RunState → Pending → Run (RunState × CallOutcome))
    (next : RunState → Except WorkerError WorkerReply → Run RunResult) (st : RunState)
    (step : Except WorkerError WorkerReply) : Run RunResult := do
  match step with
  | .error e => fail st e
  | .ok reply =>
    let st := { st with prints := st.prints.extend reply.printOutput }
    match reply.progress with
    | .finished output => finish st output
    | .paused call checkpoint =>
      match ← answerCall settle st call checkpoint with
      | (_, .inr result) => return result
      | (st, .inl instruction) => next st (← resume ⟨checkpoint, instruction⟩)

def drive : Nat → RunState → Except WorkerError WorkerReply → Run RunResult
  | 0 => fun _ _ => throw .unfinished
  | rounds + 1 => round settle (drive rounds)

def begin (tools : List ToolDefinition) : Opening → Run (RunState × Except WorkerError WorkerReply)
  | .fresh limits request => do
    let definitions := RuntimeTool.extend tools
    let preamble := request.preamble.getD (Preamble.build definitions)
    record request.callId (.start request.code preamble)
    let first ← start
      { code := Preamble.join preamble request.code, externals := definitions.map (·.name), limits }
    return ({ callId := request.callId, definitions }, first)
  | .again callId call =>
    match call.decode with
    | .error fault => throw (.snapshot fault)
    | .ok checkpoint => do
      let first ← resume ⟨checkpoint, .restarted⟩
      return ({ callId, definitions := RuntimeTool.extend tools, prints := .seeded call.printOutput,
                toolCallCount := call.toolCallCount }, first)

def whole (rounds : Nat) (tools : List ToolDefinition) (opening : Opening) : Run RunResult := do
  let (st, first) ← begin tools opening
  drive rounds st first

/-- Runs a script with the host's tools and the runtime functions. -/
def fresh (rounds : Nat) (limits : Limits) (tools : List ToolDefinition) (request : RunRequest) :
    Run RunResult :=
  whole rounds tools (.fresh limits request)

/-- Takes a run up again from the record of a call, which is answered as interrupted. -/
def recover (rounds : Nat) (tools : List ToolDefinition) (callId : String) (call : CallEntry) :
    Run RunResult :=
  whole rounds tools (.again callId call)

end Run

end ResumableScript
