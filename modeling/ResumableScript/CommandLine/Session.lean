import ResumableScript.Config
import ResumableScript.CommandLine.DemoTools
import ResumableScript.CommandLine.Options
import ResumableScript.Run.Loop
import ResumableScript.Worker.Pool

/-! Carrying out a command line: what it prints, and how it ends. -/
namespace ResumableScript.CommandLine

structure Surroundings where
  callId : String
  contentOf : String → Except String (List UInt8)
  environment : String → Option String
  engine : Engine := {}
  /-- Whether a worker program can be started; without a program, the one that comes along. -/
  startWorker : Option String → Except String Unit

structure Outcome where
  code : UInt32 := 0
  stdout : String := ""
  history : List Record := []
  failure : Option String := none

def indented (indent text : String) : String :=
  String.intercalate ("\n" ++ indent) (text.splitOn "\n")

def causeLines : List String → String
  | [] => ""
  | [cause] => "\n\nCaused by:\n    " ++ indented "    " cause
  | causes =>
    "\n\nCaused by:" ++ String.join (causes.zipIdx.map fun (cause, n) =>
      s!"\n    {n}: " ++ indented "       " cause)

/-- The end of a session that failed for a reason with causes, the outermost first. -/
def Outcome.failed (message : String) (causes : List String) : Outcome :=
  { code := 1, failure := some ("Error: " ++ message ++ causeLines causes ++ "\n") }

/-- The backend of a session: records so far, newest first, and the pool if there is one. -/
structure Backend where
  records : List Record := []
  pool : Pool := {}

def Backend.request (around : Surroundings) (config : Config) (options : RunOptions)
    (request : WorkerRequest) (backend : Backend) : Except WorkerError WorkerReply × Backend :=
  if options.inProcess then (around.engine.reply request, backend)
  else
    let (result, pool) := backend.pool.serve around.engine config.requestTimeoutMs
      (config.worker.start options.workerKey around.startWorker) options.workerKey request
    (result, { backend with pool })

def host (around : Surroundings) (config : Config) (options : RunOptions) : Host Backend where
  append record backend := (.ok (), { backend with records := record :: backend.records })
  start payload backend := backend.request around config options (.start around.callId payload)
  resume payload backend := backend.request around config options (.resume around.callId payload)
  execute call backend := (DemoTools.execute call, backend)
  poll backend := (none, backend)

/-- More rounds than any run makes. -/
def rounds : Nat := 1000000000000000

def report (result : RunResult) : String :=
  lines (result.printOutput ++ [s!"=> {result.output}", s!"({result.toolCallCount} tool calls)"])

def runScript (around : Surroundings) (config : Config) (options : RunOptions) (code : String) :
    Outcome :=
  let plan := Run.fresh rounds config.limits DemoTools.definitions { callId := around.callId, code }
  let (result, backend) := Plan.run (host around config options) plan.run {}
  let outcome : Outcome := match result with
    | .ok result => { stdout := report result }
    | .error e => .failed e.message []
  if options.history then { outcome with history := backend.records.reverse } else outcome

def carryOut (around : Surroundings) (config : Config) : Command → Outcome
  | .preamble =>
    { stdout := Preamble.build (RuntimeTool.extend DemoTools.definitions) ++ "\n" }
  | .config => { stdout := config.toJson.pretty ++ "\n" }
  | .run options =>
    match around.contentOf options.file with
    | .error reason => .failed s!"failed to read {options.file}" [reason]
    | .ok bytes =>
      match Text.ofUtf8? bytes with
      | none => .failed s!"failed to read {options.file}" ["stream did not contain valid UTF-8"]
      | some code => runScript around config options code

def loadConfig (around : Surroundings) : Option String → Except Outcome Config
  | none => .ok {}
  | some file => (Config.ofFile (around.contentOf file)).mapError fun fault =>
    .failed s!"failed to load config {file}" (fault.message :: fault.cause?.toList)

def configuration (around : Surroundings) (file : Option String) : Except Outcome Config := do
  let config ← loadConfig around file
  (config.override around.environment).mapError fun fault => .failed fault.message []

def session (around : Surroundings) (args : List String) : Outcome :=
  match parse args with
  | .error (.help text) => { stdout := text }
  | .error .misused => { code := 2 }
  | .ok options =>
    match configuration around options.configFile with
    | .error outcome => outcome
    | .ok config => carryOut around config options.command

end ResumableScript.CommandLine
