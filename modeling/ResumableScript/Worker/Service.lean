import ResumableScript.Worker.Protocol

/-! The worker: one response line for each request line that carries an id, in order. -/
namespace ResumableScript

namespace Engine

def step (engine : Engine) : WorkerRequest → Step
  | .start _ payload => engine.createRun payload.code payload.externals payload.limits
  | .resume _ payload => engine.resumeRun payload.checkpoint payload.instruction

/-- A step within the host, which needs no request. -/
def reply (engine : Engine) (request : WorkerRequest) : Except WorkerError WorkerReply :=
  let step := engine.step request
  match step.outcome with
  | .ok progress => .ok ⟨progress, step.prints⟩
  | .error fault => .error { WorkerError.ofEngine fault.report with printOutput := step.prints }

end Engine

namespace Service

def handleRequest (engine : Engine) (request : WorkerRequest) : WorkerResponse :=
  .ofStep request.id (engine.step request)

/-- The answer to a request that carries an id but cannot be read. -/
def malformed (id : String) (fault : Json.Fault) : WorkerResponse :=
  { id, ok := false
    error := some { kind := "internal", message := s!"malformed request: {fault.message}" } }

/-- Answers a line; one without a readable id gets no answer. -/
def handleLine (engine : Engine) (line : String) : Option WorkerResponse :=
  match Json.parse line with
  | .error _ => none
  | .ok json =>
    match (json.get? "id").bind Json.asString? with
    | none => none
    | some id =>
      match WorkerRequest.read json with
      | .ok request => some (handleRequest engine request)
      | .error fault => some (malformed id fault)

/-- Bytes cut at line ends; a carriage return before a line end belongs to it. The last line may
lack its end, and then keeps a carriage return. -/
def lines (bytes : List UInt8) : List (List UInt8) :=
  match bytes with
  | [] => []
  | b :: rest =>
    if b = 0x0A then [] :: lines rest
    else if b = 0x0D && rest.head? == some 0x0A then
      match lines rest with
      | _ :: more => [] :: more
      | [] => []
    else match lines rest with
      | line :: more => (b :: line) :: more
      | [] => [[b]]

/-- The output of a stream, and whether a line was met that is not UTF-8. -/
structure Output where
  written : List String
  invalid : Bool

def serve (engine : Engine) : List (List UInt8) → Output
  | [] => ⟨[], false⟩
  | bytes :: rest =>
    match Text.ofUtf8? bytes with
    | none => ⟨[], true⟩
    | some line =>
      let output := serve engine rest
      if Text.isAllBlank line then output
      else match handleLine engine line with
        | none => output
        | some response => { output with written := (response.line ++ "\n") :: output.written }

def handle (engine : Engine) (input : List UInt8) : Output := serve engine (lines input)

end Service

end ResumableScript
