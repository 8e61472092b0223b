import ResumableScript.Worker.Service

/-! The pool of workers, one for each key. Workers get generations in the order in which they are
started, and a pending request remembers the generation of the worker that it was sent to. What
can happen to a pool is a list of events; each request is settled by the first event that concerns
it, and what comes later finds it gone. -/
namespace ResumableScript

namespace WorkerRequest

def timeLimit : WorkerRequest → UInt64
  | start _ payload => payload.limits.maxDurationMs
  | resume _ payload =>
    match payload.checkpoint.load with
    | .ok c => c.limits.maxDurationMs
    | .error _ => 0

def withTimeLimit (ms : UInt64) : WorkerRequest → WorkerRequest
  | start id payload => start id { payload with limits.maxDurationMs := ms }
  | resume id payload =>
    match payload.checkpoint.load with
    | .ok c => resume id { payload with checkpoint := .dump { c with limits.maxDurationMs := ms } }
    | .error _ => resume id payload

end WorkerRequest

def Step.isOutOfTime (step : Step) : Bool :=
  match step.outcome with
  | .error (.evaluation (.limit (.time _))) => true
  | _ => false

structure PendingRequest where
  workerKey : String
  generation : Nat
  deriving DecidableEq, Repr

def PendingRequest.isFor (key : String) (generation : Nat) (request : PendingRequest) : Bool :=
  request.workerKey == key && request.generation == generation

structure Pool where
  workers : List (String × Nat) := []
  pending : List (String × PendingRequest) := []
  /-- One more than the workers started so far, of which there are fewer than a word can count. -/
  nextGeneration : Nat := 1
  deriving DecidableEq, Repr

inductive PoolEvent where
  /-- A request comes in. If its key has no worker, `spawned` says whether one can be started. -/
  | request (id key : String) (spawned : Except String Unit)
  | sendFailed (id : String)
  | respond (response : WorkerResponse)
  | timeout (id : String)
  | exit (key : String) (generation : Nat) (reason : String)
  | stop

structure Settlement where
  id : String
  result : Except WorkerError WorkerReply

namespace Pool

def workerCount (pool : Pool) : Nat := pool.workers.length

def pendingCount (pool : Pool) : Nat := pool.pending.length

def isAlive (pool : Pool) (key : String) : Bool := (pool.workers.lookup key).isSome

def file (pool : Pool) (id key : String) (generation : Nat) : Pool :=
  { pool with pending := (id, ⟨key, generation⟩) :: pool.pending }

def spawn (pool : Pool) (key : String) : Pool :=
  { pool with
    workers := (key, pool.nextGeneration) :: pool.workers
    nextGeneration := pool.nextGeneration + 1 }

def request (pool : Pool) (id key : String) (spawned : Except String Unit) :
    Pool × List Settlement :=
  match pool.workers.lookup key, spawned with
  | some generation, _ => (pool.file id key generation, [])
  | none, .ok () => ((pool.spawn key).file id key pool.nextGeneration, [])
  | none, .error reason =>
    (pool, [⟨id, .error (.crash s!"failed to spawn worker: {reason}")⟩])

/-- Ends a request, if it is still pending. -/
def settle (pool : Pool) (id : String) (result : Except WorkerError WorkerReply) :
    Pool × List Settlement :=
  if (pool.pending.lookup id).isSome then
    ({ pool with pending := pool.pending.filter (·.1 != id) }, [⟨id, result⟩])
  else (pool, [])

/-- A worker takes its pending requests along; one of a later generation stays. -/
def exit (pool : Pool) (key : String) (generation : Nat) (reason : String) :
    Pool × List Settlement :=
  let (lost, kept) := pool.pending.partition fun entry => entry.2.isFor key generation
  ({ pool with
      workers := pool.workers.filter (· != (key, generation))
      pending := kept },
    lost.map fun entry => ⟨entry.1, .error (.crash reason)⟩)

def stop (pool : Pool) : Pool × List Settlement :=
  ({ pool with workers := [], pending := [] },
    pool.pending.map fun entry =>
      ⟨entry.1, .error (.crash "Worker pool was stopped before request completion.")⟩)

def step (pool : Pool) : PoolEvent → Pool × List Settlement
  | .request id key spawned => pool.request id key spawned
  | .sendFailed id => pool.settle id (.error (.crash "worker input channel is closed"))
  | .respond response => pool.settle response.id response.result
  | .timeout id => pool.settle id (.error (.protocol "Worker request timed out."))
  | .exit key generation reason => pool.exit key generation reason
  | .stop => pool.stop

def play (pool : Pool) : List PoolEvent → Pool × List Settlement
  | [] => (pool, [])
  | event :: rest =>
    let (pool, settled) := pool.step event
    let (pool, more) := pool.play rest
    (pool, settled ++ more)

/-- The response to a request that goes to a worker and back as text. It is lost if one of them
refuses the other's line. -/
def exchange (engine : Engine) (request : WorkerRequest) : Option WorkerResponse :=
  (Service.handleLine engine request.line).bind fun response => WorkerResponse.ofLine? response.line

def overruns (engine : Engine) (timeoutMs : UInt64) (request : WorkerRequest) : Bool :=
  timeoutMs < request.timeLimit &&
    (engine.step (request.withTimeLimit timeoutMs)).isOutOfTime

/-- What follows on a request to a worker that works. A request that may not wait at all is never
answered in time. -/
def answer (engine : Engine) (timeoutMs : UInt64) (request : WorkerRequest) : PoolEvent :=
  if timeoutMs = 0 ∨ overruns engine timeoutMs request then .timeout request.id
  else match exchange engine request with
    | some response => .respond response
    | none => .timeout request.id

def resultOf (id : String) (settled : List Settlement) : Except WorkerError WorkerReply :=
  match settled.find? (·.id == id) with
  | some settlement => settlement.result
  | none => .error (.crash "worker dropped the request")

def serve (engine : Engine) (timeoutMs : UInt64) (spawned : Except String Unit) (key : String)
    (request : WorkerRequest) (pool : Pool) : Except WorkerError WorkerReply × Pool :=
  match pool.request request.id key spawned with
  | (pool, []) =>
    let (pool, settled) := pool.step (answer engine timeoutMs request)
    (resultOf request.id settled, pool)
  | (pool, settled) => (resultOf request.id settled, pool)

end Pool

end ResumableScript
