import ResumableScript.Run.History
import ResumableScript.Worker.Protocol

/-! What a run asks of its host, as data: a tree of requests, each with the rest of the run for
every answer. A host answers requests from a state of its own; the trace lists the requests that a
run made of it, in order. -/
namespace ResumableScript

structure Invocation where
  name : String
  arguments : Json.Members

/-- A request to the host, without its answer. -/
inductive HostRequest where
  | append (record : Record)
  | start (payload : StartPayload)
  | resume (payload : ResumePayload)
  | execute (call : Invocation)
  | poll

inductive Plan (α : Type) where
  | done (result : α)
  /-- Stores a record; a text says why it could not be stored. -/
  | append (record : Record) (next : Except String Unit → Plan α)
  | start (payload : StartPayload) (next : Except WorkerError WorkerReply → Plan α)
  | resume (payload : ResumePayload) (next : Except WorkerError WorkerReply → Plan α)
  | execute (call : Invocation) (next : Except ExecutorError ToolOutcome → Plan α)
  | poll (next : Option Steering → Plan α)

namespace Plan

protected def bind {α β : Type} : Plan α → (α → Plan β) → Plan β
  | done a, f => f a
  | append record next, f => append record fun answer => (next answer).bind f
  | start payload next, f => start payload fun answer => (next answer).bind f
  | resume payload next, f => resume payload fun answer => (next answer).bind f
  | execute call next, f => execute call fun answer => (next answer).bind f
  | poll next, f => poll fun answer => (next answer).bind f

instance : Monad Plan where
  pure := done
  bind := Plan.bind

end Plan

structure Host (σ : Type) where
  append : Record → σ → Except String Unit × σ
  start : StartPayload → σ → Except WorkerError WorkerReply × σ
  resume : ResumePayload → σ → Except WorkerError WorkerReply × σ
  execute : Invocation → σ → Except ExecutorError ToolOutcome × σ
  poll : σ → Option Steering × σ

namespace Plan

def run {σ α : Type} (host : Host σ) : Plan α → σ → α × σ
  | done a, s => (a, s)
  | append record next, s =>
    let (answer, s) := host.append record s
    (next answer).run host s
  | start payload next, s =>
    let (answer, s) := host.start payload s
    (next answer).run host s
  | resume payload next, s =>
    let (answer, s) := host.resume payload s
    (next answer).run host s
  | execute call next, s =>
    let (answer, s) := host.execute call s
    (next answer).run host s
  | poll next, s =>
    let (answer, s) := host.poll s
    (next answer).run host s

def trace {σ α : Type} (host : Host σ) : Plan α → σ → List HostRequest
  | done _, _ => []
  | append record next, s =>
    let (answer, s) := host.append record s
    .append record :: (next answer).trace host s
  | start payload next, s =>
    let (answer, s) := host.start payload s
    .start payload :: (next answer).trace host s
  | resume payload next, s =>
    let (answer, s) := host.resume payload s
    .resume payload :: (next answer).trace host s
  | execute call next, s =>
    let (answer, s) := host.execute call s
    .execute call :: (next answer).trace host s
  | poll next, s =>
    let (answer, s) := host.poll s
    .poll :: (next answer).trace host s

end Plan

end ResumableScript
