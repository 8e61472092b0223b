import Mathlib.Tactic.Basic
import ResumableScript.Proofs.Run.Recovery

/-! How runs conduct themselves towards their host: what each request stands behind, and what a run
relies on in return. A run that cannot store a record makes no further request. -/
namespace ResumableScript

namespace Plan

variable {α σ : Type}

/-- The first request of a plan, with what is left of the plan and of the host behind it. -/
def next? (host : Host σ) : Plan α → σ → Option (HostRequest × Plan α × σ)
  | done _, _ => none
  | append record next, s =>
    let (answer, s) := host.append record s
    some (.append record, next answer, s)
  | start payload next, s =>
    let (answer, s) := host.start payload s
    some (.start payload, next answer, s)
  | resume payload next, s =>
    let (answer, s) := host.resume payload s
    some (.resume payload, next answer, s)
  | execute call next, s =>
    let (answer, s) := host.execute call s
    some (.execute call, next answer, s)
  | poll next, s =>
    let (answer, s) := host.poll s
    some (.poll, next answer, s)

section Steps

variable {host : Host σ} {p p' : Plan α} {s s' : σ} {request : HostRequest}
  {rest : List HostRequest}

theorem trace_next (h : p.next? host s = some (request, p', s')) :
    p.trace host s = request :: p'.trace host s' := by
  cases p <;> cases h <;> rfl

theorem run_next (h : p.next? host s = some (request, p', s')) :
    p.run host s = p'.run host s' := by
  cases p <;> cases h <;> rfl

theorem after_zero (p : Plan α) (s : σ) : p.after host 0 s = s := by
  cases p <;> rfl

theorem after_next (h : p.next? host s = some (request, p', s')) (n : Nat) :
    p.after host (n + 1) s = p'.after host n s' := by
  cases p <;> cases h <;> rfl

theorem next_of_trace (h : p.trace host s = request :: rest) :
    ∃ p' s', p.next? host s = some (request, p', s') ∧ p'.trace host s' = rest := by
  cases p with
  | done a => cases h
  | _ =>
    obtain ⟨rfl, same⟩ := List.cons.inj h
    exact ⟨_, _, rfl, same⟩

end Steps

end Plan

/-- Which requests may come behind which, and what is relied on in the replies to steps. -/
structure Conduct where
  allows : Option HostRequest → HostRequest → Prop
  relies : Except WorkerError WorkerReply → Prop

structure Host.Meets {σ : Type} (host : Host σ) (conduct : Conduct) : Prop where
  start : ∀ payload s last, conduct.allows last (.start payload) →
    conduct.relies (host.start payload s).1
  resume : ∀ payload s last, conduct.allows last (.resume payload) →
    conduct.relies (host.resume payload s).1

/-- The plan of a run keeps to a conduct behind its last request. -/
def Plan.Obeys {α : Type} (conduct : Conduct) : Plan (Except RunError α) → Option HostRequest → Prop
  | .done _, _ => True
  | .append record next, last =>
    conduct.allows last (.append record) ∧
      (∀ reason, next (.error reason) = .done (.error (.history reason))) ∧
      (next (.ok ())).Obeys conduct (some (.append record))
  | .start payload next, last =>
    conduct.allows last (.start payload) ∧
      ∀ reply, conduct.relies reply → (next reply).Obeys conduct (some (.start payload))
  | .resume payload next, last =>
    conduct.allows last (.resume payload) ∧
      ∀ reply, conduct.relies reply → (next reply).Obeys conduct (some (.resume payload))
  | .execute call next, last =>
    conduct.allows last (.execute call) ∧
      ∀ outcome, (next outcome).Obeys conduct (some (.execute call))
  | .poll next, last =>
    conduct.allows last .poll ∧ ∀ signal, (next signal).Obeys conduct (some .poll)

namespace Plan

variable {α σ : Type} {conduct : Conduct} {host : Host σ} {p p' : Plan (Except RunError α)}
  {last : Option HostRequest} {s s' : σ} {request : HostRequest}

def GoesOn (conduct : Conduct) (host : Host σ) (s : σ) (request : HostRequest)
    (p' : Plan (Except RunError α)) : Prop :=
  p'.Obeys conduct (some request) ∧
    ∀ record, request = .append record → (host.append record s).1 = .ok ()

def GivesUp (host : Host σ) (s : σ) (request : HostRequest) (p' : Plan (Except RunError α)) : Prop :=
  ∃ record reason, request = .append record ∧ (host.append record s).1 = .error reason ∧
    p' = .done (.error (.history reason))

theorem Obeys.next (meets : host.Meets conduct) (h : p.Obeys conduct last)
    (step : p.next? host s = some (request, p', s')) :
    conduct.allows last request ∧ (GoesOn conduct host s request p' ∨ GivesUp host s request p') := by
  cases p with
  | done a => cases step
  | append record next =>
    obtain ⟨first, gives, rest⟩ := h
    cases step
    refine ⟨first, ?_⟩
    cases stored : (host.append record s).1 with
    | ok _ =>
      refine .inl ⟨rest, ?_⟩
      rintro _ ⟨⟩
      exact stored
    | error reason => exact .inr ⟨record, reason, rfl, stored, gives reason⟩
  | start payload next =>
    cases step
    exact ⟨h.1, .inl ⟨h.2 _ (meets.start payload s last h.1), nofun⟩⟩
  | resume payload next =>
    cases step
    exact ⟨h.1, .inl ⟨h.2 _ (meets.resume payload s last h.1), nofun⟩⟩
  | execute call next =>
    cases step
    exact ⟨h.1, .inl ⟨h.2 _, nofun⟩⟩
  | poll next =>
    cases step
    exact ⟨h.1, .inl ⟨h.2 _, nofun⟩⟩

theorem GivesUp.trace (h : GivesUp host s request p') (s' : σ) : p'.trace host s' = [] := by
  obtain ⟨record, reason, -, -, rfl⟩ := h
  rfl

variable {before after : List HostRequest}

/-- Every request of a run is allowed behind the one before. -/
theorem Obeys.allowed (meets : host.Meets conduct) (h : p.Obeys conduct last)
    (split : p.trace host s = before ++ request :: after) :
    conduct.allows (before.getLast?.or last) request := by
  induction before generalizing p last s with
  | nil =>
    obtain ⟨p', s', step, -⟩ := next_of_trace split
    exact (h.next meets step).1
  | cons head before ih =>
    obtain ⟨p', s', step, rest⟩ := next_of_trace split
    rcases (h.next meets step).2 with goesOn | givesUp
    · have allowed := ih goesOn.1 rest
      rw [List.getLast?_cons]
      cases behind : before.getLast? <;> simpa [behind] using allowed
    · rw [givesUp.trace s'] at rest
      cases before <;> cases rest

theorem Obeys.stored {record : Record} (meets : host.Meets conduct) (h : p.Obeys conduct last)
    (split : p.trace host s = before ++ .append record :: request :: after) :
    (host.append record (p.after host before.length s)).1 = .ok () := by
  induction before generalizing p last s with
  | nil =>
    obtain ⟨p', s', step, rest⟩ := next_of_trace split
    rw [List.length_nil, after_zero]
    rcases (h.next meets step).2 with goesOn | givesUp
    · exact goesOn.2 record rfl
    · rw [givesUp.trace s'] at rest
      cases rest
  | cons head before ih =>
    obtain ⟨p', s', step, rest⟩ := next_of_trace split
    rw [List.length_cons, after_next step]
    rcases (h.next meets step).2 with goesOn | givesUp
    · exact ih goesOn.1 rest
    · rw [givesUp.trace s'] at rest
      cases before <;> cases rest

end Plan

/-- What a run relies on: the calls that its script pauses on, and the checkpoints that it is given
for them. A checkpoint that is so kept is what the run resumes. -/
structure Reliance where
  opened : StartPayload → Prop
  offered : ExternalCall → Prop
  kept : Checkpoint → Prop

namespace Reliance

/-- The requests that change something outside stand behind their record: a start behind that of the
start, and an execution behind that of the call. -/
inductive Allows (reliance : Reliance) : Option HostRequest → HostRequest → Prop where
  | toolCall {last : Option HostRequest} {callId : String} {entry : CallEntry} {call : ExternalCall}
      (offered : reliance.offered call) (name : entry.toolName = call.functionName) :
      Allows reliance last (.append ⟨callId, .toolCall entry⟩)
  | append {last : Option HostRequest} {record : Record} (noCall : record.entry.call? = none) :
      Allows reliance last (.append record)
  | start {callId code preamble : String} {payload : StartPayload}
      (joined : payload.code = Preamble.join preamble code) (opened : reliance.opened payload) :
      Allows reliance (some (.append ⟨callId, .start code preamble⟩)) (.start payload)
  | resume {last : Option HostRequest} {payload : ResumePayload}
      (kept : reliance.kept payload.checkpoint) : Allows reliance last (.resume payload)
  | execute {callId : String} {entry : CallEntry} {call : Invocation}
      (name : entry.toolName = call.name) (arguments : entry.toolArgs = .object call.arguments) :
      Allows reliance (some (.append ⟨callId, .toolCall entry⟩)) (.execute call)
  | poll {last : Option HostRequest} : Allows reliance last .poll

/-- A reply that pauses, if at all, on such a call with such a checkpoint. -/
def Relies (reliance : Reliance) (reply : Except WorkerError WorkerReply) : Prop :=
  ∀ call checkpoint prints, reply = .ok ⟨.paused call checkpoint, prints⟩ →
    reliance.offered call ∧ reliance.kept checkpoint

def conduct (reliance : Reliance) : Conduct := ⟨reliance.Allows, reliance.Relies⟩

end Reliance

namespace Run

variable {α β : Type} {reliance : Reliance} {last : Option HostRequest}

def Obeys (reliance : Reliance) (x : Run α) (last : Option HostRequest) : Prop :=
  Plan.Obeys reliance.conduct x last

theorem Obeys.bind {x : Run α} {f : α → Run β} (h : x.Obeys reliance last)
    (next : ∀ a last, (f a).Obeys reliance last) : (x >>= f).Obeys reliance last := by
  have follow : ∀ (p : Plan (Except RunError α)) last, p.Obeys reliance.conduct last →
      (p.bind (ExceptT.bindCont f)).Obeys reliance.conduct last := by
    intro p
    induction p with
    | done result =>
      intro last _
      cases result with
      | ok a => exact next a last
      | error e => trivial
    | append record rest ih =>
      rintro last ⟨first, gives, goesOn⟩
      refine ⟨first, fun reason => ?_, ih _ _ goesOn⟩
      dsimp only
      rw [gives]
      rfl
    | start payload rest ih => exact fun last h => ⟨h.1, fun reply relied => ih _ _ (h.2 reply relied)⟩
    | resume payload rest ih => exact fun last h => ⟨h.1, fun reply relied => ih _ _ (h.2 reply relied)⟩
    | execute call rest ih => exact fun last h => ⟨h.1, fun outcome => ih _ _ (h.2 outcome)⟩
    | poll rest ih => exact fun last h => ⟨h.1, fun signal => ih _ _ (h.2 signal)⟩
  exact follow x last h

theorem obeys_pure (a : α) : (pure a : Run α).Obeys reliance last := trivial

theorem obeys_throw (e : RunError) : (throw e : Run α).Obeys reliance last := trivial

theorem obeys_record {callId : String} {entry : Entry} {f : Unit → Run α}
    (allowed : reliance.Allows last (.append ⟨callId, entry⟩))
    (next : (f ()).Obeys reliance (some (.append ⟨callId, entry⟩))) :
    (record callId entry >>= f).Obeys reliance last := ⟨allowed, fun _ => rfl, next⟩

theorem obeys_poll {f : Option Steering → Run α}
    (next : ∀ signal, (f signal).Obeys reliance (some .poll)) :
    (poll >>= f).Obeys reliance last := ⟨.poll, next⟩

theorem finish_obeys (st : RunState) (output : Json) : (finish st output).Obeys reliance last := by
  refine obeys_record (.append rfl) ?_
  exact obeys_pure _

theorem fail_obeys (st : RunState) (e : WorkerError) : (fail st e).Obeys reliance last := by
  refine obeys_record (.append rfl) ?_
  exact obeys_throw _

theorem skip_obeys (st : RunState) : (skip st).Obeys reliance last := by
  refine obeys_record (.append rfl) ?_
  exact obeys_pure _

theorem interrupt_obeys (st : RunState) (steering : Steering) :
    (interrupt st steering).Obeys reliance last := by
  refine obeys_record (.append rfl) ?_
  refine obeys_record (.append rfl) ?_
  exact obeys_pure _

theorem execute_obeys {callId : String} {entry : CallEntry} {tool : ToolDefinition}
    {arguments : Json.Members} (name : entry.toolName = tool.name)
    (converted : entry.toolArgs = .object arguments) :
    (execute tool arguments).Obeys reliance (some (.append ⟨callId, .toolCall entry⟩)) := by
  unfold execute
  split
  · exact obeys_pure _
  · exact obeys_pure _
  · refine ⟨.execute name converted, ?_⟩
    intro outcome
    cases outcome with
    | ok outcome => exact obeys_pure _
    | error e =>
      dsimp only [Plan.bind, ExceptT.bindCont]
      split
      · exact obeys_throw _
      · exact obeys_pure _

theorem report_obeys (st : RunState) (tool : ToolDefinition) (answer : CallAnswer) :
    (report st tool answer).Obeys reliance last := by
  refine obeys_record (.append rfl) ?_
  refine obeys_poll ?_
  intro signal
  cases signal with
  | none => exact obeys_pure _
  | some steering => exact (interrupt_obeys st steering).bind fun _ _ => obeys_pure _

theorem settle_obeys {callId : String} {entry : CallEntry} (st : RunState) {call : ExternalCall}
    (pending : Pending) (name : entry.toolName = pending.toolName)
    (arguments : entry.toolArgs = pending.toolArgs call) :
    (settle st pending).Obeys reliance (some (.append ⟨callId, .toolCall entry⟩)) := by
  cases pending with
  | unknown name =>
    refine obeys_record (.append rfl) ?_
    exact obeys_pure _
  | tool tool converted =>
    cases converted with
    | error fault => exact report_obeys _ tool _
    | ok converted => exact (execute_obeys name arguments).bind fun answer _ => report_obeys _ tool answer

theorem toolName_ofCall (definitions : List ToolDefinition) (call : ExternalCall) :
    (Pending.ofCall definitions call).toolName = call.functionName := by
  unfold Pending.ofCall
  cases found : definitions.find? (·.name == call.functionName) with
  | none => rfl
  | some tool =>
    have same := List.find?_some found
    exact beq_iff_eq.mp same

theorem answerCall_obeys (st : RunState) {call : ExternalCall} (offered : reliance.offered call)
    (checkpoint : Checkpoint) : (answerCall settle st call checkpoint).Obeys reliance last := by
  unfold answerCall
  dsimp only
  split
  · exact (skip_obeys _).bind fun _ _ => obeys_pure _
  · refine obeys_record (.toolCall offered (toolName_ofCall _ call)) ?_
    exact settle_obeys _ _ rfl rfl

theorem round_obeys {next : RunState → Except WorkerError WorkerReply → Run RunResult}
    (goesOn : ∀ st step, reliance.Relies step → ∀ last, (next st step).Obeys reliance last)
    (st : RunState) {step : Except WorkerError WorkerReply} (relied : reliance.Relies step) :
    (round settle next st step).Obeys reliance last := by
  match step with
  | .error e => exact fail_obeys st e
  | .ok ⟨.finished output, prints⟩ => exact finish_obeys _ output
  | .ok ⟨.paused call checkpoint, prints⟩ =>
    obtain ⟨offered, kept⟩ := relied call checkpoint prints rfl
    rw [round_paused]
    refine (answerCall_obeys _ offered checkpoint).bind ?_
    intro settled last
    match settled with
    | (_, .inr result) => exact obeys_pure _
    | (st, .inl instruction) =>
      refine ⟨.resume kept, ?_⟩
      intro reply relied
      exact goesOn st reply relied _

theorem drive_obeys (rounds : Nat) (st : RunState) {step : Except WorkerError WorkerReply}
    (relied : reliance.Relies step) (last : Option HostRequest) :
    (drive rounds st step).Obeys reliance last := by
  induction rounds generalizing st step last with
  | zero => exact obeys_throw _
  | succ rounds ih => exact round_obeys (fun st step relied last => ih st relied last) st relied

def Opening.Relied (reliance : Reliance) (tools : List ToolDefinition) : Opening → Prop
  | .fresh _ _ => ∀ payload : StartPayload,
      payload.externals = (RuntimeTool.extend tools).map (·.name) → reliance.opened payload
  | .again _ call => ∀ checkpoint, call.decode = .ok checkpoint → reliance.kept checkpoint

theorem whole_obeys (rounds : Nat) (tools : List ToolDefinition) {opening : Opening}
    (relied : Opening.Relied reliance tools opening) :
    (whole rounds tools opening).Obeys reliance none := by
  cases opening with
  | fresh limits request =>
    refine ⟨?record, fun _ => rfl, ?start, ?rest⟩
    case record => exact .append rfl
    case start => exact .start rfl (relied _ rfl)
    case rest =>
      intro reply reliedOn
      exact drive_obeys rounds _ reliedOn _
  | again callId call =>
    unfold whole
    simp only [begin]
    split
    · exact obeys_throw _
    · next checkpoint readable =>
      refine ⟨.resume (relied checkpoint readable), ?_⟩
      intro reply reliedOn
      exact drive_obeys rounds _ reliedOn _

end Run

end ResumableScript
