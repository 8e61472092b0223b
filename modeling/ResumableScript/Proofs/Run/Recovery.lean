import Mathlib.Tactic.Basic
import ResumableScript.Proofs.Engine.StoredText
import ResumableScript.Proofs.Run.History

/-! Recovery goes on where a run was interrupted. A run whose call is answered as interrupted, rather
than settled, is from the record of that call on the same plan as the recovery from that record. -/
namespace ResumableScript

/-- A reply whose checkpoint, if the script paused, is not empty. -/
def WorkerReply.Keepable (reply : WorkerReply) : Prop :=
  ∀ call checkpoint, reply.progress = .paused call checkpoint → checkpoint.bytes ≠ []

def StepKeepable (step : Except WorkerError WorkerReply) : Prop :=
  ∀ reply, step = .ok reply → reply.Keepable

/-- A host whose script engine makes no empty checkpoints. -/
structure Host.Keepable {σ : Type} (host : Host σ) : Prop where
  start : ∀ payload s, StepKeepable (host.start payload s).1
  resume : ∀ payload s, StepKeepable (host.resume payload s).1

def HostRequest.call? : HostRequest → Option CallEntry
  | .append record => record.entry.call?
  | _ => none

def callsIn (requests : List HostRequest) : Nat := requests.countP (·.call?.isSome)

namespace Plan

variable {α β σ : Type}

def after (host : Host σ) : Plan α → Nat → σ → σ
  | _, 0, s => s
  | done _, _ + 1, s => s
  | append record next, n + 1, s =>
    let (answer, s) := host.append record s
    (next answer).after host n s
  | start payload next, n + 1, s =>
    let (answer, s) := host.start payload s
    (next answer).after host n s
  | resume payload next, n + 1, s =>
    let (answer, s) := host.resume payload s
    (next answer).after host n s
  | execute call next, n + 1, s =>
    let (answer, s) := host.execute call s
    (next answer).after host n s
  | poll next, n + 1, s =>
    let (answer, s) := host.poll s
    (next answer).after host n s

/-- A plan that records no call, and only comes to such results. -/
def Quiet (Q : α → Prop) : Plan α → Prop
  | done a => Q a
  | append record next => record.entry.call? = none ∧ ∀ answer, (next answer).Quiet Q
  | start _ next => ∀ reply, (next reply).Quiet Q
  | resume _ next => ∀ reply, (next reply).Quiet Q
  | execute _ next => ∀ outcome, (next outcome).Quiet Q
  | poll next => ∀ signal, (next signal).Quiet Q

/-- The second plan is the first, interrupted behind the record of the call that comes after so many
others, and goes on again from that record. -/
inductive Interrupts (again : String → CallEntry → Plan α) : Nat → Plan α → Plan α → Prop where
  | done {calls : Nat} (a : α) : Interrupts again calls (.done a) (.done a)
  | append {calls : Nat} {record : Record} {next next' : Except String Unit → Plan α}
      (quiet : record.entry.call? = none)
      (rest : ∀ answer, Interrupts again calls (next answer) (next' answer)) :
      Interrupts again calls (.append record next) (.append record next')
  | call {calls : Nat} {callId : String} {call : CallEntry}
      {next next' : Except String Unit → Plan α}
      (rest : ∀ answer, Interrupts again calls (next answer) (next' answer)) :
      Interrupts again (calls + 1) (.append ⟨callId, .toolCall call⟩ next)
        (.append ⟨callId, .toolCall call⟩ next')
  | here {callId : String} {call : CallEntry} {next next' : Except String Unit → Plan α}
      (resumed : next' (.ok ()) = again callId call) :
      Interrupts again 0 (.append ⟨callId, .toolCall call⟩ next)
        (.append ⟨callId, .toolCall call⟩ next')
  | start {calls : Nat} {payload : StartPayload}
      {next next' : Except WorkerError WorkerReply → Plan α}
      (rest : ∀ step, StepKeepable step → Interrupts again calls (next step) (next' step)) :
      Interrupts again calls (.start payload next) (.start payload next')
  | resume {calls : Nat} {payload : ResumePayload}
      {next next' : Except WorkerError WorkerReply → Plan α}
      (rest : ∀ step, StepKeepable step → Interrupts again calls (next step) (next' step)) :
      Interrupts again calls (.resume payload next) (.resume payload next')
  | execute {calls : Nat} {call : Invocation}
      {next next' : Except ExecutorError ToolOutcome → Plan α}
      (rest : ∀ outcome, Interrupts again calls (next outcome) (next' outcome)) :
      Interrupts again calls (.execute call next) (.execute call next')
  | poll {calls : Nat} {next next' : Option Steering → Plan α}
      (rest : ∀ signal, Interrupts again calls (next signal) (next' signal)) :
      Interrupts again calls (.poll next) (.poll next')

theorem Quiet.bind {Q : α → Prop} {Q' : β → Prop} {p : Plan α} {f : α → Plan β} (h : p.Quiet Q)
    (next : ∀ a, Q a → (f a).Quiet Q') : (p.bind f).Quiet Q' := by
  induction p with
  | done a => exact next a h
  | append record rest ih => exact ⟨h.1, fun answer => ih answer (h.2 answer)⟩
  | start payload rest ih => exact fun reply => ih reply (h reply)
  | resume payload rest ih => exact fun reply => ih reply (h reply)
  | execute call rest ih => exact fun outcome => ih outcome (h outcome)
  | poll rest ih => exact fun signal => ih signal (h signal)

variable {again : String → CallEntry → Plan β} {calls : Nat}

theorem Interrupts.bind {Q : α → Prop} {p : Plan α} {f g : α → Plan β} (quiet : p.Quiet Q)
    (next : ∀ a, Q a → Interrupts again calls (f a) (g a)) :
    Interrupts again calls (p.bind f) (p.bind g) := by
  induction p with
  | done a => exact next a quiet
  | append record rest ih => exact .append quiet.1 fun answer => ih answer (quiet.2 answer)
  | start payload rest ih => exact .start fun reply _ => ih reply (quiet reply)
  | resume payload rest ih => exact .resume fun reply _ => ih reply (quiet reply)
  | execute call rest ih => exact .execute fun outcome => ih outcome (quiet outcome)
  | poll rest ih => exact .poll fun signal => ih signal (quiet signal)

theorem Interrupts.quiet {Q : β → Prop} {p : Plan β} (quiet : p.Quiet Q) :
    Interrupts again calls p p := by
  induction p with
  | done a => exact .done a
  | append record rest ih => exact .append quiet.1 fun answer => ih answer (quiet.2 answer)
  | start payload rest ih => exact .start fun reply _ => ih reply (quiet reply)
  | resume payload rest ih => exact .resume fun reply _ => ih reply (quiet reply)
  | execute call rest ih => exact .execute fun outcome => ih outcome (quiet outcome)
  | poll rest ih => exact .poll fun signal => ih signal (quiet signal)

/-- The requests of the interrupted plan are those of the first up to the record of the call, and
then those of the plan that goes on again from it. -/
theorem Interrupts.trace {host : Host σ} (keepable : host.Keepable) {p q : Plan β}
    (h : Interrupts again calls p q) {s : σ} {before after : List HostRequest} {callId : String}
    {call : CallEntry}
    (recorded : p.trace host s = before ++ .append ⟨callId, .toolCall call⟩ :: after)
    (earlier : callsIn before = calls)
    (stored : (host.append ⟨callId, .toolCall call⟩ (p.after host before.length s)).1 = .ok ()) :
    q.trace host s = before ++ .append ⟨callId, .toolCall call⟩ ::
        (again callId call).trace host (p.after host (before.length + 1) s) ∧
      q.run host s = (again callId call).run host (p.after host (before.length + 1) s) := by
  induction h generalizing s before with
  | done a => cases before <;> cases recorded
  | @append calls _ _ _ quiet rest ih =>
    cases before with
    | nil =>
      cases recorded
      cases quiet
    | cons request before =>
      obtain ⟨rfl, later⟩ := List.cons.inj recorded
      have earlier : callsIn before = calls := by
        simpa [callsIn, HostRequest.call?, quiet] using earlier
      obtain ⟨trace, run⟩ := ih _ later earlier stored
      exact ⟨congrArg (_ :: ·) trace, run⟩
  | @call calls _ _ _ _ rest ih =>
    cases before with
    | nil => cases earlier
    | cons request before =>
      obtain ⟨rfl, later⟩ := List.cons.inj recorded
      have earlier : callsIn before = calls := by
        simpa [callsIn, HostRequest.call?, Entry.call?] using earlier
      obtain ⟨trace, run⟩ := ih _ later earlier stored
      exact ⟨congrArg (_ :: ·) trace, run⟩
  | @here _ _ next next' resumed =>
    cases before with
    | nil =>
      cases recorded
      simp only [List.length_nil, Plan.after] at stored
      simp [Plan.trace, Plan.run, Plan.after, stored, resumed]
    | cons request before =>
      obtain ⟨rfl, later⟩ := List.cons.inj recorded
      simp [callsIn, HostRequest.call?, Entry.call?] at earlier
  | start rest ih =>
    cases before with
    | nil => cases recorded
    | cons request before =>
      obtain ⟨rfl, later⟩ := List.cons.inj recorded
      obtain ⟨trace, run⟩ := ih _ (keepable.start _ s) later earlier stored
      exact ⟨congrArg (_ :: ·) trace, run⟩
  | resume rest ih =>
    cases before with
    | nil => cases recorded
    | cons request before =>
      obtain ⟨rfl, later⟩ := List.cons.inj recorded
      obtain ⟨trace, run⟩ := ih _ (keepable.resume _ s) later earlier stored
      exact ⟨congrArg (_ :: ·) trace, run⟩
  | execute rest ih =>
    cases before with
    | nil => cases recorded
    | cons request before =>
      obtain ⟨rfl, later⟩ := List.cons.inj recorded
      obtain ⟨trace, run⟩ := ih _ later earlier stored
      exact ⟨congrArg (_ :: ·) trace, run⟩
  | poll rest ih =>
    cases before with
    | nil => cases recorded
    | cons request before =>
      obtain ⟨rfl, later⟩ := List.cons.inj recorded
      obtain ⟨trace, run⟩ := ih _ later earlier stored
      exact ⟨congrArg (_ :: ·) trace, run⟩

end Plan

namespace Run

variable {α β : Type}

def Quiet (Q : α → Prop) (x : Run α) : Prop := Plan.Quiet (fun result => ∀ a, result = .ok a → Q a) x

theorem quiet_pure {Q : α → Prop} {a : α} (h : Q a) : Quiet Q (pure a) := by
  rintro _ ⟨⟩
  exact h

theorem quiet_throw {Q : α → Prop} {e : RunError} : Quiet Q (throw e) := by
  rintro _ ⟨⟩

theorem Quiet.bind {Q : α → Prop} {Q' : β → Prop} {x : Run α} {f : α → Run β} (h : x.Quiet Q)
    (next : ∀ a, Q a → (f a).Quiet Q') : (x >>= f).Quiet Q' := by
  refine Plan.Quiet.bind h fun result known => ?_
  cases result with
  | ok a => exact next a (known a rfl)
  | error e => exact quiet_throw

theorem quiet_record {Q : α → Prop} {callId : String} {entry : Entry} {f : Unit → Run α}
    (noCall : entry.call? = none) (h : (f ()).Quiet Q) : (record callId entry >>= f).Quiet Q := by
  refine ⟨noCall, fun answer => ?_⟩
  cases answer with
  | ok _ => exact h
  | error reason => exact quiet_throw

theorem interrupts_bind {again : String → CallEntry → Plan (Except RunError β)} {calls : Nat}
    {Q : α → Prop} {x : Run α} {f g : α → Run β} (quiet : x.Quiet Q)
    (next : ∀ a, Q a → Plan.Interrupts again calls (f a) (g a)) :
    Plan.Interrupts again calls (x >>= f : Run β) (x >>= g : Run β) := by
  refine Plan.Interrupts.bind quiet fun result known => ?_
  cases result with
  | ok a => exact next a (known a rfl)
  | error e => exact .done _

theorem finish_quiet (st : RunState) (output : Json) : (finish st output).Quiet fun _ => True :=
  quiet_record rfl (quiet_pure trivial)

theorem fail_quiet (st : RunState) (e : WorkerError) : (fail st e).Quiet fun _ => True :=
  quiet_record rfl quiet_throw

theorem skip_quiet (st : RunState) : (skip st).Quiet fun _ => True :=
  quiet_record rfl (quiet_pure trivial)

theorem interrupt_quiet (st : RunState) (steering : Steering) :
    (interrupt st steering).Quiet fun _ => True :=
  quiet_record rfl (quiet_record rfl (quiet_pure trivial))

theorem execute_quiet (tool : ToolDefinition) (arguments : Json.Members) :
    (execute tool arguments).Quiet fun _ => True := by
  unfold execute
  split
  · exact quiet_pure trivial
  · exact quiet_pure trivial
  · intro outcome
    cases outcome with
    | ok outcome => exact quiet_pure trivial
    | error e =>
      dsimp only [Plan.bind, ExceptT.bindCont]
      split
      · exact quiet_throw
      · exact quiet_pure trivial

theorem report_quiet (st : RunState) (tool : ToolDefinition) (answer : CallAnswer) :
    (report st tool answer).Quiet fun settled => settled.1.definitions = st.definitions := by
  refine quiet_record rfl fun signal => ?_
  cases signal with
  | none => exact quiet_pure rfl
  | some steering => exact (interrupt_quiet st steering).bind fun _ _ => quiet_pure rfl

theorem settle_quiet (st : RunState) (pending : Pending) :
    (settle st pending).Quiet fun settled => settled.1.definitions = st.definitions := by
  cases pending with
  | unknown name => exact quiet_record rfl (quiet_pure rfl)
  | tool tool converted =>
    cases converted with
    | error fault => exact report_quiet _ tool _
    | ok arguments => exact (execute_quiet tool arguments).bind fun answer _ => report_quiet _ tool _

/-- Settles a call by nothing but an exception: it neither executes the call nor counts, records or
polls. -/
def settleInterrupted (st : RunState) (_ : Pending) : Run (RunState × CallOutcome) :=
  pure (st, .inl (.exception ⟨"RuntimeError", "Process was restarted"⟩))

/-- The loop of a run, in which the call that comes after so many others is recorded, and then
interrupted. -/
def driveInterrupted : Nat → Nat → RunState → Except WorkerError WorkerReply → Run RunResult
  | 0, _ => fun _ _ => throw .unfinished
  | rounds + 1, 0 => round settleInterrupted (drive rounds)
  | rounds + 1, calls + 1 => round settle (driveInterrupted rounds calls)

def interrupted (rounds calls : Nat) (tools : List ToolDefinition) (opening : Opening) :
    Run RunResult := do
  let (st, first) ← begin tools opening
  driveInterrupted rounds calls st first

section Round

variable {tools : List ToolDefinition}
  {next next' : RunState → Except WorkerError WorkerReply → Run RunResult}
  {again : String → CallEntry → Run RunResult} {calls : Nat}

/-- What follows a call: the end of the run, or the next step from the checkpoint. -/
def afterCall (next : RunState → Except WorkerError WorkerReply → Run RunResult)
    (checkpoint : Checkpoint) : RunState × CallOutcome → Run RunResult
  | (_, .inr result) => pure result
  | (st, .inl instruction) => do next st (← resume ⟨checkpoint, instruction⟩)

theorem round_paused (settle : RunState → Pending → Run (RunState × CallOutcome)) (st : RunState)
    (call : ExternalCall) (checkpoint : Checkpoint) (prints : List Emission) :
    round settle next st (.ok ⟨.paused call checkpoint, prints⟩) =
      answerCall settle { st with prints := st.prints.extend prints } call checkpoint >>=
        afterCall next checkpoint := rfl

theorem afterCall_interrupts
    (rest : ∀ st step, st.definitions = RuntimeTool.extend tools → StepKeepable step →
      Plan.Interrupts again calls (next st step) (next' st step))
    (checkpoint : Checkpoint) (settled : RunState × CallOutcome)
    (definitions : settled.1.definitions = RuntimeTool.extend tools) :
    Plan.Interrupts again calls (afterCall next checkpoint settled)
      (afterCall next' checkpoint settled) := by
  obtain ⟨st, instruction | result⟩ := settled
  · exact .resume fun step keepable => rest st step definitions keepable
  · exact .done _

theorem skipped_interrupts (st : RunState) (checkpoint : Checkpoint) :
    Plan.Interrupts again calls
      ((do return (st, .inr (← skip st))) >>= afterCall next checkpoint : Run RunResult)
      ((do return (st, .inr (← skip st))) >>= afterCall next' checkpoint : Run RunResult) := by
  refine interrupts_bind (Q := fun settled => ∃ result, settled = (st, .inr result))
    ((skip_quiet st).bind fun result _ => quiet_pure ⟨result, rfl⟩) ?_
  rintro _ ⟨result, rfl⟩
  exact .done _

theorem round_interrupts
    (rest : ∀ st step, st.definitions = RuntimeTool.extend tools → StepKeepable step →
      Plan.Interrupts again calls (next st step) (next' st step))
    {st : RunState} {step : Except WorkerError WorkerReply}
    (definitions : st.definitions = RuntimeTool.extend tools) :
    Plan.Interrupts again (calls + 1) (round settle next st step) (round settle next' st step) := by
  match step with
  | .error e => exact .quiet (fail_quiet st e)
  | .ok ⟨.finished output, prints⟩ => exact .quiet (finish_quiet _ output)
  | .ok ⟨.paused call checkpoint, prints⟩ =>
    rw [round_paused, round_paused]
    unfold answerCall
    dsimp only
    split
    · exact skipped_interrupts _ checkpoint
    · refine .call fun answer => ?_
      cases answer with
      | error reason => exact .done _
      | ok _ =>
        refine interrupts_bind (settle_quiet _ _) fun settled same => ?_
        exact afterCall_interrupts rest checkpoint settled (same.trans definitions)

/-- The recovery from the entry of a call starts in the state that made the entry. -/
theorem recover_callEntry (rounds : Nat) (st : RunState)
    (definitions : st.definitions = RuntimeTool.extend tools) {checkpoint : Checkpoint}
    (filled : checkpoint.bytes ≠ []) (flushed : st.prints = .seeded st.prints.lines)
    (call : ExternalCall) :
    recover rounds tools st.callId (callEntry st call checkpoint) =
      resume ⟨checkpoint, .exception ⟨"RuntimeError", "Process was restarted"⟩⟩ >>=
        drive rounds st := by
  have readable : (callEntry st call checkpoint).decode = .ok checkpoint :=
    Checkpoint.decode_encode filled
  have state : (⟨st.callId, RuntimeTool.extend tools, .seeded st.prints.lines, st.toolCallCount⟩ :
      RunState) = st := by rw [← definitions, ← flushed]
  unfold recover whole
  simp only [begin, readable]
  show resume ⟨checkpoint, .restarted⟩ >>= drive rounds ⟨st.callId, RuntimeTool.extend tools,
    .seeded st.prints.lines, st.toolCallCount⟩ = _
  rw [state]
  rfl

/-- A call that is answered as interrupted goes on as the recovery from its record. -/
theorem round_here {rounds : Nat} {st : RunState} {step : Except WorkerError WorkerReply}
    (definitions : st.definitions = RuntimeTool.extend tools) (keepable : StepKeepable step) :
    Plan.Interrupts (fun callId call => recover rounds tools callId call) 0
      (round settle (drive rounds) st step)
      (round settleInterrupted (drive rounds) st step) := by
  match step with
  | .error e => exact .quiet (fail_quiet st e)
  | .ok ⟨.finished output, prints⟩ => exact .quiet (finish_quiet _ output)
  | .ok ⟨.paused call checkpoint, prints⟩ =>
    rw [round_paused, round_paused]
    unfold answerCall
    dsimp only
    split
    · exact skipped_interrupts _ checkpoint
    · have again := recover_callEntry rounds
        { st with prints := (st.prints.extend prints).flushTrailing } definitions
        (keepable _ rfl call checkpoint rfl) (PrintCapture.flushTrailing_eq _) call
      exact .here again.symm

end Round

theorem drive_interrupts {tools : List ToolDefinition} (rounds calls : Nat) {st : RunState}
    {step : Except WorkerError WorkerReply}
    (definitions : st.definitions = RuntimeTool.extend tools) (keepable : StepKeepable step) :
    Plan.Interrupts (fun callId call => recover (rounds - calls - 1) tools callId call) calls
      (drive rounds st step) (driveInterrupted rounds calls st step) := by
  induction rounds generalizing calls st step with
  | zero => exact .done _
  | succ rounds ih =>
    cases calls with
    | zero => exact round_here definitions keepable
    | succ calls =>
      rw [Nat.add_sub_add_right]
      exact round_interrupts (fun st step => ih calls) definitions

theorem whole_interrupts (rounds calls : Nat) (tools : List ToolDefinition) (opening : Opening) :
    Plan.Interrupts (fun callId call => recover (rounds - calls - 1) tools callId call) calls
      (whole rounds tools opening) (interrupted rounds calls tools opening) := by
  cases opening with
  | fresh limits request =>
    refine .append rfl fun answer => ?_
    cases answer with
    | error reason => exact .done _
    | ok _ => exact .start fun first keepable => drive_interrupts rounds calls rfl keepable
  | again callId call =>
    unfold whole interrupted
    simp only [begin]
    split
    · exact .done _
    · exact .resume fun first keepable => drive_interrupts rounds calls rfl keepable

end Run

/-- From the record of any call on, a run whose call is answered as interrupted, uncounted and
without a result or a poll, makes the same requests of its host as the recovery from that record,
and comes to the same result. -/
theorem recover_continues {σ : Type} (host : Host σ) (keepable : host.Keepable) (rounds : Nat)
    (tools : List ToolDefinition) (opening : Opening) (s : σ) {before after : List HostRequest}
    {callId : String} {call : CallEntry}
    (recorded : Plan.trace host (Run.whole rounds tools opening) s =
      before ++ .append ⟨callId, .toolCall call⟩ :: after)
    (stored : (host.append ⟨callId, .toolCall call⟩
      (Plan.after host (Run.whole rounds tools opening) before.length s)).1 = .ok ()) :
    let calls := callsIn before
    let s' := Plan.after host (Run.whole rounds tools opening) (before.length + 1) s
    let interrupted := Run.interrupted rounds calls tools opening
    let recovery := Run.recover (rounds - calls - 1) tools callId call
    Plan.trace host interrupted s =
        before ++ .append ⟨callId, .toolCall call⟩ :: Plan.trace host recovery s' ∧
      Plan.run host interrupted s = Plan.run host recovery s' :=
  (Run.whole_interrupts rounds (callsIn before) tools opening).trace keepable recorded rfl stored

def echoHost : Host Unit :=
  { oneCallHost with
    resume := fun payload s => (.ok ⟨.finished payload.instruction.toJson, []⟩, s) }

theorem echoHost_keepable : echoHost.Keepable where
  start payload s := by
    rintro _ ⟨⟩ call checkpoint ⟨⟩
    decide
  resume payload s := by rintro _ ⟨⟩ call checkpoint ⟨⟩

/-- The call, of a tool that answers `found`, is in flight when the process stops; the script sees
the exception in its place. -/
theorem recover_continues_oneCall :
    let tools : List ToolDefinition := [{ name := "lookup" }]
    let opening := Opening.fresh {} { callId := "7", code := "", preamble := some "" }
    let seen : Json := .object [("exception", .object [("kind", .string "RuntimeError"),
      ("message", .string "Process was restarted")])]
    ∃ before call after,
      Plan.trace echoHost (Run.whole 2 tools opening) () =
        before ++ .append ⟨"7", .toolCall call⟩ :: after ∧
      Plan.run echoHost (Run.interrupted 2 0 tools opening) () =
        Plan.run echoHost (Run.recover 1 tools "7" call) () ∧
      (Plan.run echoHost (Run.recover 1 tools "7" call) ()).1.toOption.map (fun result =>
        (result.output, result.printOutput, result.toolCallCount)) = some (seen.compact, [], 0) := by
  intro tools opening seen
  let st : RunState := { callId := "7", definitions := RuntimeTool.extend tools }
  have recorded : Plan.trace echoHost (Run.whole 2 tools opening) () =
      [.append ⟨"7", .start "" ""⟩,
        .start { code := Preamble.join "" "", externals := st.definitions.map (·.name) }] ++
      .append ⟨"7", .toolCall (Run.callEntry st ⟨"lookup", [.null], []⟩ ⟨[1]⟩)⟩ :: _ := rfl
  exact ⟨_, _, _, recorded,
    (recover_continues echoHost echoHost_keepable 2 tools opening () recorded rfl).2,
    by decide +kernel⟩

end ResumableScript
