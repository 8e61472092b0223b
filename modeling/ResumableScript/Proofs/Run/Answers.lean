import Mathlib.Tactic.Basic
import ResumableScript.Proofs.Run.Transcript

/-! What comes of a call whose arguments convert: who executes it, what the history says of it, and
what the script is told. The runtime answers the functions it knows by name, also where the host has
a tool of that name; every other call is the host's, once. The script is told what the history has,
and of a failure with a structured value that value, not the text. -/
namespace ResumableScript

/-- The call that a turn has the host execute. -/
def Turn.invocation? : Turn → Option Invocation
  | .execute call _ => some call
  | .append .. | .start .. | .resume .. | .poll _ => none

def executedNow (turns : List Turn) : List Invocation :=
  (turns.takeWhile (·.reply?.isNone)).filterMap Turn.invocation?

theorem executedNow_execute (call : Invocation) (outcome : Except ExecutorError ToolOutcome)
    (turns : List Turn) :
    executedNow (.execute call outcome :: turns) = call :: executedNow turns := rfl

def OnlyRecords (turns : List Turn) : Prop :=
  ∀ turn ∈ turns, ∃ record stored, turn = .append record stored

theorem OnlyRecords.executes_nothing {turns : List Turn} (h : OnlyRecords turns) :
    executedNow turns = [] := by
  refine List.filterMap_eq_nil_iff.mpr fun turn within => ?_
  obtain ⟨record, stored, rfl⟩ := h turn (List.takeWhile_subset _ within)
  rfl

namespace ExecutorError

def chain (e : ExecutorError) : List Cause := e.outermost :: e.inner

variable {e : ExecutorError}

theorem abortReason?_none (calm : ∀ reason, .aborted reason ∉ e.chain) : e.abortReason? = none := by
  refine List.findSome?_eq_none_iff.mpr fun cause within => ?_
  cases cause with
  | message text => rfl
  | aborted reason => exact absurd within (calm reason)

theorem abortReason?_first {outer inner : List Cause} {reason : String}
    (chain : e.chain = outer ++ .aborted reason :: inner)
    (calm : ∀ other, .aborted other ∉ outer) : e.abortReason? = some reason := by
  refine List.findSome?_eq_some_iff.mpr ⟨outer, _, inner, chain, rfl, fun cause within => ?_⟩
  cases cause with
  | message text => rfl
  | aborted other => exact absurd within (calm other)

end ExecutorError

namespace RuntimeTool

theorem answer?_eq_none {name : String} {arguments : Json.Members} :
    answer? name arguments = none ↔ ¬ (name = parseName ∨ name = stringifyName) := by
  unfold answer?
  split <;> rename_i parses
  · simp [parses]
  · split <;> rename_i stringifies
    · simp [stringifies]
    · simp [parses, stringifies]

theorem extend_find? (tools : List ToolDefinition) (name : String) :
    (extend tools).find? (·.name == name) =
      (tools.find? (·.name == name)).or (definitions.find? (·.name == name)) := by
  unfold extend
  induction definitions generalizing tools with
  | nil => simp
  | cons definition more ih =>
    rw [List.foldl_cons, ih]
    split <;> rename_i taken
    · by_cases same : definition.name = name
      · subst same
        obtain ⟨tool, found⟩ := Option.isSome_iff_exists.mp
          (List.find?_isSome.mpr (List.any_eq_true.mp taken))
        rw [found]
        rfl
      · rw [List.find?_cons_of_neg (by simpa using same)]
    · rw [List.find?_append, Option.or_assoc, ← List.find?_append]
      rfl

theorem find?_of_extend {tools : List ToolDefinition} {name : String} {tool : ToolDefinition}
    (known : (extend tools).find? (·.name == name) = some tool) (noSkip : name ≠ skipName)
    (other : ¬ (name = parseName ∨ name = stringifyName)) :
    tools.find? (·.name == name) = some tool := by
  have none : definitions.find? (·.name == name) = none := by
    obtain ⟨noParse, noStringify⟩ := not_or.mp other
    simp [definitions, noSkip.symm, Ne.symm noParse, Ne.symm noStringify]
  rwa [extend_find?, none, Option.or_none] at known

end RuntimeTool

def CallAnswer.ofRuntime : Except RuntimeTool.Fault Json → CallAnswer
  | .ok value => ⟨.returnValue value, value.render, false⟩
  | .error fault => .toolError fault.message

def CallAnswer.ofExecution (tool : String) :
    Except ExecutorError ToolOutcome → Except RunError CallAnswer
  | .ok outcome => .ok (.ofOutcome tool outcome)
  | .error e =>
    e.abortReason?.elim (.ok (.toolError e.message)) fun reason => .error (.aborted reason)

/-- A record of a call with such an argument object. -/
def Record.Calls (record : Record) (tool : String) (arguments : Json.Members) : Prop :=
  ∃ entry, record.entry = .toolCall entry ∧ entry.toolName = tool ∧
    entry.toolArgs = .object arguments

/-- The history has an answer, and the script goes on with it, unless the run ends over the record
or over a message. -/
inductive Told (callId tool : String) (checkpoint : Checkpoint) (answer : CallAnswer) :
    List Turn → Prop where
  | unstored (reason : String) : Told callId tool checkpoint answer
      [.append ⟨callId, .toolResult tool answer.text answer.isError⟩ (.error reason)]
  | steered (signal : Steering) {rest : List Turn} (ends : OnlyRecords rest) :
      Told callId tool checkpoint answer
        (.append ⟨callId, .toolResult tool answer.text answer.isError⟩ (.ok ()) ::
          .poll (some signal) :: rest)
  | resumed (reply : Except WorkerError WorkerReply) (rest : List Turn) :
      Told callId tool checkpoint answer
        (.append ⟨callId, .toolResult tool answer.text answer.isError⟩ (.ok ()) :: .poll none ::
          .resume ⟨checkpoint, answer.instruction⟩ reply :: rest)

theorem Told.executes_nothing {callId tool : String} {checkpoint : Checkpoint} {answer : CallAnswer}
    {turns : List Turn} (h : Told callId tool checkpoint answer turns) :
    executedNow turns = [] := by
  cases h with
  | unstored reason => rfl
  | steered signal ends => exact ends.executes_nothing
  | resumed reply rest => rfl

/-- What follows an execution: its answer is told, or the run has ended with it. -/
inductive Settled (callId tool : String) (checkpoint : Checkpoint)
    (result : Except RunError RunResult) : Except RunError CallAnswer → List Turn → Prop where
  | told {answer : CallAnswer} {turns : List Turn}
      (tells : Told callId tool checkpoint answer turns) :
      Settled callId tool checkpoint result (.ok answer) turns
  | ended {e : RunError} (stopped : result = .error e) :
      Settled callId tool checkpoint result (.error e) []

/-- What follows the record of a call whose arguments converted. -/
inductive Served (callId tool : String) (arguments : Json.Members) (checkpoint : Checkpoint)
    (result : Except RunError RunResult) : List Turn → Prop where
  | runtime {answer : Except RuntimeTool.Fault Json} {turns : List Turn}
      (own : RuntimeTool.answer? tool arguments = some answer)
      (tells : Told callId tool checkpoint (.ofRuntime answer) turns) :
      Served callId tool arguments checkpoint result turns
  | host {outcome : Except ExecutorError ToolOutcome} {turns : List Turn}
      (other : RuntimeTool.answer? tool arguments = none)
      (settled :
        Settled callId tool checkpoint result (CallAnswer.ofExecution tool outcome) turns) :
      Served callId tool arguments checkpoint result (.execute ⟨tool, arguments⟩ outcome :: turns)

section Settled

variable {callId tool : String} {checkpoint : Checkpoint} {result : Except RunError RunResult}
  {arguments : Json.Members} {turns : List Turn}

theorem Settled.tells {answer : CallAnswer}
    (h : Settled callId tool checkpoint result (.ok answer) turns) :
    Told callId tool checkpoint answer turns := by
  cases h
  assumption

theorem Settled.stops {e : RunError} (h : Settled callId tool checkpoint result (.error e) turns) :
    turns = [] ∧ result = .error e := by
  cases h
  exact ⟨rfl, ‹_›⟩

theorem Settled.executes_nothing {answer : Except RunError CallAnswer}
    (h : Settled callId tool checkpoint result answer turns) : executedNow turns = [] := by
  cases h with
  | told tells => exact tells.executes_nothing
  | ended stopped => rfl

theorem Served.by_runtime (h : Served callId tool arguments checkpoint result turns)
    (runtime : tool = RuntimeTool.parseName ∨ tool = RuntimeTool.stringifyName) :
    ∃ answer, RuntimeTool.answer? tool arguments = some answer ∧
      Told callId tool checkpoint (.ofRuntime answer) turns := by
  cases h with
  | runtime own tells => exact ⟨_, own, tells⟩
  | host other => exact absurd runtime (RuntimeTool.answer?_eq_none.mp other)

theorem Served.by_host (h : Served callId tool arguments checkpoint result turns)
    (other : ¬ (tool = RuntimeTool.parseName ∨ tool = RuntimeTool.stringifyName)) :
    ∃ outcome later, turns = .execute ⟨tool, arguments⟩ outcome :: later ∧
      Settled callId tool checkpoint result (CallAnswer.ofExecution tool outcome) later := by
  cases h with
  | runtime own => cases own.symm.trans (RuntimeTool.answer?_eq_none.mpr other)
  | host _ settled => exact ⟨_, _, rfl, settled⟩

end Settled

namespace Run

variable {turns : List Turn} {st : RunState} {tool : ToolDefinition} {answer : CallAnswer}
  {checkpoint : Checkpoint} {arguments : Json.Members} {result : Except RunError RunResult}
  {next : RunState → Except WorkerError WorkerReply → Run RunResult}

theorem interrupt_onlyRecords {signal : Steering} (h : (interrupt st signal).Passes turns result) :
    OnlyRecords turns := by
  obtain ⟨_, _, rfl, ⟨_, -, rfl, -⟩ | ⟨-, later⟩⟩ := Passes.of_record h
  · simp [OnlyRecords]
  · obtain ⟨_, _, rfl, ⟨_, -, rfl, -⟩ | ⟨-, later⟩⟩ := Passes.of_record later
    · simp [OnlyRecords]
    · obtain ⟨rfl, -⟩ := Passes.of_pure later
      simp [OnlyRecords]

theorem report_passes {outcome : Except RunError (RunState × CallOutcome)}
    (h : (report st tool answer).Passes turns outcome) :
    let recorded := Turn.append ⟨st.callId, .toolResult tool.name answer.text answer.isError⟩
    (∃ reason, turns = [recorded (.error reason)] ∧ outcome = .error (.history reason)) ∨
    (∃ signal records, turns = recorded (.ok ()) :: .poll (some signal) :: records ∧
      OnlyRecords records ∧ ∀ settled, outcome = .ok settled → ∃ ended, settled.2 = .inr ended) ∨
    turns = [recorded (.ok ()), .poll none] ∧ outcome = .ok (st, .inl answer.instruction) := by
  obtain ⟨stored, _, rfl, ⟨reason, rfl, rfl, ended⟩ | ⟨rfl, polled⟩⟩ := Passes.of_record h
  · exact .inl ⟨reason, rfl, ended⟩
  obtain ⟨signal, _, rfl, later⟩ := Passes.of_poll polled
  cases signal with
  | none =>
    obtain ⟨rfl, ended⟩ := Passes.of_pure later
    exact .inr (.inr ⟨rfl, ended⟩)
  | some signal =>
    refine .inr (.inl ⟨signal, _, rfl, ?_⟩)
    rcases Passes.of_bind later with ⟨e, rfl, failed⟩ | ⟨records, _, ended, rfl, interrupted, last⟩
    · exact ⟨interrupt_onlyRecords failed, by simp⟩
    · obtain ⟨rfl, rfl⟩ := Passes.of_pure last
      rw [List.append_nil]
      refine ⟨interrupt_onlyRecords interrupted, ?_⟩
      rintro _ ⟨⟩
      exact ⟨ended, rfl⟩

theorem report_told
    (h : (report st tool answer >>= afterCall next checkpoint).Passes turns result) :
    Told st.callId tool.name checkpoint answer turns := by
  rcases Passes.of_bind h with ⟨e, -, failed⟩ | ⟨first, rest, settled, rfl, reported, later⟩
  · rcases report_passes failed with ⟨reason, rfl, -⟩ | ⟨signal, records, rfl, ends, -⟩ | ⟨-, ⟨⟩⟩
    · exact .unstored reason
    · exact .steered signal ends
  · rcases report_passes reported with ⟨_, -, ⟨⟩⟩ | ⟨signal, records, rfl, ends, last⟩ | ⟨rfl, ⟨⟩⟩
    · obtain ⟨ended, same⟩ := last settled rfl
      obtain ⟨st', _⟩ := settled
      cases same
      obtain ⟨rfl, -⟩ := Passes.of_pure later
      rw [List.append_nil]
      exact .steered signal ends
    · obtain ⟨reply, more, rfl, -⟩ := Passes.of_resume later
      exact .resumed reply more

theorem execute_runtime {answer : Except RuntimeTool.Fault Json}
    (own : RuntimeTool.answer? tool.name arguments = some answer) :
    execute tool arguments = pure (.ofRuntime answer) := by
  unfold execute
  rw [own]
  cases answer <;> rfl

theorem execute_host (other : RuntimeTool.answer? tool.name arguments = none) :
    execute tool arguments = invoke ⟨tool.name, arguments⟩ >>= fun outcome =>
      ExceptT.mk (pure (CallAnswer.ofExecution tool.name outcome)) := by
  unfold execute
  rw [other]
  refine congrArg (invoke _ >>= ·) (funext fun outcome => ?_)
  cases outcome with
  | ok outcome => rfl
  | error e =>
    dsimp only [CallAnswer.ofExecution]
    cases e.abortReason? <;> rfl

theorem settleTool_served
    (h : (settleTool st tool (.ok arguments) >>= afterCall next checkpoint).Passes turns result) :
    Served st.callId tool.name arguments checkpoint result turns := by
  let counted := { st with toolCallCount := st.toolCallCount + 1 }
  have h : (execute tool arguments >>= report counted tool >>= afterCall next checkpoint).Passes
    turns result := h
  rw [bind_assoc] at h
  cases own : RuntimeTool.answer? tool.name arguments with
  | some answer =>
    rw [execute_runtime own, pure_bind] at h
    have told : Told counted.callId tool.name checkpoint _ turns := report_told h
    exact .runtime own told
  | none =>
    rw [execute_host own, bind_assoc] at h
    obtain ⟨outcome, rest, rfl, later⟩ := Passes.of_invoke h
    refine .host own ?_
    cases came : CallAnswer.ofExecution tool.name outcome with
    | ok answer =>
      rw [came] at later
      have told : Told counted.callId tool.name checkpoint answer rest := report_told later
      exact .told told
    | error e =>
      rw [came] at later
      obtain ⟨rfl, stopped⟩ := Passes.of_throw later
      exact .ended stopped

/-- A call whose record is stored has its converted arguments there, and is served. -/
theorem drive_serves {rounds : Nat} {call : ExternalCall} {prints : List Emission} {record : Record}
    (h : (drive rounds st (.ok ⟨.paused call checkpoint, prints⟩)).Passes
      (.append record (.ok ()) :: turns) result)
    (noSkip : call.functionName ≠ RuntimeTool.skipName)
    (known : st.definitions.find? (·.name == call.functionName) = some tool)
    (converted : Arguments.convert tool call.args call.kwargs = .ok arguments) :
    record.Calls tool.name arguments ∧
      Served record.callId tool.name arguments checkpoint result turns := by
  cases rounds with
  | zero => cases (Passes.of_throw h).1
  | succ rounds =>
    have pending : Pending.ofCall st.definitions call = .tool tool (.ok arguments) := by
      rw [Pending.ofCall, known, ← converted]
    rw [drive, round_paused, answerCall] at h
    simp only [if_neg noSkip, bind_assoc] at h
    obtain ⟨_, _, same, ⟨_, rfl, -, -⟩ | ⟨-, served⟩⟩ := Passes.of_record h
    · cases same
    · cases same
      refine ⟨⟨_, rfl, ?_⟩, ?_⟩
      · simp only [callEntry, pending, Pending.toolName, Pending.toolArgs, and_self]
      · rw [pending, settle] at served
        have served := settleTool_served served
        exact served

theorem whole_serves {σ : Type} {host : Host σ} {rounds : Nat} {tools : List ToolDefinition}
    {opening : Opening} {s : σ} {before : List Turn} {asked : Turn} {call : ExternalCall}
    {record : Record}
    (passed : Plan.transcript host (whole rounds tools opening) s =
      before ++ asked :: .append record (.ok ()) :: turns)
    (paused : asked.Pauses call checkpoint) (noSkip : call.functionName ≠ RuntimeTool.skipName)
    (known : (RuntimeTool.extend tools).find? (·.name == call.functionName) = some tool)
    (converted : Arguments.convert tool call.args call.kwargs = .ok arguments) :
    record.Calls tool.name arguments ∧ Served record.callId tool.name arguments checkpoint
      (Plan.run host (whole rounds tools opening) s).1 turns := by
  have goesOn := whole_goesOnBehind (Plan.passes_transcript host (whole rounds tools opening) s)
  rw [passed] at goesOn
  obtain ⟨prints, replied⟩ := paused
  obtain ⟨_, st, same, driven⟩ := goesOn.from_reply replied
  exact drive_serves driven noSkip (same ▸ known) converted

end Run

def callingHost (call : ExternalCall) (outcome : Except ExecutorError ToolOutcome) : Host Unit :=
  { oneCallHost with
    start := fun _ s => (.ok ⟨.paused call ⟨[1]⟩, []⟩, s)
    execute := fun _ s => (outcome, s) }

def callingRun (tools : List ToolDefinition) : Run RunResult :=
  .whole 2 tools (.fresh {} { callId := "7", code := "", preamble := some "" })

theorem callingRun_records (tools : List ToolDefinition) {call : ExternalCall}
    (outcome : Except ExecutorError ToolOutcome)
    (noSkip : call.functionName ≠ RuntimeTool.skipName) :
    ∃ before asked record rest,
      Plan.transcript (callingHost call outcome) (callingRun tools) () =
        before ++ asked :: .append record (.ok ()) :: rest ∧ asked.Pauses call ⟨[1]⟩ := by
  let definitions := RuntimeTool.extend tools
  let step : Except WorkerError WorkerReply := .ok ⟨.paused call ⟨[1]⟩, []⟩
  have driven : Plan.transcript (callingHost call outcome) (callingRun tools) () =
      [.append ⟨"7", .start "" ""⟩ (.ok ())] ++
        .start { code := Preamble.join "" "", externals := definitions.map (·.name) } step ::
          Plan.transcript (callingHost call outcome)
            (Run.drive 2 { callId := "7", definitions } step) () := rfl
  rw [Run.drive, Run.round_paused, Run.answerCall, if_neg noSkip] at driven
  exact ⟨_, _, _, _, driven, [], rfl⟩

section Recorded

variable {σ : Type} (host : Host σ) (rounds : Nat) (tools : List ToolDefinition) (opening : Opening)
  (s : σ) {before rest : List Turn} {asked : Turn} {call : ExternalCall} {checkpoint : Checkpoint}
  {record : Record} {tool : ToolDefinition} {arguments : Json.Members}

/-- The runtime answers the calls of its two functions, also where the host has a tool of that name.
Any other call is of a tool of the host's, which executes it exactly once before the next step. -/
theorem executed_by_name
    (passed : Plan.transcript host (Run.whole rounds tools opening) s =
      before ++ asked :: .append record (.ok ()) :: rest)
    (paused : asked.Pauses call checkpoint) (noSkip : call.functionName ≠ RuntimeTool.skipName)
    (known : (RuntimeTool.extend tools).find? (·.name == call.functionName) = some tool)
    (converted : Arguments.convert tool call.args call.kwargs = .ok arguments) :
    record.Calls call.functionName arguments ∧
    if call.functionName = RuntimeTool.parseName ∨
        call.functionName = RuntimeTool.stringifyName then
      executedNow rest = [] ∧
      ∃ answer, RuntimeTool.answer? call.functionName arguments = some answer ∧
        Told record.callId call.functionName checkpoint (.ofRuntime answer) rest
    else
      tools.find? (·.name == call.functionName) = some tool ∧
      executedNow rest = [⟨call.functionName, arguments⟩] := by
  have named : tool.name = call.functionName := by simpa using List.find?_some known
  obtain ⟨recorded, served⟩ := Run.whole_serves passed paused noSkip known converted
  rw [named] at recorded served
  refine ⟨recorded, ?_⟩
  split
  case isTrue runtime =>
    obtain ⟨answer, own, tells⟩ := served.by_runtime runtime
    exact ⟨tells.executes_nothing, answer, own, tells⟩
  case isFalse other =>
    obtain ⟨outcome, later, rfl, settled⟩ := served.by_host other
    rw [executedNow_execute, settled.executes_nothing]
    exact ⟨RuntimeTool.find?_of_extend known noSkip other, rfl⟩

theorem executed_by_name_lookup :
    let call : ExternalCall := ⟨"lookup", [], [("key", .bool true)]⟩
    let transcript := Plan.transcript (callingHost call (.ok (.ofText "found")))
      (callingRun [{ name := "lookup" }]) ()
    ∃ before asked record rest,
      transcript = before ++ asked :: .append record (.ok ()) :: rest ∧ asked.Pauses call ⟨[1]⟩ ∧
      executedNow rest = [⟨"lookup", [("key", .bool true)]⟩] := by
  intro call transcript
  have noSkip : call.functionName ≠ RuntimeTool.skipName := by decide
  obtain ⟨before, asked, record, rest, passed, paused⟩ := callingRun_records
    [{ name := "lookup" }] (.ok (.ofText "found")) noSkip
  have answered := executed_by_name _ _ _ _ _ passed paused noSkip rfl rfl
  rw [if_neg (by decide)] at answered
  exact ⟨_, _, _, _, passed, paused, answered.2.2⟩

/-- A tool of the host's with the name of a runtime function is not executed. -/
theorem parse_not_executed :
    let tools : List ToolDefinition := [{
      name := "json_parse"
      parameters := .object [("properties", .object [("text", .object [])])] }]
    let call : ExternalCall := ⟨"json_parse", [.string "[1]"], []⟩
    ∃ before asked record rest,
      Plan.transcript (callingHost call (.ok (.ofText "mine"))) (callingRun tools) () =
        before ++ asked :: .append record (.ok ()) :: rest ∧
      asked.Pauses call ⟨[1]⟩ ∧ record.Calls "json_parse" [("text", .string "[1]")] ∧
      executedNow rest = [] := by
  intro tools call
  have noSkip : call.functionName ≠ RuntimeTool.skipName := by decide
  obtain ⟨before, asked, record, rest, passed, paused⟩ := callingRun_records tools
    (.ok (.ofText "mine")) noSkip
  obtain ⟨recorded, served⟩ := Run.whole_serves passed paused noSkip rfl rfl
  obtain ⟨answer, -, tells⟩ := served.by_runtime (.inl rfl)
  exact ⟨_, _, _, _, passed, paused, recorded, tells.executes_nothing⟩

/-- What the history says of a call of the host's and what the script is told of it agree. A success
is the structured value, or else the text. A failure is the text, but where it has a structured
value, that value's; blank, it is told by the tool's name. An error is told by its outermost cause,
unless a cancellation among its causes ends the run at once. -/
theorem history_agrees
    (passed : Plan.transcript host (Run.whole rounds tools opening) s =
      before ++ asked :: .append record (.ok ()) :: rest)
    (paused : asked.Pauses call checkpoint) (noSkip : call.functionName ≠ RuntimeTool.skipName)
    (known : (RuntimeTool.extend tools).find? (·.name == call.functionName) = some tool)
    (converted : Arguments.convert tool call.args call.kwargs = .ok arguments)
    (other : ¬ (call.functionName = RuntimeTool.parseName ∨
      call.functionName = RuntimeTool.stringifyName)) :
    ∃ outcome later, rest = .execute ⟨call.functionName, arguments⟩ outcome :: later ∧
      (∀ text value, outcome = .ok ⟨text, false, value⟩ →
        Told record.callId call.functionName checkpoint
          ⟨.returnValue (value.getD (.string text)), (value.getD (.string text)).render, false⟩
          later) ∧
      (∀ text value, outcome = .ok ⟨text, true, value⟩ →
        let told := value.elim text Json.render
        Told record.callId call.functionName checkpoint
          ⟨.exception ⟨"RuntimeError",
            if Text.isAllBlank told then s!"Tool execution failed: {call.functionName}" else told⟩,
            told, true⟩ later) ∧
      (∀ e, outcome = .error e → (∀ reason, .aborted reason ∉ e.chain) →
        Told record.callId call.functionName checkpoint
          ⟨.exception ⟨"RuntimeError", s!"ToolError: {e.message}"⟩,
            s!"ToolError: {e.message}", true⟩ later) ∧
      (∀ e outer reason inner, outcome = .error e → e.chain = outer ++ .aborted reason :: inner →
        (∀ earlier, .aborted earlier ∉ outer) →
        later = [] ∧
          (Plan.run host (Run.whole rounds tools opening) s).1 = .error (.aborted reason)) := by
  have named : tool.name = call.functionName := by simpa using List.find?_some known
  obtain ⟨-, served⟩ := Run.whole_serves passed paused noSkip known converted
  rw [named] at served
  obtain ⟨outcome, later, rfl, settled⟩ := served.by_host other
  refine ⟨outcome, later, rfl, ?success, ?failure, ?error, ?aborted⟩
  case success =>
    rintro text value rfl
    exact settled.tells
  case failure =>
    rintro text value rfl
    cases value with
    | none => exact settled.tells
    | some value => exact settled.tells
  case error =>
    rintro e rfl calm
    rw [CallAnswer.ofExecution, e.abortReason?_none calm] at settled
    exact settled.tells
  case aborted =>
    rintro e outer reason inner rfl chain calm
    rw [CallAnswer.ofExecution, e.abortReason?_first chain calm] at settled
    exact settled.stops

theorem history_agrees_cancelled :
    let tools : List ToolDefinition := [{ name := "lookup" }]
    let call : ExternalCall := ⟨"lookup", [], [("key", .bool true)]⟩
    let cancelled : ExecutorError := ⟨.message "lookup failed", [.aborted "stop"]⟩
    let host := callingHost call (.error cancelled)
    ∃ before,
      Plan.transcript host (callingRun tools) () =
        before ++ [.execute ⟨"lookup", [("key", .bool true)]⟩ (.error cancelled)] ∧
      (Plan.run host (callingRun tools) ()).1 = .error (.aborted "stop") := by
  intro tools call cancelled host
  let st : RunState := { callId := "7", definitions := RuntimeTool.extend tools }
  let opened := Turn.append ⟨"7", .start "" ""⟩ (.ok ())
  let asked := Turn.start { code := Preamble.join "" "", externals := st.definitions.map (·.name) }
    (.ok ⟨.paused call ⟨[1]⟩, []⟩)
  let recorded := Turn.append ⟨"7", .toolCall (Run.callEntry st call ⟨[1]⟩)⟩ (.ok ())
  have passed : Plan.transcript host (callingRun tools) () = [opened] ++ asked :: recorded ::
      [.execute ⟨"lookup", [("key", .bool true)]⟩ (.error cancelled)] := rfl
  obtain ⟨_, _, same, -, -, -, aborted⟩ := history_agrees _ _ _ _ _ passed ⟨[], rfl⟩ (by decide)
    rfl rfl (by decide)
  cases same
  obtain ⟨-, stopped⟩ := aborted cancelled [.message "lookup failed"] "stop" [] rfl rfl (by simp)
  exact ⟨[opened, asked, recorded], passed, stopped⟩

/-- A failure with a structured value is not told by its text. -/
theorem failure_text_untold :
    let call : ExternalCall := ⟨"lookup", [], []⟩
    let failed : ToolOutcome := ⟨"boom", true, some (.bool false)⟩
    ∃ before later,
      Plan.transcript (callingHost call (.ok failed)) (callingRun [{ name := "lookup" }]) () =
        before ++ .execute ⟨"lookup", []⟩ (.ok failed) :: later ∧
      ∀ text,
        ¬ Told "7" "lookup" ⟨[1]⟩ ⟨.exception ⟨"RuntimeError", "boom"⟩, text, true⟩ later := by
  intro call failed
  let st : RunState := { callId := "7", definitions := RuntimeTool.extend [{ name := "lookup" }] }
  let told := CallAnswer.ofOutcome "lookup" failed
  have passed :
      Plan.transcript (callingHost call (.ok failed)) (callingRun [{ name := "lookup" }]) () =
      [.append ⟨"7", .start "" ""⟩ (.ok ()),
        .start { code := Preamble.join "" "", externals := st.definitions.map (·.name) }
          (.ok ⟨.paused call ⟨[1]⟩, []⟩),
        .append ⟨"7", .toolCall (Run.callEntry st call ⟨[1]⟩)⟩ (.ok ())] ++
      .execute ⟨"lookup", []⟩ (.ok failed) ::
        .append ⟨"7", .toolResult "lookup" told.text told.isError⟩ (.ok ()) :: .poll none ::
          .resume ⟨⟨[1]⟩, told.instruction⟩ (.ok ⟨.finished .null, []⟩) :: _ := rfl
  refine ⟨_, _, passed, fun text tells => ?_⟩
  have value : told.instruction = .exception ⟨"RuntimeError", "false"⟩ := by cbv
  rw [value] at tells
  generalize same : Instruction.exception ⟨"RuntimeError", "boom"⟩ = instruction at tells
  cases tells
  simp at same

end Recorded

end ResumableScript
