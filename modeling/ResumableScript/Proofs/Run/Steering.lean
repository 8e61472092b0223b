import Mathlib.Tactic.Basic
import ResumableScript.Proofs.Run.Conduct
import ResumableScript.Proofs.Run.Exchange

/-! Steering. The host is polled for a message behind every answer of a tool, and nowhere else. The
first message ends the run; as long as none comes, the polls do not show. -/
namespace ResumableScript

/-- The record of what a tool answered; `skip` never answers. -/
def HostRequest.answers (definitions : List ToolDefinition) : HostRequest → Bool
  | .append ⟨_, .toolResult name _ _⟩ =>
    name != RuntimeTool.skipName && definitions.any (·.name == name)
  | _ => false

/-- The polls stand behind the answers of tools and nowhere else; one is `due` at the front if such
an answer comes before. -/
def Polled (definitions : List ToolDefinition) : Bool → List HostRequest → Prop
  | due, [] => due = false
  | due, request :: rest =>
    request.isPoll = due ∧ Polled definitions (request.answers definitions) rest

section Polled

variable {definitions : List ToolDefinition} {due : Bool} {before after more : List HostRequest}

theorem Polled.append (h : Polled definitions due before) (rest : Polled definitions false after) :
    Polled definitions due (before ++ after) := by
  induction before generalizing due with
  | nil =>
    cases h
    exact rest
  | cons request before ih => exact ⟨h.1, ih h.2⟩

theorem Polled.next (h : Polled definitions due (before ++ after)) :
    after.head?.any HostRequest.isPoll =
      (before.getLast?.map (HostRequest.answers definitions)).getD due := by
  induction before generalizing due with
  | nil =>
    cases after with
    | nil => exact h.symm
    | cons request after => exact h.1
  | cons request before ih =>
    rw [ih h.2]
    cases before <;> simp [List.getLast?_cons]

theorem HostRequest.answers_iff {request : HostRequest} :
    request.answers definitions = true ↔ ∃ callId name text isError,
      request = .append ⟨callId, .toolResult name text isError⟩ ∧
        name ≠ RuntimeTool.skipName ∧ ∃ tool ∈ definitions, tool.name = name := by
  constructor
  · intro isAnswer
    unfold answers at isAnswer
    split at isAnswer
    · exact ⟨_, _, _, _, rfl, by simpa using isAnswer⟩
    · cases isAnswer
  · rintro ⟨callId, name, text, isError, rfl, named⟩
    simpa [answers] using named

theorem Polled.poll_iff (h : Polled definitions false (before ++ after)) :
    after.head? = some .poll ↔ ∃ callId name text isError,
      before.getLast? = some (.append ⟨callId, .toolResult name text isError⟩) ∧
        name ≠ RuntimeTool.skipName ∧ ∃ tool ∈ definitions, tool.name = name := by
  have next := h.next
  have polled : after.head? = some .poll ↔ after.head?.any HostRequest.isPoll = true := by
    rcases after with _ | ⟨request, after⟩
    · simp
    · cases request <;> simp [HostRequest.isPoll]
  rw [polled, next]
  cases behind : before.getLast? with
  | none => simp
  | some request => simp [HostRequest.answers_iff]

end Polled

/-- A tool that is called comes to an answer, with a poll behind it, or it gives the run up. -/
def Attended {α : Type} (outcome : Except RunError α) (callId : String) (call : CallEntry)
    (after : List HostRequest) : Prop :=
  (∃ (work : Option Invocation) (text : String) (isError : Bool) (rest : List HostRequest),
    after = (work.map .execute).toList ++
      .append ⟨callId, .toolResult call.toolName text isError⟩ :: .poll :: rest) ∨
  ∃ invocation reason, after = [.execute invocation] ∧ outcome = .error (.aborted reason)

def AllAttended {α : Type} (definitions : List ToolDefinition) (outcome : Except RunError α) :
    List HostRequest → Prop
  | [] => True
  | request :: rest =>
    (∀ callId call, request = .append ⟨callId, .toolCall call⟩ →
      call.counts definitions = true → Attended outcome callId call rest) ∧
    AllAttended definitions outcome rest

section Attended

variable {α β : Type} {definitions : List ToolDefinition} {outcome : Except RunError α}
  {outcome' : Except RunError β} {callId : String} {call : CallEntry}
  {requests before after : List HostRequest}

theorem Attended.mono (h : Attended outcome callId call after)
    (aborts : ∀ reason, outcome = .error (.aborted reason) → outcome' = .error (.aborted reason)) :
    Attended outcome' callId call after := by
  rcases h with answered | ⟨invocation, reason, same, aborted⟩
  · exact .inl answered
  · exact .inr ⟨invocation, reason, same, aborts reason aborted⟩

theorem Attended.append {a : α} (h : Attended (.ok a : Except RunError α) callId call before) :
    Attended outcome' callId call (before ++ after) := by
  rcases h with ⟨work, text, isError, rest, rfl⟩ | ⟨_, _, _, ⟨⟩⟩
  refine .inl ⟨work, text, isError, rest ++ after, ?_⟩
  simp

theorem AllAttended.mono (h : AllAttended definitions outcome requests)
    (aborts : ∀ reason, outcome = .error (.aborted reason) → outcome' = .error (.aborted reason)) :
    AllAttended definitions outcome' requests := by
  induction requests with
  | nil => trivial
  | cons request requests ih =>
    refine ⟨?_, ih h.2⟩
    intro callId call made known
    exact (h.1 callId call made known).mono aborts

theorem AllAttended.append {a : α} (h : AllAttended definitions (.ok a : Except RunError α) before)
    (rest : AllAttended definitions outcome' after) :
    AllAttended definitions outcome' (before ++ after) := by
  induction before with
  | nil => exact rest
  | cons request before ih =>
    refine ⟨?_, ih h.2⟩
    intro callId call made known
    exact (h.1 callId call made known).append

theorem AllAttended.behind
    (h : AllAttended definitions outcome (before ++ .append ⟨callId, .toolCall call⟩ :: after))
    (known : call.counts definitions = true) : Attended outcome callId call after := by
  induction before with
  | nil => exact h.1 callId call rfl known
  | cons request before ih => exact ih h.2

end Attended

/-- The poll with this index, counted from 0, answers with a message, and this ends the run. The
message is recorded behind the answer of the tool, and then that the run is complete; the records
and the result agree, and the result counts a call for each poll. -/
def SteeredAt (callId : String) (count : UInt64) (index : Nat) (signal : Steering)
    (requests : List HostRequest) (signals : List (Option Steering))
    (result : Except RunError RunResult) : Prop :=
  signals = List.replicate index none ++ [some signal] ∧
  ∃ earlier name text isError, ∃ r : RunResult,
    requests = earlier ++ [.append ⟨callId, .toolResult name text isError⟩, .poll,
      .append ⟨callId, .steeringInterrupt r.output r.printOutput signal⟩,
      .append ⟨callId, .complete r.entry⟩] ∧
    result = .ok r ∧ r.steeringInterrupt = some signal ∧
    r.toolCallCount = count + UInt64.ofNat (index + 1)

namespace SteeredAt

variable {callId : String} {count : UInt64} {index : Nat} {signal : Steering}
  {requests more : List HostRequest} {signals : List (Option Steering)}
  {result : Except RunError RunResult}

theorem here {name text : String} {isError : Bool} {r : RunResult}
    (names : r.steeringInterrupt = some signal) (counts : r.toolCallCount = count + 1) :
    SteeredAt callId count 0 signal
      [.append ⟨callId, .toolResult name text isError⟩, .poll,
        .append ⟨callId, .steeringInterrupt r.output r.printOutput signal⟩,
        .append ⟨callId, .complete r.entry⟩]
      [some signal] (.ok r) :=
  ⟨rfl, [], name, text, isError, r, rfl, rfl, names, counts⟩

theorem behind (h : SteeredAt callId count index signal more signals result)
    (requests : List HostRequest) :
    SteeredAt callId count index signal (requests ++ more) signals result := by
  obtain ⟨signals, earlier, name, text, isError, r, rfl, ended⟩ := h
  refine ⟨signals, requests ++ earlier, name, text, isError, r, ?_, ended⟩
  simp

theorem resumed (h : SteeredAt callId count index signal more signals result)
    (requests : List HostRequest) (request : HostRequest) :
    SteeredAt callId count index signal (requests ++ request :: more) signals result := by
  simpa using h.behind (requests ++ [request])

theorem polled (h : SteeredAt callId (count + 1) index signal requests signals result) :
    SteeredAt callId count (index + 1) signal requests (none :: signals) result := by
  obtain ⟨rfl, earlier, name, text, isError, r, ended, same, names, counts⟩ := h
  refine ⟨rfl, earlier, name, text, isError, r, ended, same, names, ?_⟩
  simp [counts, UInt64.add_assoc, UInt64.add_comm]

end SteeredAt

namespace Run

inductive Executes : List HostRequest → Except RunError CallAnswer → Prop where
  | here (answer : CallAnswer) : Executes [] (.ok answer)
  | answered (call : Invocation) (answer : CallAnswer) : Executes [.execute call] (.ok answer)
  | aborted (call : Invocation) (reason : String) :
      Executes [.execute call] (.error (.aborted reason))

/-- How a call is settled: by the end of the turn, without an answer, as a call of no tool, or as a
call of a tool, which is polled behind its answer. -/
inductive Settles (st : RunState) : List HostRequest → List (Option Steering) →
    Except RunError (RunState × CallOutcome) → Prop where
  | skipped {st' : RunState} {r : RunResult} (calm : r.steeringInterrupt = none) :
      Settles st [.append ⟨st.callId, .complete r.entry⟩] [] (.ok (st', .inr r))
  | aborted {call : CallEntry} {invocation : Invocation} {reason : String} :
      Settles st [.append ⟨st.callId, .toolCall call⟩, .execute invocation] []
        (.error (.aborted reason))
  | unknown {call : CallEntry} {text : String} {prints : PrintCapture} {instruction : Instruction}
      (unknown : call.counts st.definitions = false) :
      Settles st
        [.append ⟨st.callId, .toolCall call⟩,
          .append ⟨st.callId, .toolResult call.toolName text true⟩]
        [] (.ok ({ st with prints }, .inl instruction))
  | calm {call : CallEntry} (work : Option Invocation) {text : String} {isError : Bool}
      {prints : PrintCapture} {instruction : Instruction}
      (known : call.counts st.definitions = true) (noSkip : call.toolName ≠ RuntimeTool.skipName) :
      Settles st
        (.append ⟨st.callId, .toolCall call⟩ :: (work.map .execute).toList ++
          [.append ⟨st.callId, .toolResult call.toolName text isError⟩, .poll])
        [none]
        (.ok ({ st with prints, toolCallCount := st.toolCallCount + 1 }, .inl instruction))
  | steered {call : CallEntry} (work : Option Invocation) {text : String} {isError : Bool}
      {signal : Steering} {st' : RunState} {r : RunResult}
      (known : call.counts st.definitions = true) (noSkip : call.toolName ≠ RuntimeTool.skipName)
      (names : r.steeringInterrupt = some signal)
      (count : r.toolCallCount = st.toolCallCount + 1) :
      Settles st
        (.append ⟨st.callId, .toolCall call⟩ :: (work.map .execute).toList ++
          [.append ⟨st.callId, .toolResult call.toolName text isError⟩, .poll,
            .append ⟨st.callId, .steeringInterrupt r.output r.printOutput signal⟩,
            .append ⟨st.callId, .complete r.entry⟩])
        [some signal] (.ok (st', .inr r))

/-- How a run goes on from a state: it ends, or it settles a call and resumes its script. -/
inductive GoesThrough : RunState → List HostRequest → List (Option Steering) →
    Except RunError RunResult → Prop where
  | unfinished {st : RunState} : GoesThrough st [] [] (.error .unfinished)
  | completed {st : RunState} {c : CompleteEntry} {result : Except RunError RunResult} :
      GoesThrough st [.append ⟨st.callId, .complete c⟩] [] result
  | ended {st st' : RunState} {requests : List HostRequest} {signals : List (Option Steering)}
      {r : RunResult} (settled : Settles st requests signals (.ok (st', .inr r))) :
      GoesThrough st requests signals (.ok r)
  | failed {st : RunState} {requests : List HostRequest} {signals : List (Option Steering)}
      {e : RunError} (settled : Settles st requests signals (.error e)) :
      GoesThrough st requests signals (.error e)
  | resumed {st st' : RunState} {requests more : List HostRequest}
      {signals later : List (Option Steering)} {instruction : Instruction} {payload : ResumePayload}
      {result : Except RunError RunResult}
      (settled : Settles st requests signals (.ok (st', .inl instruction)))
      (rest : GoesThrough st' more later result) :
      GoesThrough st (requests ++ .resume payload :: more) (signals ++ later) result

section Exchanges

variable {st : RunState} {prints : PrintCapture} {requests : List HostRequest}
  {signals : List (Option Steering)}

theorem Settles.printed {outcome : Except RunError (RunState × CallOutcome)}
    (h : Settles { st with prints } requests signals outcome) :
    Settles st requests signals outcome := by
  cases h with
  | skipped calm => exact .skipped calm
  | aborted => exact .aborted
  | unknown unknown => exact .unknown unknown
  | calm work known noSkip => exact .calm work known noSkip
  | steered work known noSkip names count => exact .steered work known noSkip names count

theorem GoesThrough.printed {result : Except RunError RunResult}
    (h : GoesThrough { st with prints } requests signals result) :
    GoesThrough st requests signals result := by
  cases h with
  | unfinished => exact .unfinished
  | completed => exact .completed
  | ended settled => exact .ended settled.printed
  | failed settled => exact .failed settled.printed
  | resumed settled rest => exact .resumed settled.printed rest

theorem execute_exchanges (tool : ToolDefinition) (arguments : Json.Members) :
    (execute tool arguments).Exchanges fun requests signals result =>
      signals = [] ∧ Executes requests result := by
  unfold execute
  split
  · exact exchanges_pure ⟨rfl, .here _⟩
  · exact exchanges_pure ⟨rfl, .here _⟩
  · apply exchanges_invoke
    intro outcome
    cases outcome with
    | ok outcome => exact exchanges_pure ⟨rfl, .answered _ _⟩
    | error e =>
      dsimp only
      split
      · exact exchanges_throw ⟨rfl, .aborted _ _⟩
      · exact exchanges_pure ⟨rfl, .answered _ _⟩

theorem skip_exchanges (st : RunState) :
    (skip st).Exchanges fun requests signals result =>
      signals = [] ∧ ∃ r : RunResult, result = .ok r ∧ r.steeringInterrupt = none ∧
        requests = [.append ⟨st.callId, .complete r.entry⟩] := by
  apply exchanges_record
  apply exchanges_pure
  exact ⟨rfl, _, rfl, rfl, rfl⟩

theorem interrupt_exchanges (st : RunState) (signal : Steering) :
    (interrupt st signal).Exchanges fun requests signals result =>
      signals = [] ∧ ∃ r : RunResult, result = .ok r ∧ r.steeringInterrupt = some signal ∧
        r.toolCallCount = st.toolCallCount ∧
        requests = [.append ⟨st.callId, .steeringInterrupt r.output r.printOutput signal⟩,
          .append ⟨st.callId, .complete r.entry⟩] := by
  apply exchanges_record
  apply exchanges_record
  apply exchanges_pure
  exact ⟨rfl, _, rfl, rfl, rfl, rfl⟩

theorem report_exchanges {call : CallEntry} {tool : ToolDefinition} (answer : CallAnswer)
    (work : Option Invocation) (known : call.counts st.definitions = true)
    (noSkip : call.toolName ≠ RuntimeTool.skipName) (name : call.toolName = tool.name) :
    (report { st with toolCallCount := st.toolCallCount + 1 } tool answer).Exchanges
      fun requests => Settles st
        (.append ⟨st.callId, .toolCall call⟩ :: (work.map .execute).toList ++ requests) := by
  unfold report
  rw [← name]
  apply exchanges_record
  apply exchanges_poll
  intro signal
  cases signal with
  | none => exact exchanges_pure (.calm work known noSkip)
  | some signal =>
    apply Exchanges.bind (interrupt_exchanges _ signal)
    · rintro requests signals e ⟨-, r, ⟨⟩, -⟩
    · rintro requests signals result ⟨rfl, r, ⟨⟩, names, count, rfl⟩
      exact exchanges_pure (.steered work known noSkip names count)

theorem settleTool_exchanges {call : CallEntry} {tool : ToolDefinition}
    (converted : Except ArgumentFault Json.Members) (known : call.counts st.definitions = true)
    (noSkip : call.toolName ≠ RuntimeTool.skipName) (name : call.toolName = tool.name) :
    (settleTool st tool converted).Exchanges fun requests =>
      Settles st (.append ⟨st.callId, .toolCall call⟩ :: requests) := by
  unfold settleTool
  cases converted with
  | error fault => exact report_exchanges _ none known noSkip name
  | ok arguments =>
    apply Exchanges.bind (execute_exchanges tool arguments)
    · rintro requests signals e ⟨rfl, ⟨⟩⟩
      exact .aborted
    · rintro requests signals answer ⟨rfl, executes⟩
      cases executes with
      | here => exact report_exchanges answer none known noSkip name
      | answered invocation =>
        exact report_exchanges answer (some invocation) known noSkip name

theorem counts_ofCall (definitions : List ToolDefinition) (made : ExternalCall) {call : CallEntry}
    (name : call.toolName = made.functionName) :
    call.counts definitions = match Pending.ofCall definitions made with
      | .unknown _ => false
      | .tool _ _ => true := by
  unfold CallEntry.counts Pending.ofCall
  rw [name]
  cases found : definitions.find? (·.name == made.functionName) with
  | none => simpa using found
  | some tool =>
    rw [List.any_eq_true]
    exact ⟨tool, List.mem_of_find?_eq_some found, by simpa using List.find?_some found⟩

theorem settle_exchanges (st : RunState) (call : CallEntry) (made : ExternalCall)
    (noSkip : made.functionName ≠ RuntimeTool.skipName)
    (name : call.toolName = (Pending.ofCall st.definitions made).toolName) :
    (settle st (Pending.ofCall st.definitions made)).Exchanges fun requests =>
      Settles st (.append ⟨st.callId, .toolCall call⟩ :: requests) := by
  have named : call.toolName = made.functionName := name.trans (toolName_ofCall _ made)
  have counts := counts_ofCall st.definitions made named
  rw [← named] at noSkip
  cases pending : Pending.ofCall st.definitions made with
  | unknown unknownName =>
    rw [pending] at name counts
    obtain rfl : unknownName = call.toolName := name.symm
    apply exchanges_record
    exact exchanges_pure (.unknown counts)
  | tool tool converted =>
    rw [pending] at name counts
    exact settleTool_exchanges converted counts noSkip name

theorem answerCall_exchanges (st : RunState) (call : ExternalCall) (checkpoint : Checkpoint) :
    (answerCall settle st call checkpoint).Exchanges (Settles st) := by
  unfold answerCall
  dsimp only
  split
  · apply Exchanges.bind (skip_exchanges _)
    · rintro requests signals e ⟨-, r, ⟨⟩, -⟩
    · rintro requests signals result ⟨rfl, r, ⟨⟩, calm, rfl⟩
      exact exchanges_pure (.skipped calm)
  · next noSkip =>
    let flushed := { st with prints := st.prints.flushTrailing }
    apply exchanges_record
    apply (settle_exchanges flushed (callEntry flushed call checkpoint) call noSkip rfl).mono
    intro requests signals outcome settled
    exact settled.printed

theorem drive_exchanges (rounds : Nat) (st : RunState) (step : Except WorkerError WorkerReply) :
    (drive rounds st step).Exchanges (GoesThrough st) := by
  -- on the rounds: a call that is settled ends the run or leaves one round less to go through
  induction rounds generalizing st step with
  | zero => exact exchanges_throw .unfinished
  | succ rounds ih =>
    match step with
    | .error e =>
      apply exchanges_record
      exact exchanges_throw .completed
    | .ok ⟨.finished output, prints⟩ =>
      apply exchanges_record
      exact exchanges_pure .completed
    | .ok ⟨.paused call checkpoint, prints⟩ =>
      show (round settle (drive rounds) st (.ok ⟨.paused call checkpoint, prints⟩)).Exchanges _
      rw [round_paused]
      apply Exchanges.bind (answerCall_exchanges _ call checkpoint)
      · intro requests signals e settled
        exact .failed settled.printed
      · intro requests signals settled answered
        match settled with
        | (st', .inr r) =>
          apply exchanges_pure
          simpa using GoesThrough.ended answered.printed
        | (st', .inl instruction) =>
          apply exchanges_resume
          intro reply
          apply (ih st' reply).mono
          intro more later result rest
          exact .resumed answered.printed rest

end Exchanges

section Settles

variable {st st' : RunState} {requests : List HostRequest} {signals : List (Option Steering)}

theorem polled_work (definitions : List ToolDefinition) (work : Option Invocation) :
    Polled definitions false (work.map .execute).toList := by
  cases work <;> simp [Polled, HostRequest.isPoll, HostRequest.answers]

theorem answers_of_counts {definitions : List ToolDefinition} {call : CallEntry} {callId text : String}
    {isError : Bool} (known : call.counts definitions = true)
    (noSkip : call.toolName ≠ RuntimeTool.skipName) :
    (HostRequest.append ⟨callId, .toolResult call.toolName text isError⟩).answers definitions =
      true := by
  unfold CallEntry.counts at known
  simp [HostRequest.answers, known, noSkip]

theorem Settles.polled {outcome : Except RunError (RunState × CallOutcome)}
    (h : Settles st requests signals outcome) : Polled st.definitions false requests := by
  cases h with
  | skipped calm => exact ⟨rfl, rfl⟩
  | aborted => exact ⟨rfl, rfl, rfl⟩
  | unknown unknown =>
    unfold CallEntry.counts at unknown
    simp [Polled, HostRequest.isPoll, HostRequest.answers, unknown]
  | calm work known noSkip =>
    refine ⟨rfl, (polled_work _ work).append ?_⟩
    exact ⟨rfl, (answers_of_counts known noSkip).symm, rfl⟩
  | steered work known noSkip names count =>
    refine ⟨rfl, (polled_work _ work).append ?_⟩
    exact ⟨rfl, (answers_of_counts known noSkip).symm, rfl, rfl, rfl⟩

theorem Settles.attended {outcome : Except RunError (RunState × CallOutcome)}
    (h : Settles st requests signals outcome) : AllAttended st.definitions outcome requests := by
  cases h with
  | skipped calm => simp [AllAttended]
  | @aborted call invocation reason =>
    refine ⟨?_, by simp [AllAttended]⟩
    rintro _ _ ⟨⟩ _
    exact .inr ⟨invocation, reason, rfl, rfl⟩
  | unknown unknown =>
    refine ⟨?_, by simp [AllAttended]⟩
    rintro _ _ ⟨⟩ known
    rw [unknown] at known
    cases known
  | calm work known noSkip =>
    refine ⟨?_, by cases work <;> simp [AllAttended]⟩
    rintro _ _ ⟨⟩ _
    exact .inl ⟨work, _, _, [], rfl⟩
  | steered work known noSkip names count =>
    refine ⟨?_, by cases work <;> simp [AllAttended]⟩
    rintro _ _ ⟨⟩ _
    exact .inl ⟨work, _, _, _, rfl⟩

theorem Settles.same {instruction : Instruction}
    (h : Settles st requests signals (.ok (st', .inl instruction))) :
    st'.definitions = st.definitions ∧ st'.callId = st.callId := by
  cases h <;> exact ⟨rfl, rfl⟩

end Settles

section GoesThrough

variable {st : RunState} {requests : List HostRequest} {signals : List (Option Steering)}
  {result : Except RunError RunResult}

theorem GoesThrough.polled (h : GoesThrough st requests signals result) :
    Polled st.definitions false requests := by
  induction h with
  | unfinished => rfl
  | completed => exact ⟨rfl, rfl⟩
  | ended settled => exact settled.polled
  | failed settled => exact settled.polled
  | resumed settled rest ih =>
    rw [settled.same.1] at ih
    apply settled.polled.append
    exact ⟨rfl, ih⟩

theorem GoesThrough.attended (h : GoesThrough st requests signals result) :
    AllAttended st.definitions result requests := by
  induction h with
  | unfinished => trivial
  | completed => simp [AllAttended]
  | ended settled =>
    apply settled.attended.mono
    rintro reason ⟨⟩
  | failed settled =>
    apply settled.attended.mono
    rintro reason ⟨⟩
    rfl
  | resumed settled rest ih =>
    rw [settled.same.1] at ih
    apply settled.attended.append
    exact ⟨by simp, ih⟩

theorem GoesThrough.steered (h : GoesThrough st requests signals result) {index : Nat}
    {signal : Steering} (steers : signals[index]? = some (some signal)) :
    SteeredAt st.callId st.toolCallCount index signal requests signals result := by
  -- every round before counts one call and takes one poll off the index
  induction h generalizing index with
  | unfinished => cases steers
  | completed => cases steers
  | ended settled =>
    cases settled with
    | skipped calm => cases steers
    | steered work known noSkip names counts =>
      cases index with
      | succ index => cases steers
      | zero =>
        cases steers
        exact (SteeredAt.here names counts).behind (_ :: (work.map .execute).toList)
  | failed settled =>
    cases settled
    cases steers
  | resumed settled rest ih =>
    cases settled with
    | unknown unknown => exact (ih steers).resumed _ _
    | calm work known noSkip =>
      cases index with
      | zero => cases steers
      | succ index => exact (ih steers).polled.resumed _ _

end GoesThrough

end Run

def Opening.callId : Opening → String
  | .fresh _ request => request.callId
  | .again callId _ => callId

def Opening.count : Opening → UInt64
  | .fresh _ _ => 0
  | .again _ call => call.toolCallCount

theorem Run.begin_exchanges (tools : List ToolDefinition) (opening : Opening) :
    (Run.begin tools opening).Exchanges fun requests signals result =>
      signals = [] ∧ Polled (RuntimeTool.extend tools) false requests ∧
      AllAttended (RuntimeTool.extend tools) result requests ∧
      ∀ st first, result = .ok (st, first) →
        st.definitions = RuntimeTool.extend tools ∧ st.callId = opening.callId ∧
          st.toolCallCount = opening.count := by
  cases opening with
  | fresh limits request =>
    apply exchanges_record
    apply exchanges_start
    intro first
    apply exchanges_pure
    refine ⟨rfl, ⟨rfl, rfl, rfl⟩, by simp [AllAttended], ?_⟩
    rintro _ _ ⟨⟩
    exact ⟨rfl, rfl, rfl⟩
  | again callId call =>
    simp only [begin]
    split
    · apply exchanges_throw
      refine ⟨rfl, rfl, trivial, ?_⟩
      rintro _ _ ⟨⟩
    · apply exchanges_resume
      intro first
      apply exchanges_pure
      refine ⟨rfl, ⟨rfl, rfl⟩, by simp [AllAttended], ?_⟩
      rintro _ _ ⟨⟩
      exact ⟨rfl, rfl, rfl⟩

theorem Run.whole_exchanges (rounds : Nat) (tools : List ToolDefinition) (opening : Opening) :
    (Run.whole rounds tools opening).Exchanges fun requests signals result =>
      Polled (RuntimeTool.extend tools) false requests ∧
      AllAttended (RuntimeTool.extend tools) result requests ∧
      ∀ (index : Nat) signal, signals[index]? = some (some signal) →
        SteeredAt opening.callId opening.count index signal requests signals result := by
  apply Exchanges.bind (begin_exchanges tools opening)
  · rintro requests _ e ⟨rfl, polled, attended, -⟩
    refine ⟨polled, attended.mono ?_, ?_⟩
    · rintro reason ⟨⟩
      rfl
    · intro index signal steers
      cases steers
  · rintro requests _ ⟨st, first⟩ ⟨rfl, polled, attended, opened⟩
    obtain ⟨definitions, callId, count⟩ := opened st first rfl
    rw [← definitions] at polled attended ⊢
    rw [← callId, ← count]
    apply (drive_exchanges rounds st first).mono
    intro more signals result goesThrough
    refine ⟨polled.append goesThrough.polled, attended.append goesThrough.attended, ?_⟩
    intro index signal steers
    exact (goesThrough.steered steers).behind requests

/-- The host with a poll that sees its state, and changes only a state of its own. -/
def Host.polled {σ ρ : Type} (host : Host σ) (poll : σ → ρ → Option Steering × ρ) :
    Host (σ × ρ) where
  append record s :=
    let (answer, rest) := host.append record s.1
    (answer, (rest, s.2))
  start payload s :=
    let (reply, rest) := host.start payload s.1
    (reply, (rest, s.2))
  resume payload s :=
    let (reply, rest) := host.resume payload s.1
    (reply, (rest, s.2))
  execute call s :=
    let (outcome, rest) := host.execute call s.1
    (outcome, (rest, s.2))
  poll s :=
    let (signal, own) := poll s.1 s.2
    (signal, (s.1, own))

def Host.unpolled {σ : Type} (host : Host σ) : Host σ := { host with poll := fun s => (none, s) }

theorem Plan.run_unpolled {α σ ρ : Type} {host : Host σ} {poll : σ → ρ → Option Steering × ρ}
    {p : Plan α} {s : σ} {own : ρ}
    (quiet : ∀ signal ∈ p.signals (host.polled poll) (s, own), signal = none) :
    p.trace (host.polled poll) (s, own) = p.trace host.unpolled s ∧
      (p.run (host.polled poll) (s, own)).1 = (p.run host.unpolled s).1 ∧
      (p.run (host.polled poll) (s, own)).2.1 = (p.run host.unpolled s).2 := by
  induction p generalizing s own with
  | done a => exact ⟨rfl, rfl, rfl⟩
  | poll next ih =>
    have step : (host.polled poll).poll (s, own) = ((poll s own).1, s, (poll s own).2) := rfl
    simp only [signals, List.forall_mem_cons, step] at quiet
    obtain ⟨first, later⟩ := quiet
    rw [first] at later step
    obtain ⟨trace, run⟩ := ih none later
    simp only [Plan.trace, Plan.run, step]
    exact ⟨congrArg (HostRequest.poll :: ·) trace, run⟩
  | _ _ next ih =>
    obtain ⟨trace, run⟩ := ih _ quiet
    exact ⟨congrArg (_ :: ·) trace, run⟩

open Run

/-- On a host that stores its records, a poll is next if and only if the answer of a tool has just
been recorded. Every call of a tool comes to such an answer, unless the tool gives the run up. The
first message ends the run there; until one comes the run is that without a poll. -/
theorem steering_ends_run {σ : Type} (host : Host σ) (stores : host.Stores) (rounds : Nat)
    (tools : List ToolDefinition) (opening : Opening) (s : σ) :
    let run := Run.whole rounds tools opening
    let requests := Plan.trace host run s
    let signals := Plan.signals host run s
    let result := (Plan.run host run s).1
    (∀ before after, requests = before ++ after →
      (after.head? = some .poll ↔ ∃ callId name text isError,
        before.getLast? = some (.append ⟨callId, .toolResult name text isError⟩) ∧
          name ≠ RuntimeTool.skipName ∧ ∃ tool ∈ RuntimeTool.extend tools, tool.name = name)) ∧
    (∀ before callId call after, requests = before ++ .append ⟨callId, .toolCall call⟩ :: after →
      call.counts (RuntimeTool.extend tools) = true → Attended result callId call after) ∧
    signals.length = requests.countP HostRequest.isPoll ∧
    (∀ (index : Nat) signal, signals[index]? = some (some signal) →
      SteeredAt opening.callId opening.count index signal requests signals result) ∧
    (∀ (ρ : Type) (poll : σ → ρ → Option Steering × ρ) (own : ρ),
      let polled := host.polled poll
      (∀ signal ∈ Plan.signals polled run (s, own), signal = none) →
        Plan.trace polled run (s, own) = Plan.trace host.unpolled run s ∧
        (Plan.run polled run (s, own)).1 = (Plan.run host.unpolled run s).1 ∧
        (Plan.run polled run (s, own)).2.1 = (Plan.run host.unpolled run s).2) := by
  intro run requests signals result
  obtain ⟨polled, attended, steered⟩ := (Run.whole_exchanges rounds tools opening).sound stores s
  refine ⟨?next, ?attended, Plan.length_signals host run s, steered, ?unpolled⟩
  case next =>
    intro before after split
    have polled : Polled (RuntimeTool.extend tools) false requests := polled
    rw [split] at polled
    exact polled.poll_iff
  case attended =>
    intro before callId call after split known
    have attended : AllAttended (RuntimeTool.extend tools) result requests := attended
    rw [split] at attended
    exact attended.behind known
  case unpolled =>
    intro ρ poll own polled quiet
    exact Plan.run_unpolled quiet

def repeatingHost : Host Nat where
  append _ n := (.ok (), n)
  start _ n := (.ok ⟨.paused ⟨"lookup", [.null], []⟩ ⟨[1]⟩, []⟩, n)
  resume _ n := (.ok ⟨.paused ⟨"lookup", [], []⟩ ⟨[1]⟩, []⟩, n)
  execute _ n := (.ok (.ofText "found"), n)
  poll n := (if n = 0 then none else some { text := "stop" }, n + 1)

theorem steering_ends_run_secondCall :
    let run := Run.whole 9 [{ name := "lookup" }]
      (.fresh {} { callId := "7", code := "", preamble := some "" })
    repeatingHost.Stores ∧
      SteeredAt "7" 0 1 { text := "stop" } (Plan.trace repeatingHost run 0)
        (Plan.signals repeatingHost run 0) (Plan.run repeatingHost run 0).1 := by
  intro run
  have stores : repeatingHost.Stores := fun _ _ => rfl
  have signals : Plan.signals repeatingHost run 0 = [none, some { text := "stop" }] := rfl
  obtain ⟨-, -, -, steered, -⟩ := steering_ends_run repeatingHost stores 9 [{ name := "lookup" }]
    (.fresh {} { callId := "7", code := "", preamble := some "" }) 0
  exact ⟨stores, steered 1 { text := "stop" } (by rw [signals]; rfl)⟩

end ResumableScript
