import Mathlib.Tactic.Basic
import ResumableScript.Proofs.Run.Ensures

/-! The grammar of histories. A run records its calls in pairs of a call and its result, and ends in
one of a few ways; its counts and lines are those of the calls before. -/
namespace ResumableScript

structure SettledCall where
  call : CallEntry
  text : String
  isError : Bool

inductive HistoryEnd where
  | complete (c : CompleteEntry)
  | steered (output : String) (lines : List String) (steering : Steering) (c : CompleteEntry)
  | aborted (call : CallEntry)
  | unfinished

def SettledCall.entries (s : SettledCall) : List Entry :=
  [.toolCall s.call, .toolResult s.call.toolName s.text s.isError]

def RunResult.entry (result : RunResult) : CompleteEntry where
  output := result.output
  printOutput := result.printOutput
  toolCallCount := result.toolCallCount
  isError := false

namespace HistoryEnd

def entries : HistoryEnd → List Entry
  | complete c => [.complete c]
  | steered output lines steering c => [.steeringInterrupt output lines steering, .complete c]
  | aborted call => [.toolCall call]
  | unfinished => []

/-- The end of a history, behind so many settled calls, is that of a run with this result. -/
def Fits (rounds settled : Nat) : HistoryEnd → Except RunError RunResult → Prop
  | complete c, .ok result => c = result.entry ∧ result.steeringInterrupt = none
  | complete c, .error (.worker e) => c.output = "" ∧ c.isError = true ∧ c.error = some e.text
  | steered output lines steering c, .ok result =>
    0 < settled ∧ c = result.entry ∧ output = result.output ∧ lines = result.printOutput ∧
      result.steeringInterrupt = some steering
  | aborted _, .error (.aborted _) => True
  | unfinished, .error .unfinished => settled = rounds
  | _, _ => False

theorem Fits.succ {rounds settled : Nat} {ending : HistoryEnd} {result : Except RunError RunResult}
    (h : ending.Fits rounds settled result) : ending.Fits (rounds + 1) (settled + 1) result := by
  unfold Fits at h ⊢
  split at h
  · exact h
  · exact h
  · exact ⟨Nat.succ_pos _, h.2⟩
  · trivial
  · exact congrArg (· + 1) h
  · exact h.elim

end HistoryEnd

def Entry.call? : Entry → Option CallEntry
  | .toolCall call => some call
  | _ => none

def Entry.lines? : Entry → Option (List String)
  | .toolCall call => some call.printOutput
  | .complete c => some c.printOutput
  | .steeringInterrupt _ lines _ => some lines
  | .start .. | .toolResult .. => none

def callsOf (entries : List Entry) : List CallEntry := entries.filterMap Entry.call?

def CallEntry.counts (definitions : List ToolDefinition) (call : CallEntry) : Bool :=
  definitions.any (·.name == call.toolName)

/-- Every call tells how many were counted before it, and a complete entry how many there were. -/
structure Counted (definitions : List ToolDefinition) (count : UInt64) (entries : List Entry) :
    Prop where
  calls : ∀ before call after, callsOf entries = before ++ call :: after →
    call.toolCallCount = count + UInt64.ofNat (before.countP (CallEntry.counts definitions))
  complete : ∀ c, .complete c ∈ entries →
    c.toolCallCount = count + UInt64.ofNat ((callsOf entries).countP (CallEntry.counts definitions))

/-- The records of a run behind a count of calls and printed lines. -/
structure HistoryOf (definitions : List ToolDefinition) (callId : String) (count : UInt64)
    (lines : List String) (settled : List SettledCall) (ending : HistoryEnd)
    (records : List Record) : Prop where
  grammar : records.map (·.entry) = settled.flatMap SettledCall.entries ++ ending.entries
  callId : ∀ record ∈ records, record.callId = callId
  counted : Counted definitions count (records.map (·.entry))
  lines : (lines :: (records.map (·.entry)).filterMap Entry.lines?).Pairwise (· <+: ·)

section Counted

variable {definitions : List ToolDefinition} {count : UInt64}

theorem counted_nil : Counted definitions count [] where
  calls before call after same := by simp [callsOf] at same
  complete c member := by cases member

theorem Counted.skip {entry : Entry} {entries : List Entry} (noCall : entry.call? = none)
    (open_ : ∀ c, entry ≠ .complete c) (h : Counted definitions count entries) :
    Counted definitions count (entry :: entries) where
  calls := by
    rw [callsOf, List.filterMap_cons_none noCall]
    exact h.calls
  complete c member := by
    rw [callsOf, List.filterMap_cons_none noCall]
    obtain same | member := List.mem_cons.mp member
    · exact absurd same.symm (open_ c)
    · exact h.complete c member

theorem counted_complete {c : CompleteEntry} (same : c.toolCallCount = count) :
    Counted definitions count [.complete c] where
  calls before call after split := by
    have none : callsOf [.complete c] = [] := rfl
    simp [none] at split
  complete c' member := by
    cases List.mem_singleton.mp member
    have none : callsOf [.complete c] = [] := rfl
    simp [none, same]

theorem Counted.call {call : CallEntry} {entries : List Entry} (same : call.toolCallCount = count)
    (h : Counted definitions (count + if call.counts definitions then 1 else 0) entries) :
    Counted definitions count (.toolCall call :: entries) where
  calls before call' after split := by
    have split : call :: callsOf entries = before ++ call' :: after := split
    cases before with
    | nil =>
      obtain ⟨rfl, -⟩ := List.cons.inj split
      simpa using same
    | cons first before =>
      obtain ⟨rfl, rest⟩ := List.cons.inj split
      rw [h.calls before call' after rest, List.countP_cons]
      cases call.counts definitions <;> simp [UInt64.add_assoc, UInt64.add_comm]
  complete c member := by
    have member : .complete c ∈ entries := by simpa using member
    have split : callsOf (.toolCall call :: entries) = call :: callsOf entries := rfl
    rw [h.complete c member, split, List.countP_cons]
    cases call.counts definitions <;> simp [UInt64.add_assoc, UInt64.add_comm]

end Counted

section HistoryOf

variable {definitions : List ToolDefinition} {callId : String} {count : UInt64}
  {lines : List String} {settled : List SettledCall} {ending : HistoryEnd} {records : List Record}

theorem pairwise_prefix_cons {first second : List String} {rest : List (List String)}
    (grown : first <+: second) (h : (second :: rest).Pairwise (· <+: ·)) :
    (first :: second :: rest).Pairwise (· <+: ·) := by
  refine List.pairwise_cons.mpr ⟨fun later member => ?_, h⟩
  obtain rfl | member := List.mem_cons.mp member
  · exact grown
  · exact grown.trans (List.rel_of_pairwise_cons h member)

theorem HistoryOf.grow {lines' : List String} (grown : lines <+: lines')
    (h : HistoryOf definitions callId count lines' settled ending records) :
    HistoryOf definitions callId count lines settled ending records where
  grammar := h.grammar
  callId := h.callId
  counted := h.counted
  lines := by
    obtain ⟨behind, rest⟩ := List.pairwise_cons.mp h.lines
    exact List.pairwise_cons.mpr ⟨fun later member => grown.trans (behind later member), rest⟩

theorem historyOf_nil : HistoryOf definitions callId count lines [] .unfinished [] where
  grammar := rfl
  callId _ member := by cases member
  counted := counted_nil
  lines := List.pairwise_singleton _ _

theorem historyOf_complete {c : CompleteEntry} (counts : c.toolCallCount = count)
    (grown : lines <+: c.printOutput) :
    HistoryOf definitions callId count lines [] (.complete c) [⟨callId, .complete c⟩] where
  grammar := rfl
  callId record member := by rw [List.mem_singleton.mp member]
  counted := counted_complete counts
  lines := pairwise_prefix_cons grown (List.pairwise_singleton _ _)

theorem historyOf_steered {output : String} {steering : Steering} {c : CompleteEntry}
    (counts : c.toolCallCount = count) (grown : lines <+: c.printOutput) :
    HistoryOf definitions callId count lines [] (.steered output c.printOutput steering c)
      [⟨callId, .steeringInterrupt output c.printOutput steering⟩, ⟨callId, .complete c⟩] where
  grammar := rfl
  callId record member := by
    obtain rfl | member := List.mem_cons.mp member
    · rfl
    · rw [List.mem_singleton.mp member]
  counted := .skip rfl nofun (counted_complete counts)
  lines :=
    pairwise_prefix_cons grown (pairwise_prefix_cons List.prefix_rfl (List.pairwise_singleton _ _))

theorem historyOf_aborted {call : CallEntry} (counts : call.toolCallCount = count)
    (grown : lines <+: call.printOutput) :
    HistoryOf definitions callId count lines [] (.aborted call) [⟨callId, .toolCall call⟩] where
  grammar := rfl
  callId record member := by rw [List.mem_singleton.mp member]
  counted := .call counts counted_nil
  lines := pairwise_prefix_cons grown (List.pairwise_singleton _ _)

theorem HistoryOf.pair {call : CallEntry} {text : String} {isError : Bool}
    (counts : call.toolCallCount = count) (grown : lines <+: call.printOutput)
    (h : HistoryOf definitions callId (count + if call.counts definitions then 1 else 0)
      call.printOutput settled ending records) :
    HistoryOf definitions callId count lines (⟨call, text, isError⟩ :: settled) ending
      (⟨callId, .toolCall call⟩ :: ⟨callId, .toolResult call.toolName text isError⟩ :: records) where
  grammar := congrArg (fun entries => Entry.toolCall call :: .toolResult call.toolName text isError ::
    entries) h.grammar
  callId record member := by
    obtain rfl | member := List.mem_cons.mp member
    · rfl
    obtain rfl | member := List.mem_cons.mp member
    · rfl
    exact h.callId record member
  counted := .call counts (.skip rfl nofun h.counted)
  lines := pairwise_prefix_cons grown h.lines

end HistoryOf

/-- The records and the outcome of a run that goes on from a state for so many rounds. -/
def RunState.Continues (st : RunState) (rounds : Nat) (records : List Record)
    (result : Except RunError RunResult) : Prop :=
  ∃ settled ending, ending.Fits rounds settled.length result ∧
    HistoryOf st.definitions st.callId st.toolCallCount st.prints.lines settled ending records

namespace RunState

variable {st : RunState} {rounds : Nat} {records : List Record} {result : Except RunError RunResult}

theorem Continues.grow {prints : PrintCapture} (grown : st.prints.lines <+: prints.lines)
    (h : { st with prints := prints }.Continues rounds records result) :
    st.Continues rounds records result := by
  obtain ⟨settled, ending, fits, history⟩ := h
  exact ⟨settled, ending, fits, history.grow grown⟩

theorem continues_result {r : RunResult} (counts : r.toolCallCount = st.toolCallCount)
    (grown : st.prints.lines <+: r.printOutput) (calm : r.steeringInterrupt = none) :
    st.Continues rounds [⟨st.callId, .complete r.entry⟩] (.ok r) :=
  ⟨[], .complete r.entry, ⟨rfl, calm⟩, historyOf_complete counts grown⟩

theorem Continues.pair {call : CallEntry} {count : UInt64} {text : String} {isError : Bool}
    (counts : call.toolCallCount = st.toolCallCount) (lines : call.printOutput = st.prints.lines)
    (counted : count = st.toolCallCount + if call.counts st.definitions then 1 else 0)
    (h : { st with toolCallCount := count }.Continues rounds records result) :
    st.Continues (rounds + 1)
      (⟨st.callId, .toolCall call⟩ :: ⟨st.callId, .toolResult call.toolName text isError⟩ :: records)
      result := by
  obtain ⟨settled, ending, fits, history⟩ := h
  subst counted
  refine ⟨⟨call, text, isError⟩ :: settled, ending, fits.succ, .pair counts ?_ ?_⟩
  · exact lines ▸ List.prefix_rfl
  · rw [lines]
    exact history

theorem continues_steered {call : CallEntry} {text : String} {isError : Bool} {r : RunResult}
    {steering : Steering} (counts : call.toolCallCount = st.toolCallCount)
    (lines : call.printOutput = st.prints.lines)
    (counted : r.toolCallCount = st.toolCallCount + if call.counts st.definitions then 1 else 0)
    (grown : st.prints.lines <+: r.printOutput) (steered : r.steeringInterrupt = some steering) :
    st.Continues (rounds + 1)
      [⟨st.callId, .toolCall call⟩, ⟨st.callId, .toolResult call.toolName text isError⟩,
        ⟨st.callId, .steeringInterrupt r.output r.printOutput steering⟩,
        ⟨st.callId, .complete r.entry⟩]
      (.ok r) := by
  refine ⟨[⟨call, text, isError⟩], .steered r.output r.printOutput steering r.entry,
    ⟨Nat.one_pos, rfl, rfl, rfl, steered⟩, .pair counts ?_ ?_⟩
  · exact lines ▸ List.prefix_rfl
  · rw [lines]
    exact historyOf_steered (c := r.entry) counted grown

theorem continues_aborted {call : CallEntry} {reason : String}
    (counts : call.toolCallCount = st.toolCallCount) (lines : call.printOutput = st.prints.lines) :
    st.Continues rounds [⟨st.callId, .toolCall call⟩] (.error (.aborted reason)) :=
  ⟨[], .aborted call, trivial, historyOf_aborted counts (lines ▸ List.prefix_rfl)⟩

end RunState

namespace Run

theorem finish_continues (st : RunState) (output : Json) (rounds : Nat) :
    (finish st output).Ensures (st.Continues rounds) :=
  ensures_record <| ensures_pure <|
    RunState.continues_result rfl st.prints.lines_flushTrailing rfl

theorem skip_continues (st : RunState) (rounds : Nat) :
    (skip st).Ensures (st.Continues rounds) :=
  ensures_record <| ensures_pure <| RunState.continues_result rfl List.prefix_rfl rfl

theorem fail_continues (st : RunState) (e : WorkerError) (rounds : Nat) :
    (fail st e).Ensures (st.Continues rounds) := by
  have grown : st.prints.lines <+: ((st.prints.extend e.printOutput).flushTrailing).lines :=
    (st.prints.lines_extend _).trans (PrintCapture.lines_flushTrailing _)
  refine ensures_record (ensures_throw ⟨[], .complete _, ?_, historyOf_complete rfl grown⟩)
  exact ⟨rfl, rfl, rfl⟩

/-- An executed call comes to an answer or is aborted, and records nothing. -/
theorem execute_ensures {tool : ToolDefinition} {arguments : Json.Members}
    {Q : List Record → Except RunError CallAnswer → Prop} (answered : ∀ answer, Q [] (.ok answer))
    (aborted : ∀ reason, Q [] (.error (.aborted reason))) : (execute tool arguments).Ensures Q := by
  unfold execute
  split
  · exact ensures_pure (answered _)
  · exact ensures_pure (answered _)
  · refine ensures_invoke fun outcome => ?_
    cases outcome with
    | ok outcome => exact ensures_pure (answered _)
    | error e =>
      dsimp only
      split
      · exact ensures_throw (aborted _)
      · exact ensures_pure (answered _)

theorem interrupt_ensures {st : RunState} {steering : Steering}
    {Q : List Record → Except RunError RunResult → Prop}
    (h : ∀ r : RunResult, r.toolCallCount = st.toolCallCount → st.prints.lines <+: r.printOutput →
      r.steeringInterrupt = some steering →
      Q [⟨st.callId, .steeringInterrupt r.output r.printOutput steering⟩,
        ⟨st.callId, .complete r.entry⟩] (.ok r)) : (interrupt st steering).Ensures Q := by
  have flushed := h
    { output := steeringOutput st.prints.flushTrailing.lines steering
      printOutput := st.prints.flushTrailing.lines
      toolCallCount := st.toolCallCount
      steeringInterrupt := some steering } rfl st.prints.lines_flushTrailing rfl
  exact ensures_record (ensures_record (ensures_pure flushed))

/-- What follows a call goes on from the state behind it, or ends with the result. -/
structure GoesOn (next : RunState × CallOutcome → Run RunResult) (rounds : Nat) : Prop where
  ended : ∀ st result, next (st, .inr result) = pure result
  continued : ∀ st instruction, (next (st, .inl instruction)).Ensures (st.Continues rounds)

theorem GoesOn.following_ended {next : RunState × CallOutcome → Run RunResult} {rounds : Nat}
    (follows : GoesOn next rounds) {st : RunState} {result : RunResult} {records : List Record}
    {Q : List Record → Except RunError RunResult → Prop} (h : Q records (.ok result)) :
    Following next Q records (.ok (st, .inr result)) := by
  unfold Following
  dsimp only
  rw [follows.ended]
  refine ensures_pure ?_
  rw [List.append_nil]
  exact h

section Settle

variable {st : RunState} {rounds : Nat} {call : CallEntry}
  {next : RunState × CallOutcome → Run RunResult}

theorem settleUnknown_continues (follows : GoesOn next rounds)
    (counts : call.toolCallCount = st.toolCallCount) (lines : call.printOutput = st.prints.lines)
    (unknown : call.counts st.definitions = false) :
    (settleUnknown st call.toolName).Ensures fun records =>
      Following next (st.Continues (rounds + 1)) (⟨st.callId, .toolCall call⟩ :: records) := by
  refine ensures_record (ensures_pure ((follows.continued st _).mono fun records result h => ?_))
  exact .pair counts lines (by simp [unknown]) h

theorem report_continues (follows : GoesOn next rounds) {tool : ToolDefinition} {count : UInt64}
    (answer : CallAnswer) (name : call.toolName = tool.name)
    (counts : call.toolCallCount = st.toolCallCount) (lines : call.printOutput = st.prints.lines)
    (counted : count = st.toolCallCount + if call.counts st.definitions then 1 else 0) :
    (report { st with toolCallCount := count } tool answer).Ensures fun records =>
      Following next (st.Continues (rounds + 1)) (⟨st.callId, .toolCall call⟩ :: records) := by
  unfold report
  rw [← name]
  refine ensures_record (ensures_poll fun signal => ?_)
  cases signal with
  | none =>
    refine ensures_pure ((follows.continued _ _).mono fun records result h => ?_)
    exact .pair counts lines counted h
  | some steering =>
    refine Ensures.bind (interrupt_ensures fun r counts' grown steered => ensures_pure ?_)
    exact follows.following_ended
      (RunState.continues_steered counts lines (counts'.trans counted) grown steered)

theorem settleTool_continues (follows : GoesOn next rounds) {tool : ToolDefinition}
    (converted : Except ArgumentFault Json.Members) (name : call.toolName = tool.name)
    (counts : call.toolCallCount = st.toolCallCount) (lines : call.printOutput = st.prints.lines)
    (known : call.counts st.definitions = true) :
    (settleTool st tool converted).Ensures fun records =>
      Following next (st.Continues (rounds + 1)) (⟨st.callId, .toolCall call⟩ :: records) := by
  have counted : st.toolCallCount + 1 =
      st.toolCallCount + if call.counts st.definitions then 1 else 0 := by rw [known]; rfl
  unfold settleTool
  cases converted with
  | error fault => exact report_continues follows _ name counts lines counted
  | ok arguments =>
    refine Ensures.bind (execute_ensures (fun answer => ?_) fun reason => ?_)
    · exact report_continues follows answer name counts lines counted
    · exact RunState.continues_aborted counts lines

/-- A recorded call is settled by whether its function is a tool, and so counts by that. -/
theorem settle_continues (follows : GoesOn next rounds) (made : ExternalCall)
    (name : call.toolName = (Pending.ofCall st.definitions made).toolName)
    (counts : call.toolCallCount = st.toolCallCount) (lines : call.printOutput = st.prints.lines) :
    (settle st (Pending.ofCall st.definitions made)).Ensures fun records =>
      Following next (st.Continues (rounds + 1)) (⟨st.callId, .toolCall call⟩ :: records) := by
  unfold Pending.ofCall at name ⊢
  cases found : st.definitions.find? (·.name == made.functionName) with
  | none =>
    rw [found] at name
    have unknown : call.counts st.definitions = false := by
      unfold CallEntry.counts
      rw [List.any_eq_false, name]
      exact List.find?_eq_none.mp found
    have settled := settleUnknown_continues follows counts lines unknown
    rw [name] at settled
    exact settled
  | some tool =>
    rw [found] at name
    have known : call.counts st.definitions = true := by
      unfold CallEntry.counts
      rw [List.any_eq_true, name]
      exact ⟨tool, List.mem_of_find?_eq_some found, beq_self_eq_true _⟩
    exact settleTool_continues follows _ name counts lines known

end Settle

theorem answerCall_continues {next : RunState × CallOutcome → Run RunResult} {rounds : Nat}
    (follows : GoesOn next rounds) (st : RunState) (call : ExternalCall) (checkpoint : Checkpoint) :
    (answerCall settle st call checkpoint).Ensures (Following next (st.Continues (rounds + 1))) := by
  have flushed : (answerCall settle st call checkpoint).Ensures
      (Following next ({ st with prints := st.prints.flushTrailing }.Continues (rounds + 1))) := by
    unfold answerCall
    dsimp only
    split
    · refine Ensures.bind ((skip_continues _ (rounds + 1)).mono fun records result h => ?_)
      cases result with
      | ok result =>
        refine ensures_pure (follows.following_ended ?_)
        rw [List.append_nil]
        exact h
      | error e => exact h
    · exact ensures_record (settle_continues follows call rfl rfl rfl)
  exact flushed.mono fun records result h =>
    h.mono fun records result h => h.grow st.prints.lines_flushTrailing

theorem round_continues
    {next : RunState → Except WorkerError WorkerReply → Run RunResult} {rounds : Nat}
    (goesOn : ∀ st reply, (next st reply).Ensures (st.Continues rounds)) (st : RunState)
    (step : Except WorkerError WorkerReply) :
    (round settle next st step).Ensures (st.Continues (rounds + 1)) := by
  unfold round
  cases step with
  | error e => exact fail_continues st e _
  | ok reply =>
    have grow records result
        (h : { st with prints := st.prints.extend reply.printOutput }.Continues (rounds + 1) records
          result) : st.Continues (rounds + 1) records result :=
      h.grow (st.prints.lines_extend _)
    dsimp only
    cases reply.progress with
    | finished output => exact (finish_continues _ output _).mono grow
    | paused call checkpoint =>
      refine Ensures.mono (Ensures.bind (answerCall_continues ⟨fun _ _ => rfl, ?_⟩ _ call checkpoint))
        grow
      exact fun st instruction => ensures_resume fun reply => goesOn st reply

/-- Whatever is answered, a run that goes on from a state has a history of it. -/
theorem drive_continues (rounds : Nat) (st : RunState) (step : Except WorkerError WorkerReply) :
    (drive rounds st step).Ensures (st.Continues rounds) := by
  induction rounds generalizing st step with
  | zero => exact ensures_throw ⟨[], .unfinished, rfl, historyOf_nil⟩
  | succ rounds ih => exact round_continues ih st step

end Run

open Run

/-- The records of a run are its start, pairs of a call and its result, and one of the ends that
fits the result of the run. They carry the call's id, count the calls of tools before them, and
repeat the lines before them. A run taken up from the record of a call goes on from the count and
the lines of that record, without a start; it records nothing if the checkpoint cannot be read. -/
theorem history_grammar {σ : Type} (host : Host σ) (stores : host.Stores) (rounds : Nat)
    (tools : List ToolDefinition) (s : σ) :
    let definitions := RuntimeTool.extend tools
    (∀ limits request,
      let run := Run.fresh rounds limits tools request
      let preamble := request.preamble.getD (Preamble.build definitions)
      ∃ settled ending records,
        recordsOf (Plan.trace host run s) =
          ⟨request.callId, .start request.code preamble⟩ :: records ∧
        ending.Fits rounds settled.length (Plan.run host run s).1 ∧
        HistoryOf definitions request.callId 0 [] settled ending records) ∧
    (∀ callId call checkpoint, call.decode = .ok checkpoint →
      let run := Run.recover rounds tools callId call
      ∃ settled ending,
        ending.Fits rounds settled.length (Plan.run host run s).1 ∧
        HistoryOf definitions callId call.toolCallCount call.printOutput settled ending
          (recordsOf (Plan.trace host run s))) ∧
    (∀ callId call fault, call.decode = .error fault →
      let run := Run.recover rounds tools callId call
      recordsOf (Plan.trace host run s) = [] ∧ (Plan.run host run s).1 = .error (.snapshot fault)) := by
  refine ⟨fun limits request => ?_, fun callId call checkpoint readable => ?_,
    fun callId call fault unreadable => ?_⟩
  · have begun : (fresh rounds limits tools request).Ensures fun records result =>
        ∃ settled ending rest, records = ⟨request.callId, .start request.code
            (request.preamble.getD (Preamble.build (RuntimeTool.extend tools)))⟩ :: rest ∧
          ending.Fits rounds settled.length result ∧
          HistoryOf (RuntimeTool.extend tools) request.callId 0 [] settled ending rest := by
      refine Ensures.bind (ensures_record (ensures_start fun first => ensures_pure ?_))
      refine (drive_continues rounds _ first).mono fun rest result continues => ?_
      obtain ⟨settled, ending, fits, history⟩ := continues
      exact ⟨settled, ending, rest, rfl, fits, history⟩
    exact Plan.Ensures.sound stores begun s
  · have again : (recover rounds tools callId call).Ensures
        (RunState.Continues ⟨callId, RuntimeTool.extend tools, .seeded call.printOutput,
          call.toolCallCount⟩ rounds) := by
      refine Ensures.bind ?_
      simp only [begin, readable]
      exact ensures_resume fun first => ensures_pure (drive_continues rounds _ first)
    exact Plan.Ensures.sound stores again s
  · have refused : (recover rounds tools callId call).Ensures fun records result =>
        records = [] ∧ result = .error (.snapshot fault) := by
      refine Ensures.bind ?_
      simp only [begin, unreadable]
      exact ensures_throw ⟨rfl, rfl⟩
    exact Plan.Ensures.sound stores refused s

def oneCallHost : Host Unit where
  append _ s := (.ok (), s)
  start _ s := (.ok ⟨.paused ⟨"lookup", [.null], []⟩ ⟨[1]⟩, []⟩, s)
  resume _ s := (.ok ⟨.finished .null, []⟩, s)
  execute _ s := (.ok (.ofText "found"), s)
  poll s := (none, s)

theorem history_grammar_oneCall :
    let tools : List ToolDefinition := [{ name := "lookup" }]
    let run := Run.fresh 2 {} tools { callId := "7", code := "", preamble := some "" }
    oneCallHost.Stores ∧ ∃ settled ending records,
      recordsOf (Plan.trace oneCallHost run ()) = ⟨"7", .start "" ""⟩ :: records ∧
      ending.Fits 2 settled.length (Plan.run oneCallHost run ()).1 ∧
      HistoryOf (RuntimeTool.extend tools) "7" 0 [] settled ending records := by
  have stores : oneCallHost.Stores := fun _ _ => rfl
  exact ⟨stores, (history_grammar oneCallHost stores 2 [{ name := "lookup" }] ()).1 {}
    { callId := "7", code := "", preamble := some "" }⟩

end ResumableScript
