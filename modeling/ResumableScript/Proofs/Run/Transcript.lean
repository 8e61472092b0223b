import Mathlib.Tactic.Basic
import ResumableScript.Proofs.Run.Still

/-! What passes between a run and its host: every request with its answer, in order. A plan is given
these answers by whoever answers it, so that what a run does behind one of them can be read off the
plan alone. Behind a step that pauses, a run goes on as from a state with the same tools. -/
namespace ResumableScript

inductive Turn where
  | append (record : Record) (stored : Except String Unit)
  | start (payload : StartPayload) (reply : Except WorkerError WorkerReply)
  | resume (payload : ResumePayload) (reply : Except WorkerError WorkerReply)
  | execute (call : Invocation) (outcome : Except ExecutorError ToolOutcome)
  | poll (signal : Option Steering)

def Turn.request : Turn → HostRequest
  | append record _ => .append record
  | start payload _ => .start payload
  | resume payload _ => .resume payload
  | execute call _ => .execute call
  | poll _ => .poll

def Turn.reply? : Turn → Option (Except WorkerError WorkerReply)
  | .start _ reply | .resume _ reply => some reply
  | .append .. | .execute .. | .poll _ => none

def Turn.Pauses (turn : Turn) (call : ExternalCall) (checkpoint : Checkpoint) : Prop :=
  ∃ prints, turn.reply? = some (.ok ⟨.paused call checkpoint, prints⟩)

namespace Plan

variable {α β γ σ : Type}

def transcript (host : Host σ) : Plan α → σ → List Turn
  | done _, _ => []
  | append record next, s =>
    let (stored, s) := host.append record s
    .append record stored :: (next stored).transcript host s
  | start payload next, s =>
    let (reply, s) := host.start payload s
    .start payload reply :: (next reply).transcript host s
  | resume payload next, s =>
    let (reply, s) := host.resume payload s
    .resume payload reply :: (next reply).transcript host s
  | execute call next, s =>
    let (outcome, s) := host.execute call s
    .execute call outcome :: (next outcome).transcript host s
  | poll next, s =>
    let (signal, s) := host.poll s
    .poll signal :: (next signal).transcript host s

theorem bind_done (p : Plan α) : p.bind done = p := by
  induction p with
  | done a => rfl
  | append record next ih => exact congrArg (append record) (funext ih)
  | start payload next ih => exact congrArg (start payload) (funext ih)
  | resume payload next ih => exact congrArg (resume payload) (funext ih)
  | execute call next ih => exact congrArg (execute call) (funext ih)
  | poll next ih => exact congrArg poll (funext ih)

theorem bind_bind (p : Plan α) (f : α → Plan β) (g : β → Plan γ) :
    (p.bind f).bind g = p.bind fun a => (f a).bind g := by
  induction p with
  | done a => rfl
  | append record next ih => exact congrArg (append record) (funext ih)
  | start payload next ih => exact congrArg (start payload) (funext ih)
  | resume payload next ih => exact congrArg (resume payload) (funext ih)
  | execute call next ih => exact congrArg (execute call) (funext ih)
  | poll next ih => exact congrArg poll (funext ih)

instance : LawfulMonad Plan := LawfulMonad.mk' Plan bind_done (fun _ _ => rfl) bind_bind

/-- A plan comes to a result through such turns. -/
inductive Passes : Plan α → List Turn → α → Prop where
  | done (a : α) : Passes (.done a) [] a
  | append {record : Record} {next : Except String Unit → Plan α} {stored : Except String Unit}
      {turns : List Turn} {a : α} (rest : Passes (next stored) turns a) :
      Passes (.append record next) (.append record stored :: turns) a
  | start {payload : StartPayload} {next : Except WorkerError WorkerReply → Plan α}
      {reply : Except WorkerError WorkerReply} {turns : List Turn} {a : α}
      (rest : Passes (next reply) turns a) :
      Passes (.start payload next) (.start payload reply :: turns) a
  | resume {payload : ResumePayload} {next : Except WorkerError WorkerReply → Plan α}
      {reply : Except WorkerError WorkerReply} {turns : List Turn} {a : α}
      (rest : Passes (next reply) turns a) :
      Passes (.resume payload next) (.resume payload reply :: turns) a
  | execute {call : Invocation} {next : Except ExecutorError ToolOutcome → Plan α}
      {outcome : Except ExecutorError ToolOutcome} {turns : List Turn} {a : α}
      (rest : Passes (next outcome) turns a) :
      Passes (.execute call next) (.execute call outcome :: turns) a
  | poll {next : Option Steering → Plan α} {signal : Option Steering} {turns : List Turn} {a : α}
      (rest : Passes (next signal) turns a) : Passes (.poll next) (.poll signal :: turns) a

theorem passes_transcript (host : Host σ) (p : Plan α) (s : σ) :
    p.Passes (p.transcript host s) (p.run host s).1 := by
  induction p generalizing s with
  | done a => exact .done a
  | append record next ih => exact .append (ih _ _)
  | start payload next ih => exact .start (ih _ _)
  | resume payload next ih => exact .resume (ih _ _)
  | execute call next ih => exact .execute (ih _ _)
  | poll next ih => exact .poll (ih _ _)

variable {turns : List Turn}

theorem Passes.of_bind {p : Plan α} {f : α → Plan β} {b : β} (h : (p.bind f).Passes turns b) :
    ∃ first rest a, turns = first ++ rest ∧ p.Passes first a ∧ (f a).Passes rest b := by
  induction p generalizing turns with
  | done a => exact ⟨[], turns, a, rfl, .done a, h⟩
  | append record next ih =>
    cases h with
    | append rest =>
      obtain ⟨first, later, a, rfl, early, late⟩ := ih _ rest
      exact ⟨_ :: first, later, a, rfl, .append early, late⟩
  | start payload next ih =>
    cases h with
    | start rest =>
      obtain ⟨first, later, a, rfl, early, late⟩ := ih _ rest
      exact ⟨_ :: first, later, a, rfl, .start early, late⟩
  | resume payload next ih =>
    cases h with
    | resume rest =>
      obtain ⟨first, later, a, rfl, early, late⟩ := ih _ rest
      exact ⟨_ :: first, later, a, rfl, .resume early, late⟩
  | execute call next ih =>
    cases h with
    | execute rest =>
      obtain ⟨first, later, a, rfl, early, late⟩ := ih _ rest
      exact ⟨_ :: first, later, a, rfl, .execute early, late⟩
  | poll next ih =>
    cases h with
    | poll rest =>
      obtain ⟨first, later, a, rfl, early, late⟩ := ih _ rest
      exact ⟨_ :: first, later, a, rfl, .poll early, late⟩

end Plan

namespace Run

variable {α β : Type} {turns : List Turn}

def Passes (x : Run α) (turns : List Turn) (result : Except RunError α) : Prop :=
  Plan.Passes x turns result

section Rules

variable {result : Except RunError α}

theorem Passes.of_bind {x : Run β} {f : β → Run α} (h : (x >>= f).Passes turns result) :
    (∃ e, result = .error e ∧ x.Passes turns (.error e)) ∨
    ∃ first rest b, turns = first ++ rest ∧ x.Passes first (.ok b) ∧ (f b).Passes rest result := by
  obtain ⟨first, rest, outcome, rfl, early, late⟩ := Plan.Passes.of_bind h
  cases outcome with
  | ok b => exact .inr ⟨first, rest, b, rfl, early, late⟩
  | error e =>
    cases late
    rw [List.append_nil]
    exact .inl ⟨e, rfl, early⟩

theorem Passes.of_pure {a : α} (h : (pure a : Run α).Passes turns result) :
    turns = [] ∧ result = .ok a := by
  cases h
  exact ⟨rfl, rfl⟩

theorem Passes.of_throw {e : RunError} (h : (throw e : Run α).Passes turns result) :
    turns = [] ∧ result = .error e := by
  cases h
  exact ⟨rfl, rfl⟩

theorem Passes.of_record {callId : String} {entry : Entry} {f : Unit → Run α}
    (h : (record callId entry >>= f).Passes turns result) :
    ∃ stored rest, turns = .append ⟨callId, entry⟩ stored :: rest ∧
      ((∃ reason, stored = .error reason ∧ rest = [] ∧ result = .error (.history reason)) ∨
        stored = .ok () ∧ (f ()).Passes rest result) := by
  cases h with
  | @append _ _ stored rest _ later =>
    refine ⟨stored, rest, rfl, ?_⟩
    cases stored with
    | ok _ => exact .inr ⟨rfl, later⟩
    | error reason =>
      cases later
      exact .inl ⟨reason, rfl, rfl, rfl⟩

theorem Passes.of_resume {payload : ResumePayload} {f : Except WorkerError WorkerReply → Run α}
    (h : (resume payload >>= f).Passes turns result) :
    ∃ reply rest, turns = .resume payload reply :: rest ∧ (f reply).Passes rest result := by
  cases h with
  | resume rest => exact ⟨_, _, rfl, rest⟩

theorem Passes.of_start {payload : StartPayload} {f : Except WorkerError WorkerReply → Run α}
    (h : (start payload >>= f).Passes turns result) :
    ∃ reply rest, turns = .start payload reply :: rest ∧ (f reply).Passes rest result := by
  cases h with
  | start rest => exact ⟨_, _, rfl, rest⟩

theorem Passes.of_invoke {call : Invocation} {f : Except ExecutorError ToolOutcome → Run α}
    (h : (invoke call >>= f).Passes turns result) :
    ∃ outcome rest, turns = .execute call outcome :: rest ∧ (f outcome).Passes rest result := by
  cases h with
  | execute rest => exact ⟨_, _, rfl, rest⟩

theorem Passes.of_poll {f : Option Steering → Run α} (h : (poll >>= f).Passes turns result) :
    ∃ signal rest, turns = .poll signal :: rest ∧ (f signal).Passes rest result := by
  cases h with
  | poll rest => exact ⟨_, _, rfl, rest⟩

theorem Still.stepless {x : Run α} (still : x.Still) (h : x.Passes turns result) :
    ∀ turn ∈ turns, turn.reply? = none := by
  unfold Passes at h
  unfold Still at still
  induction h with
  | done result => simp
  | append rest ih => simpa [Turn.reply?] using ih (still _)
  | start rest => exact still.elim
  | resume rest => exact still.elim
  | execute rest ih => simpa [Turn.reply?] using ih (still _)
  | poll rest ih => simpa [Turn.reply?] using ih (still _)

theorem Quiet.keeps {x : Run α} {Q : α → Prop} (quiet : x.Quiet Q) (h : x.Passes turns result) :
    ∀ a, result = .ok a → Q a := by
  unfold Passes at h
  unfold Quiet at quiet
  induction h with
  | done result => exact quiet
  | append rest ih => exact ih (quiet.2 _)
  | start rest ih => exact ih (quiet _)
  | resume rest ih => exact ih (quiet _)
  | execute rest ih => exact ih (quiet _)
  | poll rest ih => exact ih (quiet _)

end Rules

/-- Behind every step of the script, the run goes on from the reply to it, with the same tools. -/
def GoesOnBehind (definitions : List ToolDefinition) (result : Except RunError RunResult) :
    List Turn → Prop
  | [] => True
  | turn :: rest =>
    (∀ reply, turn.reply? = some reply → ∃ rounds st,
      st.definitions = definitions ∧ (drive rounds st reply).Passes rest result) ∧
    GoesOnBehind definitions result rest

section Steps

variable {definitions : List ToolDefinition} {result : Except RunError RunResult}
  {first rest before after : List Turn}

theorem GoesOnBehind.append (stepless : ∀ turn ∈ first, turn.reply? = none)
    (h : GoesOnBehind definitions result rest) :
    GoesOnBehind definitions result (first ++ rest) := by
  induction first with
  | nil => exact h
  | cons turn first ih =>
    obtain ⟨here, stepless⟩ := List.forall_mem_cons.mp stepless
    refine ⟨?_, ih stepless⟩
    rw [here]
    rintro _ ⟨⟩

theorem goesOnBehind_stepless (stepless : ∀ turn ∈ first, turn.reply? = none) :
    GoesOnBehind definitions result first := by
  rw [← List.append_nil first]
  exact GoesOnBehind.append stepless trivial

theorem GoesOnBehind.from_reply {turn : Turn} {reply : Except WorkerError WorkerReply}
    (h : GoesOnBehind definitions result (before ++ turn :: after))
    (replied : turn.reply? = some reply) :
    ∃ rounds st, st.definitions = definitions ∧ (drive rounds st reply).Passes after result := by
  induction before with
  | nil => exact h.1 reply replied
  | cons earlier before ih => exact ih h.2

theorem answerCall_keeps {st : RunState} {call : ExternalCall} {checkpoint : Checkpoint}
    {settled : RunState × CallOutcome}
    (h : (answerCall settle st call checkpoint).Passes turns (.ok settled)) :
    settled.1.definitions = st.definitions := by
  unfold answerCall at h
  dsimp only at h
  split at h
  · rcases Passes.of_bind h with ⟨_, ⟨⟩, -⟩ | ⟨_, _, result, -, -, later⟩
    obtain ⟨-, ended⟩ := Passes.of_pure later
    cases ended
    rfl
  · obtain ⟨_, _, -, ⟨_, -, -, ⟨⟩⟩ | ⟨-, later⟩⟩ := Passes.of_record h
    exact (settle_quiet _ _).keeps later settled rfl

theorem drive_goesOnBehind {rounds : Nat} {st : RunState} {step : Except WorkerError WorkerReply}
    (h : (drive rounds st step).Passes turns result) :
    GoesOnBehind st.definitions result turns := by
  induction rounds generalizing st step turns with
  | zero =>
    obtain ⟨rfl, -⟩ := Passes.of_throw h
    trivial
  | succ rounds ih =>
    rcases step with e | ⟨⟨call, checkpoint⟩ | output, prints⟩
    · obtain ⟨stored, rest, rfl, ⟨_, -, rfl, -⟩ | ⟨-, thrown⟩⟩ := Passes.of_record h
      · exact goesOnBehind_stepless (by simp [Turn.reply?])
      · obtain ⟨rfl, -⟩ := Passes.of_throw thrown
        exact goesOnBehind_stepless (by simp [Turn.reply?])
    · have still := answerCall_still { st with prints := st.prints.extend prints } call checkpoint
      rw [drive, round_paused] at h
      rcases Passes.of_bind h with ⟨e, -, failed⟩ | ⟨first, rest, settled, rfl, answered, later⟩
      · exact goesOnBehind_stepless (still.stepless failed)
      · refine GoesOnBehind.append (still.stepless answered) ?_
        have same := answerCall_keeps answered
        obtain ⟨st', instruction | ended⟩ := settled
        · obtain ⟨reply, rest, rfl, goesOn⟩ := Passes.of_resume later
          rw [← same]
          refine ⟨?_, ih goesOn⟩
          rintro _ ⟨⟩
          exact ⟨rounds, st', rfl, goesOn⟩
        · obtain ⟨rfl, -⟩ := Passes.of_pure later
          trivial
    · exact goesOnBehind_stepless ((finish_still _ output).stepless h)

theorem begin_passes {tools : List ToolDefinition} {opening : Opening}
    {outcome : Except RunError (RunState × Except WorkerError WorkerReply)}
    (h : (begin tools opening).Passes turns outcome) :
    (∃ e, outcome = .error e ∧ ∀ turn ∈ turns, turn.reply? = none) ∨
    ∃ first step st reply, turns = first ++ [step] ∧ (∀ turn ∈ first, turn.reply? = none) ∧
      step.reply? = some reply ∧ outcome = .ok (st, reply) ∧
      st.definitions = RuntimeTool.extend tools := by
  cases opening with
  | fresh limits request =>
    obtain ⟨stored, rest, rfl, ⟨reason, -, rfl, ended⟩ | ⟨-, started⟩⟩ := Passes.of_record h
    · exact .inl ⟨_, ended, by simp [Turn.reply?]⟩
    · obtain ⟨reply, _, rfl, begun⟩ := Passes.of_start started
      obtain ⟨rfl, ended⟩ := Passes.of_pure begun
      exact .inr ⟨[.append _ stored], _, _, reply, rfl, by simp [Turn.reply?], rfl, ended, rfl⟩
  | again callId call =>
    simp only [begin] at h
    split at h
    · obtain ⟨rfl, ended⟩ := Passes.of_throw h
      exact .inl ⟨_, ended, by simp⟩
    · obtain ⟨reply, _, rfl, begun⟩ := Passes.of_resume h
      obtain ⟨rfl, ended⟩ := Passes.of_pure begun
      exact .inr ⟨[], _, _, reply, rfl, by simp, rfl, ended, rfl⟩

theorem whole_goesOnBehind {rounds : Nat} {tools : List ToolDefinition} {opening : Opening}
    (h : (whole rounds tools opening).Passes turns result) :
    GoesOnBehind (RuntimeTool.extend tools) result turns := by
  rcases Passes.of_bind h with ⟨e, -, failed⟩ | ⟨first, rest, _, rfl, begun, later⟩
  · rcases begin_passes failed with ⟨_, -, stepless⟩ | ⟨_, _, _, _, -, -, -, ⟨⟩, -⟩
    exact goesOnBehind_stepless stepless
  · rcases begin_passes begun with
      ⟨_, ⟨⟩, -⟩ | ⟨first, step, st, reply, rfl, stepless, replied, ⟨⟩, same⟩
    rw [List.append_assoc, ← same]
    refine GoesOnBehind.append stepless ⟨?_, drive_goesOnBehind later⟩
    rw [replied]
    rintro _ ⟨⟩
    exact ⟨rounds, st, rfl, later⟩

end Steps

end Run

end ResumableScript
