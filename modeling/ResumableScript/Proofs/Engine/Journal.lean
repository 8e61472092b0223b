import Mathlib.Data.List.Forall2
import Mathlib.Tactic.Basic
import ResumableScript.Engine.Step
import ResumableScript.Proofs.Evaluation.Invariant
import ResumableScript.Proofs.Evaluation.Observation

/-! A step accepts no journal that its script does not follow, however the journal has come about.
The invariant is a cursor in the journal: the calls made so far are those of the entries before it,
and got what those entries say. -/
namespace ResumableScript
open Eval

/-- What a script gets for a call: the value of the host's JSON, or the host's exception, raised. -/
inductive Instruction.Gives : Instruction → Except Exit Value → Prop where
  | value (json : Json) : Gives (.returnValue json) (.ok (Value.ofJson json))
  | raised (e : ScriptException) : Gives (.exception e) (.error (.raised e))

theorem Instruction.gives_result (instruction : Instruction) :
    instruction.Gives instruction.result := by
  cases instruction with
  | returnValue json => exact .value json
  | exception e => exact .raised e

/-- The names of these calls are those of these entries, and each call got what its entry gives. -/
structure Answered (calls : List ObservedCall) (entries : List JournalEntry) : Prop where
  names : calls.map (·.call.functionName) = entries.map (·.functionName)
  received : List.Forall₂ (fun entry observed => entry.instruction.Gives observed.received)
    entries calls

namespace Answered

variable {calls : List ObservedCall} {entries : List JournalEntry}

theorem length_eq (h : Answered calls entries) : calls.length = entries.length := by
  simpa using congrArg List.length h.names

theorem snoc (h : Answered calls entries) {call : ExternalCall} {entry : JournalEntry}
    (name : call.functionName = entry.functionName) :
    Answered (calls ++ [⟨call, entry.instruction.result⟩]) (entries ++ [entry]) := by
  constructor
  · simp [h.names, name]
  · exact List.rel_append h.received (.cons (entry.instruction.gives_result) .nil)

theorem same_name (h : Answered calls entries) {k : Nat} {observed : ObservedCall}
    {entry : JournalEntry} (made : calls[k]? = some observed) (kept : entries[k]? = some entry) :
    observed.call.functionName = entry.functionName := by
  have same := congrArg (·[k]?) h.names
  simpa [made, kept] using same

end Answered

section Cursor

variable (journal : List JournalEntry)

def ReadSoFar (o : Observed Replay) : Prop :=
  ∃ read, journal = read ++ o.book.unread ∧ Answered o.calls read

/-- Where a run stops: at a call without an entry, at a call whose entry has another name, or for a
reason that is no matter of the journal. -/
inductive EndsReading : Exit → Observed Replay → Prop where
  | suspended {o : Observed Replay} (answered : List ObservedCall) (last : ObservedCall)
      (calls : o.calls = answered ++ [last]) (whole : Answered answered journal) :
      EndsReading (.suspended last.call) o
  | diverged {o : Observed Replay} (answered : List ObservedCall) (last : ObservedCall)
      (read : List JournalEntry) (entry : JournalEntry) (rest : List JournalEntry)
      (calls : o.calls = answered ++ [last]) (split : journal = read ++ entry :: rest)
      (part : Answered answered read) :
      EndsReading (.failed (.replay (.diverged entry.functionName last.call.functionName))) o
  | failed {fault : Fault} {o : Observed Replay} (soFar : ReadSoFar journal o) :
      EndsReading (.failed fault) o

def reading : Course (Observed Replay) := ⟨ReadSoFar journal, EndsReading journal⟩

variable {journal}

theorem ReadSoFar.count {o : Observed Replay} (h : ReadSoFar journal o) :
    ReadSoFar journal { o with book := o.book.count } := by
  have unread : o.book.count.unread = o.book.unread := by
    unfold Replay.count
    split <;> simp [*]
  obtain ⟨read, whole, answered⟩ := h
  exact ⟨read, by rw [unread, whole], answered⟩

theorem ReadSoFar.tick (setting : Setting) {o : Observed Replay} (h : ReadSoFar journal o) :
    (reading journal).After ((Replay.discipline setting).observed.tick o) := by
  unfold Discipline.tick
  dsimp only
  cases excess : (Replay.discipline setting).observed.overrun? _ with
  | none => exact h.count
  | some fault => exact .failed h.count

theorem ReadSoFar.answer (setting : Setting) {o : Observed Replay} (h : ReadSoFar journal o)
    (name : String) (args : List Value) (kwargs : List (String × Value)) :
    (reading journal).After ((Replay.discipline setting).answerObserved name args kwargs o) := by
  obtain ⟨⟨unread, steps, replaySteps, seen, emitted⟩, calls⟩ := o
  obtain ⟨read, whole, answered⟩ := h
  dsimp only at whole answered
  unfold Discipline.answerObserved
  simp only [Replay.discipline, Replay.answer]
  cases unread with
  | nil =>
    rw [List.append_nil] at whole
    exact .suspended calls ⟨.ofValues name args kwargs, _⟩ rfl (whole ▸ answered)
  | cons entry rest =>
    dsimp only
    split
    · exact .diverged calls ⟨.ofValues name args kwargs, _⟩ read entry rest rfl whole answered
    · next same =>
      have further : ReadSoFar journal
          ⟨⟨rest, steps, replaySteps, seen, emitted⟩,
            calls ++ [⟨.ofValues name args kwargs, entry.instruction.result⟩]⟩ := by
        refine ⟨read ++ [entry], ?_, answered.snoc (Decidable.of_not_not same).symm⟩
        simpa using whole
      cases result : entry.instruction with
      | returnValue value => rw [result] at further; exact further
      | exception e => rw [result] at further; exact further

def keepsReading (setting : Setting) (journal : List JournalEntry) :
    Invariant (Replay.discipline setting).observed where
  toCourse := reading journal
  malformed _ _ h := .failed h
  tooDeep _ h := .failed h
  tick _ h := h.tick setting
  answer name args kwargs _ _ _ h := h.answer setting name args kwargs
  emit _ _ h := h

end Cursor

/-- The external calls that a step's evaluation makes; a source that cannot be read makes none. -/
def Engine.calls (engine : Engine) (c : Continuation) : List ObservedCall :=
  match Script.parse c.source with
  | .error _ => []
  | .ok forms =>
    let d := (Replay.discipline (c.setting engine)).observed
    (evalBody d 0 .nil forms c.machine.observed).2.book.calls

/-- The script comes to a value, whether or not entries are left then. -/
def Engine.EndsNormally (engine : Engine) (c : Continuation) : Prop :=
  ∃ forms value m, Script.parse c.source = .ok forms ∧
    evalBody (Replay.discipline (c.setting engine)) 0 .nil forms c.machine = (.ok value, m)

/-- The step has failed, and the host is told of an invalid checkpoint. -/
def Step.Refused (step : Step) (detail : String) : Prop :=
  ∃ fault, step.outcome = .error fault ∧ fault.report = .checkpoint detail

section Step

variable {engine : Engine} {c : Continuation} {forms : List Expr}

theorem calls_read (engine : Engine) (readable : Script.parse c.source = .ok forms) :
    let final := evalBody (Replay.discipline (c.setting engine)) 0 .nil forms c.machine
    (reading c.journal).After (final.1, ⟨final.2.book, engine.calls c⟩) := by
  have unread : (keepsReading (c.setting engine) c.journal).Along c.machine.observed.book :=
    ⟨[], rfl, rfl, .nil⟩
  have read := (keepsReading (c.setting engine) c.journal).after_body forms unread
  obtain ⟨result, book⟩ := observed_body (Replay.discipline (c.setting engine)) forms c.machine
  dsimp only at read ⊢
  rw [Engine.calls, readable, ← result, ← book]
  exact read

theorem execute_outcome (readable : Script.parse c.source = .ok forms) :
    let final := engine.evaluate c forms
    (engine.execute c).outcome = Engine.outcome c final.2.book.printsSeen final.1 := by
  rw [Engine.execute, readable]

theorem execute_unfinished (readable : Script.parse c.source = .ok forms) {value : Value}
    {m : Machine Replay}
    (ended : evalBody (Replay.discipline (c.setting engine)) 0 .nil forms c.machine = (.ok value, m))
    (left : m.book.unread ≠ []) :
    (engine.execute c).outcome =
      .error (.evaluation (.replay (.unreplayed m.book.unread.length))) := by
  have final : engine.evaluate c forms =
      (.error (.failed (.replay (.unreplayed m.book.unread.length))), m) := by
    rw [Engine.evaluate, evalScript, ended]
    dsimp only
    split
    · next read => exact absurd read left
    · rfl
  rw [execute_outcome readable, final]
  rfl

theorem execute_ended (readable : Script.parse c.source = .ok forms) {result : Except Exit Value}
    {m : Machine Replay}
    (ended : evalBody (Replay.discipline (c.setting engine)) 0 .nil forms c.machine = (result, m))
    (read : ∀ value, result = .ok value → m.book.unread = []) :
    (engine.execute c).outcome = Engine.outcome c m.book.printsSeen result := by
  have final : engine.evaluate c forms = (result, m) := by
    rw [Engine.evaluate, evalScript, ended]
    cases result with
    | error exit => rfl
    | ok value =>
      dsimp only
      rw [read value rfl]
  rw [execute_outcome readable, final]

theorem not_endsNormally (readable : Script.parse c.source = .ok forms) {exit : Exit}
    {m : Machine Replay}
    (ended : evalBody (Replay.discipline (c.setting engine)) 0 .nil forms c.machine =
      (.error exit, m)) : ¬ engine.EndsNormally c := by
  rintro ⟨forms', value, m', readable', ended'⟩
  rw [readable] at readable'
  cases readable'
  rw [ended] at ended'
  cases ended'

/-- How a step ends, with the part of the journal that its calls stand for. -/
inductive Ending (engine : Engine) (c : Continuation) : Except StepFault Progress → Prop where
  | finished {output : Json} (whole : Answered (engine.calls c) c.journal) :
      Ending engine c (.ok (.finished output))
  | paused {checkpoint : Checkpoint} (answered : List ObservedCall) (last : ObservedCall)
      (calls : engine.calls c = answered ++ [last]) (whole : Answered answered c.journal) :
      Ending engine c (.ok (.paused last.call checkpoint))
  | diverged (answered : List ObservedCall) (last : ObservedCall) (read : List JournalEntry)
      (entry : JournalEntry) (rest : List JournalEntry)
      (calls : engine.calls c = answered ++ [last]) (journal : c.journal = read ++ entry :: rest)
      (part : Answered answered read) (unfinished : ¬ engine.EndsNormally c) :
      Ending engine c
        (.error (.evaluation (.replay (.diverged entry.functionName last.call.functionName))))
  | unreplayed (read unread : List JournalEntry) (journal : c.journal = read ++ unread)
      (part : Answered (engine.calls c) read) :
      Ending engine c (.error (.evaluation (.replay (.unreplayed unread.length))))
  | failed {fault : StepFault} (read unread : List JournalEntry)
      (journal : c.journal = read ++ unread) (part : Answered (engine.calls c) read)
      (unfinished : ¬ engine.EndsNormally c) : Ending engine c (.error fault)

theorem execute_ending (engine : Engine) (c : Continuation) :
    Ending engine c (engine.execute c).outcome := by
  cases readable : Script.parse c.source with
  | error e =>
    have calls : engine.calls c = [] := by rw [Engine.calls, readable]
    have outcome : (engine.execute c).outcome = .error (.unreadable e) := by
      rw [Engine.execute, readable]
      rfl
    rw [outcome]
    refine .failed [] c.journal rfl (calls ▸ ⟨rfl, .nil⟩) ?_
    rintro ⟨forms, value, m, readable', -⟩
    rw [readable] at readable'
    cases readable'
  | ok forms =>
    have read := calls_read engine readable
    cases ended : evalBody (Replay.discipline (c.setting engine)) 0 .nil forms c.machine with
    | mk result m =>
      rw [ended] at read
      cases result with
      | ok value =>
        obtain ⟨part, journal, answered⟩ := read
        by_cases left : m.book.unread = []
        · rw [execute_ended readable ended fun _ _ => left]
          rw [left, List.append_nil] at journal
          exact .finished (journal ▸ answered)
        · rw [execute_unfinished readable ended left]
          exact .unreplayed part _ journal answered
      | error exit =>
        have unfinished := not_endsNormally readable ended
        rw [execute_ended readable ended nofun]
        cases exit with
        | raised e =>
          obtain ⟨part, journal, answered⟩ := read
          exact .failed part _ journal answered unfinished
        | suspended call =>
          cases read with
          | suspended answered last calls whole => exact .paused answered last calls whole
        | failed fault =>
          cases read with
          | diverged answered last part entry rest calls journal followed =>
            exact .diverged answered last part entry rest calls journal followed unfinished
          | failed soFar =>
            obtain ⟨part, journal, answered⟩ := soFar
            exact .failed part _ journal answered unfinished

end Step

section Mismatch

variable {engine : Engine} {c : Continuation} {answered : List ObservedCall}
  {read rest : List JournalEntry} {k : Nat} {observed : ObservedCall} {entry : JournalEntry}

theorem Answered.no_mismatch (h : Answered answered read) (journal : c.journal = read ++ rest)
    (early : k < answered.length) (made : answered[k]? = some observed)
    (kept : c.journal[k]? = some entry) :
    observed.call.functionName = entry.functionName := by
  rw [h.length_eq] at early
  rw [journal, List.getElem?_append_left early] at kept
  exact h.same_name made kept

theorem Ending.mismatch {outcome : Except StepFault Progress} (h : Ending engine c outcome)
    (made : (engine.calls c)[k]? = some observed) (kept : c.journal[k]? = some entry)
    (other : observed.call.functionName ≠ entry.functionName) :
    outcome = .error (.evaluation (.replay
      (.diverged entry.functionName observed.call.functionName))) := by
  have early := (List.getElem?_eq_some_iff.mp made).1
  cases h with
  | finished whole => exact absurd (whole.same_name made kept) other
  | @paused checkpoint answered last calls whole =>
    rw [calls] at made early
    rcases Nat.lt_or_ge k answered.length with inside | outside
    · rw [List.getElem?_append_left inside] at made
      exact absurd (whole.same_name made kept) other
    · have ends := (List.getElem?_eq_some_iff.mp kept).1
      have length := whole.length_eq
      omega
  | diverged answered last read next rest calls journal part unfinished =>
    rw [calls] at made early
    rcases Nat.lt_or_ge k answered.length with inside | outside
    · rw [List.getElem?_append_left inside] at made
      exact absurd (part.no_mismatch journal inside made kept) other
    · have here : k = answered.length := by
        rw [List.length_append, List.length_singleton] at early
        omega
      subst here
      rw [List.getElem?_append_right (Nat.le_refl _), Nat.sub_self] at made
      rw [journal, part.length_eq, List.getElem?_append_right (Nat.le_refl _), Nat.sub_self] at kept
      cases made
      cases kept
      rfl
  | unreplayed read unread journal part =>
    exact absurd (part.no_mismatch journal early made kept) other
  | failed read unread journal part unfinished =>
    exact absurd (part.no_mismatch journal early made kept) other

theorem Ending.unfinished {outcome : Except StepFault Progress} (h : Ending engine c outcome)
    (normal : engine.EndsNormally c) (left : (engine.calls c).length < c.journal.length) :
    outcome = .error (.evaluation (.replay
      (.unreplayed (c.journal.length - (engine.calls c).length)))) := by
  cases h with
  | finished whole =>
    have length := whole.length_eq
    omega
  | paused answered last calls whole =>
    have length := whole.length_eq
    rw [calls, List.length_append, List.length_singleton] at left
    omega
  | diverged answered last read entry rest calls journal part unfinished =>
    exact absurd normal unfinished
  | unreplayed read unread journal part =>
    have length := part.length_eq
    have rest : unread.length = c.journal.length - (engine.calls c).length := by
      rw [journal, List.length_append]
      omega
    rw [rest]
  | failed read unread journal part unfinished => exact absurd normal unfinished

end Mismatch

/-- A step accepts only a journal that its script follows, call by call. A call of another name than
its entry, and a script that ends before the journal does, are refused as an invalid checkpoint. -/
theorem execute_follows_journal (engine : Engine) (c : Continuation) :
    let step := engine.execute c
    let calls := engine.calls c
    (∀ output, step.outcome = .ok (.finished output) → Answered calls c.journal) ∧
    (∀ call checkpoint, step.outcome = .ok (.paused call checkpoint) →
      ∃ answered last, calls = answered ++ [last] ∧ last.call = call ∧
        Answered answered c.journal) ∧
    (∀ (k : Nat) observed entry, calls[k]? = some observed → c.journal[k]? = some entry →
      observed.call.functionName ≠ entry.functionName →
      step.Refused (ReplayFault.message (.diverged entry.functionName observed.call.functionName))) ∧
    (engine.EndsNormally c → calls.length < c.journal.length →
      step.Refused (ReplayFault.message (.unreplayed (c.journal.length - calls.length)))) := by
  intro step calls
  have ending := execute_ending engine c
  refine ⟨?finished, ?paused, ?diverged, ?unreplayed⟩
  case finished =>
    intro output outcome
    rw [outcome] at ending
    cases ending with
    | finished whole => exact whole
  case paused =>
    intro call checkpoint outcome
    rw [outcome] at ending
    cases ending with
    | paused answered last made whole => exact ⟨answered, last, made, rfl, whole⟩
  case diverged =>
    intro k observed entry made kept other
    exact ⟨_, ending.mismatch made kept other, rfl⟩
  case unreplayed =>
    intro normal left
    exact ⟨_, ending.unfinished normal left, rfl⟩

def Step.call? (step : Step) : Option ExternalCall :=
  match step.outcome with
  | .ok (.paused call _) => some call
  | _ => none

theorem Step.exists_paused {α : Type} {step : Step} {view : ExternalCall → α} {seen : α}
    (pauses : step.call?.map view = some seen) :
    ∃ call checkpoint, step.outcome = .ok (.paused call checkpoint) ∧ view call = seen := by
  unfold Step.call? at pauses
  split at pauses
  · next call checkpoint paused => exact ⟨call, checkpoint, paused, Option.some.inj pauses⟩
  · cases pauses

/-- A journal that no run has produced. The call of `f` gets a number, the call of `g` an exception
that the script catches, and the step pauses at `h` with what the script has made of both. -/
theorem execute_follows_journal_nested_calls :
    let engine := Engine.steady 1
    let c : Continuation :=
      { source := "(h (+ 1 (f 1)) (try (g) (except e (get e \"message\"))))"
        externals := ["f", "g", "h"], limits := ⟨99, 9, 9⟩
        journal := [⟨"f", .returnValue (.ofInt64 41)⟩, ⟨"g", .exception ⟨"Timeout", "late"⟩⟩] }
    ∃ call checkpoint answered last, (engine.execute c).outcome = .ok (.paused call checkpoint) ∧
      call.functionName = "h" ∧ call.args.map Json.compact = ["42", "\"late\""] ∧
      engine.calls c = answered ++ [last] ∧ last.call = call ∧ Answered answered c.journal := by
  intro engine c
  have pauses : (engine.execute c).call?.map
      (fun call => (call.functionName, call.args.map Json.compact)) =
        some ("h", ["42", "\"late\""]) := by decide +kernel
  obtain ⟨call, checkpoint, outcome, shown⟩ := Step.exists_paused pauses
  obtain ⟨name, args⟩ := Prod.mk.inj shown
  obtain ⟨answered, last, calls, same, followed⟩ :=
    (execute_follows_journal engine c).2.1 call checkpoint outcome
  exact ⟨call, checkpoint, answered, last, outcome, name, args, calls, same, followed⟩

end ResumableScript
