import Mathlib.Tactic.Basic
import ResumableScript.Proofs.Run.Conduct

/-! What a run does between two steps of its script. It asks nothing of an engine and fails for none,
so that whoever looks at the steps alone finds each directly behind the one before. -/
namespace ResumableScript

def HostRequest.answer? : HostRequest → Option Instruction
  | .resume payload => some payload.instruction
  | _ => none

def answersIn (requests : List HostRequest) : List Instruction :=
  requests.filterMap HostRequest.answer?

/-- A plan that takes no step of the script, and fails for none. -/
def Plan.Still {α : Type} : Plan (Except RunError α) → Prop
  | .done result => ∀ e, result ≠ .error (.worker e)
  | .append _ next => ∀ stored, (next stored).Still
  | .start .. | .resume .. => False
  | .execute _ next => ∀ outcome, (next outcome).Still
  | .poll next => ∀ signal, (next signal).Still

namespace Run

variable {α β σ : Type}

def Still (x : Run α) : Prop := Plan.Still x

theorem still_pure (a : α) : (pure a : Run α).Still := nofun

theorem still_throw {e : RunError} (other : ∀ w, e ≠ .worker w) : (throw e : Run α).Still := by
  intro w same
  exact other w (Except.error.inj same)

theorem Still.bind {x : Run α} {f : α → Run β} (h : x.Still) (next : ∀ a, (f a).Still) :
    (x >>= f).Still := by
  have follow : ∀ p : Plan (Except RunError α), p.Still → (p.bind (ExceptT.bindCont f)).Still := by
    intro p
    induction p with
    | done result =>
      intro h
      cases result with
      | ok a => exact next a
      | error e => exact still_throw fun w same => h w (same ▸ rfl)
    | append record rest ih => exact fun h stored => ih stored (h stored)
    | start payload rest => exact fun h => h.elim
    | resume payload rest => exact fun h => h.elim
    | execute call rest ih => exact fun h outcome => ih outcome (h outcome)
    | poll rest ih => exact fun h signal => ih signal (h signal)
  exact follow x h

theorem record_still (callId : String) (entry : Entry) : (record callId entry).Still := by
  intro stored
  cases stored <;> exact nofun

theorem still_record {callId : String} {entry : Entry} {f : Unit → Run α} (next : (f ()).Still) :
    (record callId entry >>= f).Still := (record_still callId entry).bind fun _ => next

theorem finish_still (st : RunState) (output : Json) : (finish st output).Still :=
  (record_still _ _).bind fun _ => still_pure _

theorem skip_still (st : RunState) : (skip st).Still :=
  (record_still _ _).bind fun _ => still_pure _

theorem interrupt_still (st : RunState) (steering : Steering) : (interrupt st steering).Still :=
  still_record ((record_still _ _).bind fun _ => still_pure _)

theorem execute_still (tool : ToolDefinition) (arguments : Json.Members) :
    (execute tool arguments).Still := by
  unfold execute
  split
  · exact still_pure _
  · exact still_pure _
  · intro outcome
    cases outcome with
    | ok outcome => exact still_pure _
    | error e =>
      dsimp only [Plan.bind, ExceptT.bindCont]
      split
      · exact still_throw nofun
      · exact still_pure _

theorem report_still (st : RunState) (tool : ToolDefinition) (answer : CallAnswer) :
    (report st tool answer).Still := by
  refine still_record fun signal => ?_
  cases signal with
  | none => exact still_pure _
  | some steering => exact (interrupt_still st steering).bind fun _ => still_pure _

theorem settle_still (st : RunState) (pending : Pending) : (settle st pending).Still := by
  cases pending with
  | unknown name => exact still_record (still_pure _)
  | tool tool converted =>
    cases converted with
    | error fault => exact report_still _ tool _
    | ok arguments => exact (execute_still tool arguments).bind fun answer => report_still _ tool answer

theorem answerCall_still (st : RunState) (call : ExternalCall) (checkpoint : Checkpoint) :
    (answerCall settle st call checkpoint).Still := by
  unfold answerCall
  dsimp only
  split
  · exact (skip_still _).bind fun _ => still_pure _
  · exact still_record (settle_still _ _)

/-- What follows a plan that takes no step: it has ended, and not for a step, or what it has come to
goes on from a later state of the host. -/
theorem still_bind_run {x : Run α} (h : x.Still) (f : α → Run β) (host : Host σ) (s : σ) :
    (∃ e, (∀ w, e ≠ .worker w) ∧ (Plan.run host (x >>= f : Run β) s).1 = .error e) ∨
    ∃ a s', (Plan.run host (x >>= f : Run β) s).1 = (Plan.run host (f a) s').1 ∧
      answersIn (Plan.trace host (x >>= f : Run β) s) = answersIn (Plan.trace host (f a) s') := by
  have follow : ∀ (p : Plan (Except RunError α)) (s : σ), p.Still →
      (∃ e, (∀ w, e ≠ .worker w) ∧
        ((p.bind (ExceptT.bindCont f)).run host s).1 = .error e) ∨
      ∃ a s', ((p.bind (ExceptT.bindCont f)).run host s).1 = (Plan.run host (f a) s').1 ∧
        answersIn ((p.bind (ExceptT.bindCont f)).trace host s) =
          answersIn (Plan.trace host (f a) s') := by
    intro p
    induction p with
    | done result =>
      intro s h
      cases result with
      | ok a => exact .inr ⟨a, s, rfl, rfl⟩
      | error e => exact .inl ⟨e, fun w same => h w (same ▸ rfl), rfl⟩
    | append record rest ih => exact fun s h => ih _ _ (h _)
    | start payload rest => exact fun _ h => h.elim
    | resume payload rest => exact fun _ h => h.elim
    | execute call rest ih => exact fun s h => ih _ _ (h _)
    | poll rest ih => exact fun s h => ih _ _ (h _)
  exact follow x s h

theorem still_run {x : Run α} (h : x.Still) (host : Host σ) (s : σ) (w : WorkerError) :
    (Plan.run host x s).1 ≠ .error (.worker w) := by
  have follow : ∀ (p : Plan (Except RunError α)) (s : σ), p.Still →
      (p.run host s).1 ≠ .error (.worker w) := by
    intro p
    induction p with
    | done result => exact fun _ h => h w
    | append record rest ih => exact fun s h => ih _ _ (h _)
    | start payload rest => exact fun _ h => h.elim
    | resume payload rest => exact fun _ h => h.elim
    | execute call rest ih => exact fun s h => ih _ _ (h _)
    | poll rest ih => exact fun s h => ih _ _ (h _)
  exact follow x s h

theorem fail_run {host : Host σ} {st : RunState} {e e' : WorkerError} {s : σ}
    (failed : (Plan.run host (fail st e) s).1 = .error (.worker e')) : e' = e := by
  rcases still_bind_run (record_still st.callId _) (fun _ => throw (.worker e)) host s with
    ⟨other, differs, ended⟩ | ⟨_, _, ended, -⟩
  · cases Except.error.inj (failed.symm.trans ended)
    exact absurd rfl (differs e')
  · cases failed.symm.trans ended
    rfl

theorem fresh_started (host : Host σ) (rounds : Nat) (limits : Limits) (tools : List ToolDefinition)
    (opened : RunRequest) (s : σ) :
    let definitions := RuntimeTool.extend tools
    let preamble := opened.preamble.getD (Preamble.build definitions)
    let payload : StartPayload :=
      { code := Preamble.join preamble opened.code, externals := definitions.map (·.name), limits }
    let opening := host.append ⟨opened.callId, .start opened.code preamble⟩ s
    let first := host.start payload opening.2
    let behind := drive rounds { callId := opened.callId, definitions } first.1
    opening.1 = .ok () →
    Plan.run host (fresh rounds limits tools opened) s = Plan.run host behind first.2 ∧
      answersIn (Plan.trace host (fresh rounds limits tools opened) s) =
        answersIn (Plan.trace host behind first.2) := by
  intro definitions preamble payload opening first behind stored
  let goOn : Run RunResult :=
    start payload >>= drive rounds { callId := opened.callId, definitions }
  have step : Plan.next? host (fresh rounds limits tools opened) s =
      some (.append ⟨opened.callId, .start opened.code preamble⟩, goOn, opening.2) := by
    show some (_, Plan.bind (Plan.bind _ _) _, _) = _
    rw [stored]
    rfl
  rw [Plan.run_next step, Plan.trace_next step]
  exact ⟨rfl, rfl⟩

end Run

end ResumableScript
