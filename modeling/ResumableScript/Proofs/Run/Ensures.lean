import Mathlib.Tactic.Basic
import ResumableScript.Run.Loop

/-! What runs ensure, whatever their host answers, as long as it stores every record. The rules
follow the requests of a plan, so that a property of runs needs neither the host nor its state. -/
namespace ResumableScript

def HostRequest.record? : HostRequest → Option Record
  | .append record => some record
  | _ => none

def recordsOf (requests : List HostRequest) : List Record := requests.filterMap HostRequest.record?

def Host.Stores {σ : Type} (host : Host σ) : Prop :=
  ∀ record s, (host.append record s).1 = .ok ()

namespace Plan

variable {α β : Type}

/-- The records and the result of a plan are so, whatever is answered. -/
def Ensures : Plan α → (List Record → α → Prop) → Prop
  | done a, Q => Q [] a
  | append record next, Q => (next (.ok ())).Ensures fun records => Q (record :: records)
  | start _ next, Q => ∀ reply, (next reply).Ensures Q
  | resume _ next, Q => ∀ reply, (next reply).Ensures Q
  | execute _ next, Q => ∀ outcome, (next outcome).Ensures Q
  | poll next, Q => ∀ signal, (next signal).Ensures Q

theorem Ensures.mono {p : Plan α} {Q Q' : List Record → α → Prop} (h : p.Ensures Q)
    (weaker : ∀ records a, Q records a → Q' records a) : p.Ensures Q' := by
  induction p generalizing Q Q' with
  | done a => exact weaker [] a h
  | append record next ih => exact ih (.ok ()) h fun records => weaker (record :: records)
  | start payload next ih => exact fun reply => ih reply (h reply) weaker
  | resume payload next ih => exact fun reply => ih reply (h reply) weaker
  | execute call next ih => exact fun outcome => ih outcome (h outcome) weaker
  | poll next ih => exact fun signal => ih signal (h signal) weaker

theorem Ensures.bind {p : Plan α} {f : α → Plan β} {Q : List Record → β → Prop}
    (h : p.Ensures fun records a => (f a).Ensures fun more => Q (records ++ more)) :
    (p.bind f).Ensures Q := by
  induction p generalizing Q with
  | done a => exact h
  | append record next ih => exact ih (.ok ()) h
  | start payload next ih => exact fun reply => ih reply (h reply)
  | resume payload next ih => exact fun reply => ih reply (h reply)
  | execute call next ih => exact fun outcome => ih outcome (h outcome)
  | poll next ih => exact fun signal => ih signal (h signal)

/-- What a plan ensures is so on every host that stores its records. -/
theorem Ensures.sound {σ : Type} {host : Host σ} (stores : host.Stores) {p : Plan α}
    {Q : List Record → α → Prop} (h : p.Ensures Q) (s : σ) :
    Q (recordsOf (p.trace host s)) (p.run host s).1 := by
  induction p generalizing Q s with
  | done a => exact h
  | append record next ih =>
    show Q (record :: recordsOf ((next (host.append record s).1).trace host (host.append record s).2))
      ((next (host.append record s).1).run host (host.append record s).2).1
    rw [stores record s]
    exact ih (.ok ()) h (host.append record s).2
  | start payload next ih => exact ih _ (h _) _
  | resume payload next ih => exact ih _ (h _) _
  | execute call next ih => exact ih _ (h _) _
  | poll next ih => exact ih _ (h _) _

end Plan

namespace Run

variable {α β : Type}

/-- The records and the outcome of a computation are so, whatever is answered. -/
def Ensures (x : Run α) (Q : List Record → Except RunError α → Prop) : Prop := Plan.Ensures x Q

def Following (f : α → Run β) (Q : List Record → Except RunError β → Prop)
    (records : List Record) : Except RunError α → Prop
  | .ok a => (f a).Ensures fun more => Q (records ++ more)
  | .error e => Q records (.error e)

theorem Ensures.mono {x : Run α} {Q Q' : List Record → Except RunError α → Prop} (h : x.Ensures Q)
    (weaker : ∀ records result, Q records result → Q' records result) : x.Ensures Q' :=
  Plan.Ensures.mono h weaker

theorem Following.mono {f : α → Run β} {Q Q' : List Record → Except RunError β → Prop}
    {records : List Record} {result : Except RunError α} (h : Following f Q records result)
    (weaker : ∀ records result, Q records result → Q' records result) :
    Following f Q' records result := by
  cases result with
  | ok a => exact Ensures.mono h fun more => weaker (records ++ more)
  | error e => exact weaker records _ h

theorem Ensures.bind {x : Run α} {f : α → Run β} {Q : List Record → Except RunError β → Prop}
    (h : x.Ensures (Following f Q)) : (x >>= f).Ensures Q := by
  refine Plan.Ensures.bind (Plan.Ensures.mono h fun records result following => ?_)
  cases result with
  | ok a => exact following
  | error e =>
    show Q (records ++ []) (.error e)
    rw [List.append_nil]
    exact following

theorem ensures_pure {a : α} {Q : List Record → Except RunError α → Prop} (h : Q [] (.ok a)) :
    (pure a : Run α).Ensures Q := h

theorem ensures_throw {e : RunError} {Q : List Record → Except RunError α → Prop}
    (h : Q [] (.error e)) : (throw e : Run α).Ensures Q := h

theorem ensures_record {callId : String} {entry : Entry} {f : Unit → Run α}
    {Q : List Record → Except RunError α → Prop}
    (h : (f ()).Ensures fun records => Q (⟨callId, entry⟩ :: records)) :
    (record callId entry >>= f).Ensures Q := h

theorem ensures_start {payload : StartPayload} {f : Except WorkerError WorkerReply → Run α}
    {Q : List Record → Except RunError α → Prop} (h : ∀ reply, (f reply).Ensures Q) :
    (start payload >>= f).Ensures Q := h

theorem ensures_resume {payload : ResumePayload} {f : Except WorkerError WorkerReply → Run α}
    {Q : List Record → Except RunError α → Prop} (h : ∀ reply, (f reply).Ensures Q) :
    (resume payload >>= f).Ensures Q := h

theorem ensures_poll {f : Option Steering → Run α} {Q : List Record → Except RunError α → Prop}
    (h : ∀ signal, (f signal).Ensures Q) : (poll >>= f).Ensures Q := h

theorem ensures_invoke {call : Invocation} {f : Except ExecutorError ToolOutcome → Run α}
    {Q : List Record → Except RunError α → Prop} (h : ∀ outcome, (f outcome).Ensures Q) :
    (invoke call >>= f).Ensures Q := h

end Run

end ResumableScript
