import Mathlib.Tactic.Basic
import ResumableScript.Proofs.Run.Ensures

/-! What runs exchange with their host, whatever it answers, as long as it stores every record: all
requests in order, and the answers to the polls among them. -/
namespace ResumableScript

def HostRequest.isPoll : HostRequest → Bool
  | .poll => true
  | _ => false

namespace Plan

variable {α β σ : Type}

def signals (host : Host σ) : Plan α → σ → List (Option Steering)
  | done _, _ => []
  | append record next, s =>
    let (answer, s) := host.append record s
    (next answer).signals host s
  | start payload next, s =>
    let (answer, s) := host.start payload s
    (next answer).signals host s
  | resume payload next, s =>
    let (answer, s) := host.resume payload s
    (next answer).signals host s
  | execute call next, s =>
    let (answer, s) := host.execute call s
    (next answer).signals host s
  | poll next, s =>
    let (answer, s) := host.poll s
    answer :: (next answer).signals host s

/-- The requests of a plan, the answers to its polls and its result are so, whatever is answered. -/
def Exchanges : Plan α → (List HostRequest → List (Option Steering) → α → Prop) → Prop
  | done a, Q => Q [] [] a
  | append record next, Q =>
    (next (.ok ())).Exchanges fun requests => Q (.append record :: requests)
  | start payload next, Q =>
    ∀ reply, (next reply).Exchanges fun requests => Q (.start payload :: requests)
  | resume payload next, Q =>
    ∀ reply, (next reply).Exchanges fun requests => Q (.resume payload :: requests)
  | execute call next, Q =>
    ∀ outcome, (next outcome).Exchanges fun requests => Q (.execute call :: requests)
  | poll next, Q =>
    ∀ signal, (next signal).Exchanges fun requests signals => Q (.poll :: requests) (signal :: signals)

theorem Exchanges.mono {p : Plan α} {Q Q' : List HostRequest → List (Option Steering) → α → Prop}
    (h : p.Exchanges Q)
    (weaker : ∀ requests signals a, Q requests signals a → Q' requests signals a) :
    p.Exchanges Q' := by
  induction p generalizing Q Q' with
  | done a => exact weaker [] [] a h
  | append record next ih => exact ih (.ok ()) h fun requests => weaker (.append record :: requests)
  | start payload next ih =>
    intro reply
    exact ih reply (h reply) fun requests => weaker (.start payload :: requests)
  | resume payload next ih =>
    intro reply
    exact ih reply (h reply) fun requests => weaker (.resume payload :: requests)
  | execute call next ih =>
    intro outcome
    exact ih outcome (h outcome) fun requests => weaker (.execute call :: requests)
  | poll next ih =>
    intro signal
    exact ih signal (h signal) fun requests signals => weaker (.poll :: requests) (signal :: signals)

theorem Exchanges.bind {p : Plan α} {f : α → Plan β}
    {Q : List HostRequest → List (Option Steering) → β → Prop}
    (h : p.Exchanges fun requests signals a =>
      (f a).Exchanges fun more later => Q (requests ++ more) (signals ++ later)) :
    (p.bind f).Exchanges Q := by
  induction p generalizing Q with
  | done a => exact h
  | append record next ih => exact ih (.ok ()) h
  | start payload next ih => exact fun reply => ih reply (h reply)
  | resume payload next ih => exact fun reply => ih reply (h reply)
  | execute call next ih => exact fun outcome => ih outcome (h outcome)
  | poll next ih => exact fun signal => ih signal (h signal)

theorem Exchanges.sound {host : Host σ} (stores : host.Stores) {p : Plan α}
    {Q : List HostRequest → List (Option Steering) → α → Prop} (h : p.Exchanges Q) (s : σ) :
    Q (p.trace host s) (p.signals host s) (p.run host s).1 := by
  induction p generalizing Q s with
  | done a => exact h
  | append record next ih =>
    -- followed as if the record were stored, which it is
    have rest := @ih (.ok ()) _ h (host.append record s).2
    rw [← stores record s] at rest
    exact rest
  | start payload next ih => exact ih _ (h _) _
  | resume payload next ih => exact ih _ (h _) _
  | execute call next ih => exact ih _ (h _) _
  | poll next ih => exact ih _ (h _) _

theorem length_signals (host : Host σ) (p : Plan α) (s : σ) :
    (p.signals host s).length = (p.trace host s).countP HostRequest.isPoll := by
  induction p generalizing s with
  | done a => rfl
  | poll next ih =>
    have rest := ih (host.poll s).1 (host.poll s).2
    simpa [signals, trace, HostRequest.isPoll, List.countP_cons] using rest
  | _ _ next ih => exact ih _ _

end Plan

namespace Run

variable {α β : Type}

def Exchanges (x : Run α)
    (Q : List HostRequest → List (Option Steering) → Except RunError α → Prop) : Prop :=
  Plan.Exchanges x Q

section Rules

variable {Q : List HostRequest → List (Option Steering) → Except RunError α → Prop}

theorem Exchanges.bind {x : Run β} {f : β → Run α}
    {P : List HostRequest → List (Option Steering) → Except RunError β → Prop} (h : x.Exchanges P)
    (failed : ∀ requests signals e, P requests signals (.error e) → Q requests signals (.error e))
    (next : ∀ requests signals b, P requests signals (.ok b) →
      (f b).Exchanges fun more later => Q (requests ++ more) (signals ++ later)) :
    (x >>= f).Exchanges Q := by
  apply Plan.Exchanges.bind
  apply Plan.Exchanges.mono h
  intro requests signals result holds
  cases result with
  | ok b => exact next requests signals b holds
  | error e =>
    have kept := failed requests signals e holds
    show Q (requests ++ []) (signals ++ []) (.error e)
    simpa using kept

theorem exchanges_pure {a : α} (h : Q [] [] (.ok a)) : (pure a : Run α).Exchanges Q := h

theorem exchanges_throw {e : RunError} (h : Q [] [] (.error e)) : (throw e : Run α).Exchanges Q := h

theorem exchanges_record {callId : String} {entry : Entry} {f : Unit → Run α}
    (h : (f ()).Exchanges fun requests => Q (.append ⟨callId, entry⟩ :: requests)) :
    (record callId entry >>= f).Exchanges Q := h

theorem exchanges_start {payload : StartPayload} {f : Except WorkerError WorkerReply → Run α}
    (h : ∀ reply, (f reply).Exchanges fun requests => Q (.start payload :: requests)) :
    (start payload >>= f).Exchanges Q := h

theorem exchanges_resume {payload : ResumePayload} {f : Except WorkerError WorkerReply → Run α}
    (h : ∀ reply, (f reply).Exchanges fun requests => Q (.resume payload :: requests)) :
    (resume payload >>= f).Exchanges Q := h

theorem exchanges_poll {f : Option Steering → Run α}
    (h : ∀ signal, (f signal).Exchanges fun requests signals =>
      Q (.poll :: requests) (signal :: signals)) : (poll >>= f).Exchanges Q := h

theorem exchanges_invoke {call : Invocation} {f : Except ExecutorError ToolOutcome → Run α}
    (h : ∀ outcome, (f outcome).Exchanges fun requests => Q (.execute call :: requests)) :
    (invoke call >>= f).Exchanges Q := h

end Rules

end Run

end ResumableScript
