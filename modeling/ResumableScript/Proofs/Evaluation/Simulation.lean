import Mathlib.Tactic.Basic
import ResumableScript.Proofs.Evaluation.Progress

/-! Two runs of one script under different disciplines. They go together, expression by expression,
until one of them leaves with an exit that no handler takes; the other may then go on alone. If the
primitives keep it so, whole evaluations do. -/
namespace ResumableScript
open Eval

/-- How the states of two runs relate. -/
structure Alignment (σ₁ σ₂ : Type) where
  Together : σ₁ → σ₂ → Prop
  /-- The first run has ended with this exit, while the second was or is on its way. -/
  LeftGone : Exit → σ₁ → σ₂ → Prop
  RightGone : Exit → σ₁ → σ₂ → Prop
  /-- The exits that both runs may take together. -/
  Shared : Exit → Prop

inductive Alignment.Outcome {σ₁ σ₂ : Type} (A : Alignment σ₁ σ₂) {α : Type} :
    Except Exit α × σ₁ → Except Exit α × σ₂ → Prop where
  | together {result : Except Exit α} {s₁ : σ₁} {s₂ : σ₂} (aligned : A.Together s₁ s₂)
      (shared : ∀ exit, result = .error exit → A.Shared exit) : Outcome A (result, s₁) (result, s₂)
  | left {exit : Exit} {s₁ : σ₁} {other : Except Exit α × σ₂} (final : exit.IsFinal)
      (gone : A.LeftGone exit s₁ other.2) : Outcome A (.error exit, s₁) other
  | right {exit : Exit} {other : Except Exit α × σ₁} {s₂ : σ₂} (final : exit.IsFinal)
      (gone : A.RightGone exit other.2 s₂) : Outcome A other (.error exit, s₂)

theorem Alignment.Outcome.value {σ₁ σ₂ : Type} {A : Alignment σ₁ σ₂} {α : Type} {a : α} {s₁ : σ₁}
    {s₂ : σ₂} (aligned : A.Together s₁ s₂) : A.Outcome (.ok a, s₁) (.ok a, s₂) :=
  .together aligned nofun

theorem Alignment.Outcome.exit {σ₁ σ₂ : Type} {A : Alignment σ₁ σ₂} {α : Type} {exit : Exit}
    {s₁ : σ₁} {s₂ : σ₂} (aligned : A.Together s₁ s₂) (shared : A.Shared exit) :
    A.Outcome (.error exit, s₁) (.error (α := α) exit, s₂) :=
  .together aligned fun _ same => Except.error.inj same ▸ shared

theorem Alignment.Outcome.answered {σ₁ σ₂ : Type} {A : Alignment σ₁ σ₂} {s₁ : σ₁} {s₂ : σ₂}
    (instruction : Instruction) (aligned : A.Together s₁ s₂) (raised : ∀ e, A.Shared (.raised e)) :
    A.Outcome (instruction.result, s₁) (instruction.result, s₂) := by
  cases instruction with
  | returnValue value => exact .value aligned
  | exception e => exact .exit aligned (raised e)

/-- The relation of machines whose books are related: together they agree on all else. -/
def Alignment.machines {β₁ β₂ : Type} (A : Alignment β₁ β₂) :
    Alignment (Machine β₁) (Machine β₂) where
  Together m₁ m₂ := A.Together m₁.book m₂.book ∧ m₁.depth = m₂.depth ∧ m₁.bindings = m₂.bindings
  LeftGone exit m₁ m₂ := A.LeftGone exit m₁.book m₂.book
  RightGone exit m₁ m₂ := A.RightGone exit m₁.book m₂.book
  Shared := A.Shared

variable {β₁ β₂ : Type}

/-- The primitives of two disciplines keep their books aligned, and a run on its own keeps what is
known since the other left. -/
structure Simulation (d₁ : Discipline β₁) (d₂ : Discipline β₂) extends Alignment β₁ β₂ where
  externals : d₁.externals = d₂.externals
  maxDepth : d₁.maxDepth = d₂.maxDepth
  sharedRaised : ∀ e, Shared (.raised e)
  sharedMalformed : ∀ fault, Shared (.failed (.malformed fault))
  sharedDepth : Shared (.failed (.limit (.depth d₁.maxDepth)))
  tick : ∀ {book₁ book₂}, Together book₁ book₂ →
    toAlignment.Outcome (d₁.tick book₁) (d₂.tick book₂)
  answer : ∀ {book₁ book₂} name args kwargs, SpecialForm.ofName? name = none →
    d₁.externals.contains name → Together book₁ book₂ →
    toAlignment.Outcome (d₁.answer name args kwargs book₁) (d₂.answer name args kwargs book₂)
  emit : ∀ {book₁ book₂} emission, Together book₁ book₂ →
    Together (d₁.emit emission book₁) (d₂.emit emission book₂)
  pass : ∀ {book₁ book₂} waypoint, Together book₁ book₂ →
    Together (d₁.pass waypoint book₁) (d₂.pass waypoint book₂) := by exact fun _ h => h
  leftGone : ∀ exit book₁, d₂.Stable (LeftGone exit book₁)
  rightGone : ∀ exit book₂, d₁.Stable fun book₁ => RightGone exit book₁ book₂
  /-- A run that has ended still comes out of the lists that it was inside. -/
  leftPass : ∀ exit waypoint book₁ book₂, LeftGone exit book₁ book₂ →
    LeftGone exit (d₁.pass waypoint book₁) book₂ := by exact fun _ _ _ _ h => h
  rightPass : ∀ exit waypoint book₁ book₂, RightGone exit book₁ book₂ →
    RightGone exit book₁ (d₂.pass waypoint book₂) := by exact fun _ _ _ _ h => h

namespace Simulation

variable {d₁ : Discipline β₁} {d₂ : Discipline β₂} (S : Simulation d₁ d₂)

abbrev Together' (m₁ : Machine β₁) (m₂ : Machine β₂) : Prop := S.machines.Together m₁ m₂

abbrev Outcome' {α : Type} (r₁ : Except Exit α × Machine β₁) (r₂ : Except Exit α × Machine β₂) :
    Prop :=
  S.machines.Outcome r₁ r₂

/-- Two computations that go together from machines at the same place. -/
structure Meets {α : Type} (x₁ : Eval β₁ α) (x₂ : Eval β₂ α) : Prop where
  outcome : ∀ m₁ m₂, S.Together' m₁ m₂ → S.Outcome' (x₁ m₁) (x₂ m₂)
  left : ∀ exit book₁, Keeps (S.LeftGone exit book₁) x₂
  right : ∀ exit book₂, Keeps (fun book₁ => S.RightGone exit book₁ book₂) x₁

variable {S}

theorem outcome_bind {α γ : Type} {x₁ : Eval β₁ α} {x₂ : Eval β₂ α} {f₁ : α → Eval β₁ γ}
    {f₂ : α → Eval β₂ γ} {m₁ : Machine β₁} {m₂ : Machine β₂} (first : S.Outcome' (x₁ m₁) (x₂ m₂))
    (next : ∀ a m₁' m₂', x₁ m₁ = (.ok a, m₁') → S.Together' m₁' m₂' →
      S.Outcome' (f₁ a m₁') (f₂ a m₂'))
    (left : ∀ exit book₁ a, Keeps (S.LeftGone exit book₁) (f₂ a))
    (right : ∀ exit book₂ a, Keeps (fun book₁ => S.RightGone exit book₁ book₂) (f₁ a)) :
    S.Outcome' ((x₁ >>= f₁) m₁) ((x₂ >>= f₂) m₂) := by
  generalize e₁ : x₁ m₁ = r₁ at first next
  generalize e₂ : x₂ m₂ = r₂ at first
  cases first with
  | @together result m₁' m₂' aligned shared =>
    cases result with
    | ok a =>
      rw [bind_apply, bind_apply, e₁, e₂]
      exact next a m₁' m₂' rfl aligned
    | error exit =>
      rw [bind_error e₁, bind_error e₂]
      exact .exit aligned (shared exit rfl)
  | @left exit m₁' _ final gone =>
    rw [bind_error e₁]
    exact .left final (bind_keeps (e₂ ▸ gone) (left exit m₁'.book))
  | @right exit _ m₂' final gone =>
    rw [bind_error e₂]
    exact .right final (bind_keeps (e₁ ▸ gone) (right exit m₂'.book))

theorem Meets.pure {α : Type} (a : α) : S.Meets (Pure.pure a) (Pure.pure a) where
  outcome _ _ aligned := .value aligned
  left _ _ := fun _ h => h
  right _ _ := fun _ h => h

theorem Meets.exit {α : Type} {exit : Exit} (shared : S.Shared exit) :
    S.Meets (Eval.exit exit : Eval β₁ α) (Eval.exit exit : Eval β₂ α) where
  outcome _ _ aligned := .exit aligned shared
  left _ _ := fun _ h => h
  right _ _ := fun _ h => h

theorem Meets.bind {α γ : Type} {x₁ : Eval β₁ α} {x₂ : Eval β₂ α} {f₁ : α → Eval β₁ γ}
    {f₂ : α → Eval β₂ γ} (first : S.Meets x₁ x₂) (next : ∀ a, S.Meets (f₁ a) (f₂ a)) :
    S.Meets (x₁ >>= f₁) (x₂ >>= f₂) where
  outcome m₁ m₂ aligned := outcome_bind (first.outcome m₁ m₂ aligned)
    (fun a m₁' m₂' _ aligned => (next a).outcome m₁' m₂' aligned)
    (fun exit book₁ a => (next a).left exit book₁) (fun exit book₂ a => (next a).right exit book₂)
  left exit book₁ := (first.left exit book₁).bind fun a => (next a).left exit book₁
  right exit book₂ := (first.right exit book₂).bind fun a => (next a).right exit book₂

theorem Meets.handle {α : Type} {x₁ : Eval β₁ α} {x₂ : Eval β₂ α}
    {h₁ : ScriptException → Eval β₁ α} {h₂ : ScriptException → Eval β₂ α} (body : S.Meets x₁ x₂)
    (caught : ∀ e, S.Meets (h₁ e) (h₂ e)) : S.Meets (Eval.handle x₁ h₁) (Eval.handle x₂ h₂) where
  outcome m₁ m₂ aligned := by
    have first := body.outcome m₁ m₂ aligned
    generalize e₁ : x₁ m₁ = r₁ at first
    generalize e₂ : x₂ m₂ = r₂ at first
    cases first with
    | @together result m₁' m₂' aligned shared =>
      unfold Eval.handle
      rw [e₁, e₂]
      cases result with
      | ok a => exact .value aligned
      | error exit =>
        cases exit with
        | raised e => exact (caught e).outcome m₁' m₂' aligned
        | suspended call => exact .together aligned shared
        | failed fault => exact .together aligned shared
    | @left exit m₁' _ final gone =>
      rw [handle_final final e₁]
      exact .left final (handle_keeps (e₂ ▸ gone) fun e => (caught e).left exit m₁'.book)
    | @right exit _ m₂' final gone =>
      rw [handle_final final e₂]
      exact .right final (handle_keeps (e₁ ▸ gone) fun e => (caught e).right exit m₂'.book)
  left exit book₁ := (body.left exit book₁).handle fun e => (caught e).left exit book₁
  right exit book₂ := (body.right exit book₂).handle fun e => (caught e).right exit book₂

theorem Meets.onBook {α : Type} {step₁ : β₁ → Except Exit α × β₁} {step₂ : β₂ → Except Exit α × β₂}
    (outcome : ∀ {book₁ book₂}, S.Together book₁ book₂ →
      S.toAlignment.Outcome (step₁ book₁) (step₂ book₂))
    (left : ∀ exit book₁ book₂, S.LeftGone exit book₁ book₂ → S.LeftGone exit book₁ (step₂ book₂).2)
    (right : ∀ exit book₁ book₂,
      S.RightGone exit book₁ book₂ → S.RightGone exit (step₁ book₁).2 book₂) :
    S.Meets (Eval.onBook step₁) (Eval.onBook step₂) where
  outcome m₁ m₂ aligned := by
    obtain ⟨books, rest⟩ := aligned
    have result := outcome books
    unfold Eval.onBook
    generalize step₁ m₁.book = r₁ at result ⊢
    generalize step₂ m₂.book = r₂ at result ⊢
    cases result with
    | together aligned shared => exact .together ⟨aligned, rest⟩ shared
    | left final gone => exact .left final gone
    | right final gone => exact .right final gone
  left exit book₁ := fun m h => left exit book₁ m.book h
  right exit book₂ := fun m h => right exit m.book book₂ h

theorem Meets.nested {α : Type} {x₁ : Eval β₁ α} {x₂ : Eval β₂ α} (body : S.Meets x₁ x₂) :
    S.Meets (Eval.nested d₁ x₁) (Eval.nested d₂ x₂) where
  outcome m₁ m₂ aligned := by
    obtain ⟨books, depth, bindings⟩ := aligned
    unfold Eval.nested
    rw [← S.maxDepth, depth]
    dsimp only
    split
    · exact .exit ⟨books, rfl, bindings⟩ S.sharedDepth
    · have result := body.outcome { m₁ with depth := m₂.depth + 1 } { m₂ with depth := m₂.depth + 1 }
        ⟨books, rfl, bindings⟩
      generalize x₁ _ = r₁ at result ⊢
      generalize x₂ _ = r₂ at result ⊢
      cases result with
      | together aligned shared =>
        exact .together ⟨aligned.1, congrArg (· - 1) aligned.2.1, aligned.2.2⟩ shared
      | left final gone => exact .left final gone
      | right final gone => exact .right final gone
  left exit book₁ := (body.left exit book₁).nested d₂
  right exit book₂ := (body.right exit book₂).nested d₁

theorem Meets.pass (waypoint : Waypoint) : S.Meets (Eval.pass d₁ waypoint) (Eval.pass d₂ waypoint) where
  outcome _ _ aligned := .value ⟨S.pass waypoint aligned.1, aligned.2⟩
  left exit book₁ := fun m h => (S.leftGone exit book₁).pass waypoint m.book h
  right exit book₂ := fun m h => (S.rightGone exit book₂).pass waypoint m.book h

theorem Meets.within {α : Type} {x₁ : Eval β₁ α} {x₂ : Eval β₂ α} (body : S.Meets x₁ x₂) :
    S.Meets (Eval.within d₁ x₁) (Eval.within d₂ x₂) where
  outcome m₁ m₂ aligned := by
    have result := body.outcome { m₁ with book := d₁.pass .entered m₁.book }
      { m₂ with book := d₂.pass .entered m₂.book } ⟨S.pass .entered aligned.1, aligned.2⟩
    unfold Eval.within
    generalize x₁ _ = r₁ at result ⊢
    generalize x₂ _ = r₂ at result ⊢
    cases result with
    | together aligned shared => exact .together ⟨S.pass .left aligned.1, aligned.2⟩ shared
    | left final gone =>
      exact .left final (S.leftPass _ .left _ _ ((S.leftGone _ _).pass .left _ gone))
    | right final gone =>
      exact .right final (S.rightPass _ .left _ _ ((S.rightGone _ _).pass .left _ gone))
  left exit book₁ := (body.left exit book₁).within (S.leftGone exit book₁).pass
  right exit book₂ := (body.right exit book₂).within (S.rightGone exit book₂).pass

theorem Meets.readVariable (name : String) :
    S.Meets (Eval.readVariable name) (Eval.readVariable name) where
  outcome m₁ m₂ aligned := by
    unfold Eval.readVariable
    rw [aligned.2.2]
    split
    · exact .value aligned
    · exact (Meets.exit (S.sharedRaised _)).outcome m₁ m₂ aligned
  left exit book₁ := Keeps.readVariable name
  right exit book₂ := Keeps.readVariable name

theorem Meets.setVariable (name : String) (value : Value) :
    S.Meets (Eval.setVariable name value) (Eval.setVariable name value) where
  outcome _ _ aligned :=
    .value ⟨aligned.1, aligned.2.1, congrArg (Bindings.set name value) aligned.2.2⟩
  left _ _ := fun _ h => h
  right _ _ := fun _ h => h

theorem Meets.emit (emission : Emission) : S.Meets (Eval.emit d₁ emission) (Eval.emit d₂ emission) where
  outcome _ _ aligned := .value ⟨S.emit emission aligned.1, aligned.2⟩
  left exit book₁ := fun m h => (S.leftGone exit book₁).emit emission m.book h
  right exit book₂ := fun m h => (S.rightGone exit book₂).emit emission m.book h

/-- Two loops go round together. -/
theorem Meets.loop {condition₁ condition₂ : Expr} {forms₁ forms₂ : List Expr}
    (test : S.Meets (condition₁.eval d₁) (condition₂.eval d₂))
    (work : S.Meets (evalBody d₁ 0 .nil forms₁) (evalBody d₂ 0 .nil forms₂)) :
    S.Meets (Eval.loop d₁ (condition₁.eval d₁) (evalBody d₁ 0 .nil forms₁))
      (Eval.loop d₂ (condition₂.eval d₂) (evalBody d₂ 0 .nil forms₂)) := by
  have left exit book₁ : Keeps (S.LeftGone exit book₁)
      (Eval.loop d₂ (condition₂.eval d₂) (evalBody d₂ 0 .nil forms₂)) := fun m =>
    (test.left exit book₁).repeatWhile (work.left exit book₁) (d₂.room m.book + 1) m
  have right exit book₂ : Keeps (fun book₁ => S.RightGone exit book₁ book₂)
      (Eval.loop d₁ (condition₁.eval d₁) (evalBody d₁ 0 .nil forms₁)) := fun m =>
    (test.right exit book₂).repeatWhile (work.right exit book₂) (d₁.room m.book + 1) m
  refine ⟨fun m₁ m₂ aligned => ?_, left, right⟩
  -- on the room that the first loop has left, of which every round takes up some
  induction room : d₁.room m₁.book using Nat.strongRecOn generalizing m₁ m₂ with
  | ind _ ih =>
    rw [loop_eq (fun _ _ _ => Expr.room_eval) (room_body d₁ forms₁),
      loop_eq (fun _ _ _ => Expr.room_eval) (room_body d₂ forms₂)]
    refine outcome_bind (test.outcome m₁ m₂ aligned) (fun value m₁' m₂' tested aligned => ?_)
      (fun exit book₁ value => ?_) (fun exit book₂ value => ?_)
    · have less := Expr.room_eval tested
      split
      · refine outcome_bind (work.outcome m₁' m₂' aligned) (fun _ m₁'' m₂'' worked aligned => ?_)
          (fun exit book₁ _ => left exit book₁) (fun exit book₂ _ => right exit book₂)
        have kept : d₁.room m₁''.book ≤ d₁.room m₁'.book := by
          simpa only [worked] using room_body d₁ forms₁ m₁'
        exact ih _ (by omega) m₁'' m₂'' aligned rfl
      · exact .value aligned
    · split
      · exact (work.left exit book₁).bind fun _ => left exit book₁
      · exact fun _ h => h
    · split
      · exact (work.right exit book₂).bind fun _ => right exit book₂
      · exact fun _ h => h

variable (S) in
def congruence : Congruence d₁ d₂ where
  Rel := S.Meets
  pure := .pure
  bind := .bind
  raised e := .exit (S.sharedRaised e)
  malformed fault := .exit (S.sharedMalformed fault)
  handle := .handle
  tick := .onBook S.tick (fun exit book₁ => (S.leftGone exit book₁).tick)
    (fun exit book₁ book₂ => (S.rightGone exit book₂).tick book₁)
  pass := .pass
  nested := .nested
  within := .within
  readVariable := .readVariable
  setVariable := .setVariable
  emit := .emit
  externals name := congrArg (·.contains name) S.externals
  callExternal name args kwargs plain member := .onBook (S.answer name args kwargs plain member)
    (fun exit book₁ => (S.leftGone exit book₁).answer name args kwargs)
    (fun exit book₁ book₂ => (S.rightGone exit book₂).answer name args kwargs book₁)
  loop := .loop

theorem outcome_body (forms : List Expr) {m₁ : Machine β₁} {m₂ : Machine β₂}
    (aligned : S.Together' m₁ m₂) :
    S.Outcome' (evalBody d₁ 0 .nil forms m₁) (evalBody d₂ 0 .nil forms m₂) :=
  (S.congruence.body 0 .nil forms).outcome m₁ m₂ aligned

end Simulation

end ResumableScript
