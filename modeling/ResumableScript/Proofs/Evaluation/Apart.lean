import Mathlib.Tactic.Basic
import ResumableScript.Proofs.Evaluation.Widening

/-! Two runs that differ in one variable. As long as neither of them reads it, and no budget ends one
of them, they go the same way, though one may count more expressions and nest its lists deeper. -/
namespace ResumableScript
open Eval

theorem Bindings.lookup_set (name other : String) (value : Value) (bindings : Bindings) :
    (Bindings.set other value bindings).lookup name =
      if name = other then some value else bindings.lookup name := by
  induction bindings with
  | nil => by_cases same : name = other <;> simp [Bindings.set, same]
  | cons pair rest ih =>
    obtain ⟨key, old⟩ := pair
    rw [Bindings.set]
    by_cases here : key = other
    · rw [if_pos here, List.lookup_cons, List.lookup_cons, here]
      cases same : name == other with
      | true => rw [if_pos (eq_of_beq same)]
      | false => rw [if_neg (ne_of_beq_false same)]
    · rw [if_neg here, List.lookup_cons, List.lookup_cons, ih]
      cases same : name == key with
      | true => exact (if_neg fun found => here ((eq_of_beq same).symm.trans found)).symm
      | false => rfl

theorem Replay.tick_spent (setting : Setting) (r : Replay) :
    IsSpent ((Replay.discipline setting).tick r).1 ∨
      (Replay.discipline setting).tick r = (.ok (), r.count) := by
  unfold Discipline.tick
  simp only [Replay.discipline]
  cases excess : r.count.overrun? setting with
  | some fault => exact .inl ⟨_, rfl, Replay.overrun_spent excess⟩
  | none => exact .inr rfl

theorem Replay.count_quiet (r : Replay) :
    r.count.unread = r.unread ∧ r.count.printsSeen = r.printsSeen ∧ r.count.emitted = r.emitted := by
  unfold Replay.count
  split <;> simp [*]

/-- Machines that differ in no more than a variable, in what they have counted, and in depth. -/
structure Apart (hidden : String) (m₁ m₂ : Machine Replay) : Prop where
  unread : m₁.book.unread = m₂.book.unread
  seen : m₁.book.printsSeen = m₂.book.printsSeen
  emitted : m₁.book.emitted = m₂.book.emitted
  bindings : ∀ name, name ≠ hidden → m₁.bindings.lookup name = m₂.bindings.lookup name

/-- Two computations came to the same, but for the variable, or a budget has ended one of them. -/
def Apart.Ends (hidden : String) {α : Type} (r₁ r₂ : Except Exit α × Machine Replay) : Prop :=
  IsSpent r₁.1 ∨ IsSpent r₂.1 ∨ (r₁.1 = r₂.1 ∧ Apart hidden r₁.2 r₂.2)

def Apart.Goes (hidden : String) {α : Type} (x₁ x₂ : Eval Replay α) : Prop :=
  ∀ m₁ m₂, Apart hidden m₁ m₂ → Apart.Ends hidden (x₁ m₁) (x₂ m₂)

namespace Apart

variable {hidden : String} {α γ : Type} {x₁ x₂ : Eval Replay α} {m₁ m₂ : Machine Replay}

theorem Goes.result (result : Except Exit α) :
    Goes hidden (fun m => (result, m) : Eval Replay α) (fun m => (result, m)) :=
  fun _ _ apart => .inr (.inr ⟨rfl, apart⟩)

theorem Goes.bind {f₁ f₂ : α → Eval Replay γ} (first : Goes hidden x₁ x₂)
    (next : ∀ a, Goes hidden (f₁ a) (f₂ a)) : Goes hidden (x₁ >>= f₁) (x₂ >>= f₂) := by
  intro m₁ m₂ apart
  rcases first m₁ m₂ apart with spent | spent | ⟨same, apart⟩
  · exact .inl (bind_spent f₁ spent)
  · exact .inr (.inl (bind_spent f₂ spent))
  · rw [bind_apply, bind_apply]
    generalize x₁ m₁ = r₁ at same apart
    generalize x₂ m₂ = r₂ at same apart
    obtain ⟨result, m₁'⟩ := r₁
    obtain ⟨_, m₂'⟩ := r₂
    cases same
    cases result with
    | ok a => exact next a m₁' m₂' apart
    | error exit => exact .inr (.inr ⟨rfl, apart⟩)

theorem Goes.handle {h₁ h₂ : ScriptException → Eval Replay α} (body : Goes hidden x₁ x₂)
    (caught : ∀ e, Goes hidden (h₁ e) (h₂ e)) :
    Goes hidden (Eval.handle x₁ h₁) (Eval.handle x₂ h₂) := by
  intro m₁ m₂ apart
  rcases body m₁ m₂ apart with spent | spent | ⟨same, apart⟩
  · exact .inl (handle_spent h₁ spent)
  · exact .inr (.inl (handle_spent h₂ spent))
  · unfold Eval.handle
    generalize x₁ m₁ = r₁ at same apart
    generalize x₂ m₂ = r₂ at same apart
    obtain ⟨result, m₁'⟩ := r₁
    obtain ⟨_, m₂'⟩ := r₂
    cases same
    cases result with
    | ok a => exact .inr (.inr ⟨rfl, apart⟩)
    | error exit =>
      cases exit with
      | raised e => exact caught e m₁' m₂' apart
      | suspended call => exact .inr (.inr ⟨rfl, apart⟩)
      | failed fault => exact .inr (.inr ⟨rfl, apart⟩)

theorem Goes.repeatWhile {condition₁ condition₂ body₁ body₂ : Eval Replay Value}
    (test : Goes hidden condition₁ condition₂) (work : Goes hidden body₁ body₂) (rounds₁ rounds₂ : Nat) :
    Goes hidden (Eval.repeatWhile condition₁ body₁ rounds₁)
      (Eval.repeatWhile condition₂ body₂ rounds₂) := by
  induction rounds₁ generalizing rounds₂ with
  | zero => exact fun _ _ _ => .inl ⟨.failed .stalled, rfl, trivial⟩
  | succ rounds₁ ih =>
    cases rounds₂ with
    | zero => exact fun _ _ _ => .inr (.inl ⟨.failed .stalled, rfl, trivial⟩)
    | succ rounds₂ =>
      refine test.bind fun value => ?_
      split
      · exact work.bind fun _ => ih rounds₂
      · exact .result _

theorem setVariable (apart : Apart hidden m₁ m₂) (name : String) (value : Value) :
    Apart hidden { m₁ with bindings := Bindings.set name value m₁.bindings }
      { m₂ with bindings := Bindings.set name value m₂.bindings } where
  unread := apart.unread
  seen := apart.seen
  emitted := apart.emitted
  bindings other visible := by
    rw [Bindings.lookup_set, Bindings.lookup_set, apart.bindings other visible]

theorem Goes.readVariable {name : String} (visible : name ≠ hidden) :
    Goes hidden (Eval.readVariable name) (Eval.readVariable name) := by
  intro m₁ m₂ apart
  unfold Eval.readVariable
  rw [apart.bindings name visible]
  split
  · exact .inr (.inr ⟨rfl, apart⟩)
  · exact .inr (.inr ⟨rfl, apart⟩)

section Replays

variable {setting₁ setting₂ : Setting}

theorem counted (apart : Apart hidden m₁ m₂) :
    Apart hidden { m₁ with book := m₁.book.count } { m₂ with book := m₂.book.count } := by
  obtain ⟨unread₁, seen₁, emitted₁⟩ := m₁.book.count_quiet
  obtain ⟨unread₂, seen₂, emitted₂⟩ := m₂.book.count_quiet
  exact ⟨unread₁.trans (apart.unread.trans unread₂.symm), seen₁.trans (apart.seen.trans seen₂.symm),
    emitted₁.trans (apart.emitted.trans emitted₂.symm), apart.bindings⟩

theorem emits (apart : Apart hidden m₁ m₂) (delivered : setting₁.delivered = setting₂.delivered)
    (emission : Emission) :
    Apart hidden { m₁ with book := Replay.emit setting₁ emission m₁.book }
      { m₂ with book := Replay.emit setting₂ emission m₂.book } := by
  refine ⟨apart.unread, ?_, ?_, apart.bindings⟩
  · exact congrArg (· + 1) apart.seen
  · dsimp only [Replay.emit]
    rw [apart.seen, apart.emitted, delivered]

theorem Goes.nested {d₁ d₂ : Discipline Replay} (body : Goes hidden x₁ x₂) :
    Goes hidden (Eval.nested d₁ x₁) (Eval.nested d₂ x₂) := by
  intro m₁ m₂ apart
  by_cases fits₁ : m₁.depth + 1 ≤ d₁.maxDepth.toNat
  · by_cases fits₂ : m₂.depth + 1 ≤ d₂.maxDepth.toNat
    · rw [nested_entered x₁ fits₁, nested_entered x₂ fits₂]
      rcases body { m₁ with depth := m₁.depth + 1 } { m₂ with depth := m₂.depth + 1 }
        ⟨apart.unread, apart.seen, apart.emitted, apart.bindings⟩ with spent | spent | ⟨same, apart⟩
      · exact .inl spent
      · exact .inr (.inl spent)
      · exact .inr (.inr ⟨same, apart.unread, apart.seen, apart.emitted, apart.bindings⟩)
    · rw [nested_refused x₂ (Nat.lt_of_not_le fits₂)]
      exact .inr (.inl ⟨_, rfl, trivial⟩)
  · rw [nested_refused x₁ (Nat.lt_of_not_le fits₁)]
    exact .inl ⟨_, rfl, trivial⟩

theorem answers (apart : Apart hidden m₁ m₂) (name : String) (args : List Value)
    (kwargs : List (String × Value)) :
    Ends hidden (onBook (Replay.answer name args kwargs) m₁)
      (onBook (Replay.answer name args kwargs) m₂) := by
  unfold onBook Replay.answer
  rw [← apart.unread]
  cases unread : m₁.book.unread with
  | nil => exact .inr (.inr ⟨rfl, apart⟩)
  | cons entry rest =>
    dsimp only
    split
    · exact .inr (.inr ⟨rfl, apart⟩)
    · exact .inr (.inr ⟨rfl, rfl, apart.seen, apart.emitted, apart.bindings⟩)

variable (hidden) in
def together (externals : setting₁.externals = setting₂.externals)
    (delivered : setting₁.delivered = setting₂.delivered) :
    Enclosure (Replay.discipline setting₁) (Replay.discipline setting₂) where
  Rel := Goes hidden
  pure a := .result (.ok a)
  bind := .bind
  raised e := .result (.error (.raised e))
  malformed fault := .result _
  handle := .handle
  tick := fun m₁ m₂ apart => by
    unfold Eval.tick onBook
    rcases Replay.tick_spent setting₁ m₁.book with spent | counted₁
    · exact .inl spent
    · rcases Replay.tick_spent setting₂ m₂.book with spent | counted₂
      · exact .inr (.inl spent)
      · rw [counted₁, counted₂]
        exact .inr (.inr ⟨rfl, apart.counted⟩)
  emit emission := fun _ _ apart => .inr (.inr ⟨rfl, apart.emits delivered emission⟩)
  externals name := congrArg (·.contains name) externals
  callExternal name args kwargs _ _ := fun _ _ apart => apart.answers name args kwargs
  pass _ := .result (.ok ())
  nested := .nested
  within := id
  setVariable name value := fun m₁ m₂ apart => .inr (.inr ⟨rfl, apart.setVariable name value⟩)
  loop test work := fun m₁ m₂ apart => test.repeatWhile work _ _ m₁ m₂ apart

end Replays

end Apart

end ResumableScript
