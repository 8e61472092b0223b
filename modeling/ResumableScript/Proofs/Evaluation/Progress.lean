import Mathlib.Tactic.Basic
import ResumableScript.Proofs.Evaluation.Congruence

/-! Every round of a loop counts at least one expression, so loops end by themselves: the bound on
their rounds is never what ends them, and they satisfy the equation of an unbounded loop. -/
namespace ResumableScript
open Eval

variable {β : Type}

def Exit.IsFinal : Exit → Prop
  | .raised _ => False
  | .suspended _ | .failed _ => True

/-- Whatever the discipline does to its book keeps a property of books. -/
structure Discipline.Stable (d : Discipline β) (P : β → Prop) : Prop where
  count : ∀ book, P book → P (d.count book)
  answer : ∀ name args kwargs book, P book → P (d.answer name args kwargs book).2
  emit : ∀ emission book, P book → P (d.emit emission book)
  pass : ∀ waypoint book, P book → P (d.pass waypoint book) := by exact fun _ _ h => h

theorem Discipline.Stable.of_const {d : Discipline β} {P : β → Prop}
    (same : ∀ book book', P book → P book') : d.Stable P where
  count book := same book _
  answer _ _ _ book := same book _
  emit _ book := same book _
  pass _ book := same book _

theorem Discipline.Stable.tick {d : Discipline β} {P : β → Prop} (stable : d.Stable P) (book : β)
    (h : P book) : P (d.tick book).2 := by
  unfold Discipline.tick
  dsimp only
  split <;> exact stable.count book h

namespace Eval

/-- A computation keeps a property of books, whatever its outcome. -/
def Keeps {α : Type} (P : β → Prop) (x : Eval β α) : Prop := ∀ m, P m.book → P (x m).2.book

variable {P : β → Prop}

theorem bind_apply {α γ : Type} (x : Eval β α) (f : α → Eval β γ) (m : Machine β) :
    (x >>= f) m = match x m with
      | (.ok a, m) => f a m
      | (.error exit, m) => (.error exit, m) := rfl

/-- Only what a computation comes to, and where, matters to what follows it. -/
theorem bind_agree {α γ : Type} {x : Eval β α} {f g : α → Eval β γ} {m : Machine β}
    (same : ∀ a m', x m = (.ok a, m') → f a m' = g a m') : (x >>= f) m = (x >>= g) m := by
  rw [bind_apply, bind_apply]
  cases first : x m with
  | mk result m' =>
    cases result with
    | ok a => exact same a m' first
    | error exit => rfl

theorem bind_error {α γ : Type} {x : Eval β α} {f : α → Eval β γ} {m m' : Machine β} {exit : Exit}
    (h : x m = (.error exit, m')) : (x >>= f) m = (.error exit, m') := by
  rw [bind_apply, h]

theorem bind_keeps {α γ : Type} {x : Eval β α} {f : α → Eval β γ} {m : Machine β}
    (first : P (x m).2.book) (next : ∀ a, Keeps P (f a)) : P ((x >>= f) m).2.book := by
  rw [bind_apply]
  generalize x m = after at first ⊢
  obtain ⟨result, m'⟩ := after
  cases result with
  | ok a => exact next a m' first
  | error exit => exact first

theorem Keeps.bind {α γ : Type} {x : Eval β α} {f : α → Eval β γ} (first : Keeps P x)
    (next : ∀ a, Keeps P (f a)) : Keeps P (x >>= f) :=
  fun m h => bind_keeps (first m h) next

theorem bind_pure {α : Type} (x : Eval β α) : x >>= Pure.pure = x := by
  funext m
  rw [bind_apply]
  generalize x m = after
  obtain ⟨result, m'⟩ := after
  cases result <;> rfl

theorem bind_assoc {α γ δ : Type} (x : Eval β α) (f : α → Eval β γ) (g : γ → Eval β δ) :
    (x >>= f) >>= g = x >>= fun a => f a >>= g := by
  funext m
  rw [bind_apply, bind_apply, bind_apply]
  generalize x m = after
  obtain ⟨result, m'⟩ := after
  cases result <;> rfl

theorem handle_raised {α : Type} (x : Eval β α) : handle x (fun e => exit (.raised e)) = x := by
  funext m
  unfold handle
  generalize x m = after
  obtain ⟨result, m'⟩ := after
  cases result with
  | ok a => rfl
  | error exit => cases exit <;> rfl

theorem nested_refused {α : Type} {d : Discipline β} (x : Eval β α) {m : Machine β}
    (tooDeep : d.maxDepth.toNat < m.depth + 1) :
    nested d x m = (.error (.failed (.limit (.depth d.maxDepth))), m) := by
  unfold nested
  dsimp only
  rw [if_pos tooDeep]
  rfl

theorem nested_entered {α : Type} {d : Discipline β} (x : Eval β α) {m : Machine β}
    (fits : m.depth + 1 ≤ d.maxDepth.toNat) :
    nested d x m =
      let after := x { m with depth := m.depth + 1 }
      (after.1, { after.2 with depth := after.2.depth - 1 }) := by
  unfold nested
  dsimp only
  rw [if_neg (Nat.not_lt.mpr fits)]

theorem handle_final {α : Type} {x : Eval β α} {handler : ScriptException → Eval β α}
    {m m' : Machine β} {exit : Exit} (final : exit.IsFinal) (h : x m = (.error exit, m')) :
    handle x handler m = (.error exit, m') := by
  unfold handle
  rw [h]
  cases exit with
  | raised e => exact final.elim
  | suspended call => rfl
  | failed fault => rfl

theorem handle_keeps {α : Type} {x : Eval β α} {handler : ScriptException → Eval β α}
    {m : Machine β} (body : P (x m).2.book) (caught : ∀ e, Keeps P (handler e)) :
    P (handle x handler m).2.book := by
  unfold handle
  generalize x m = after at body ⊢
  obtain ⟨result, m'⟩ := after
  cases result with
  | ok a => exact body
  | error exit =>
    cases exit with
    | raised e => exact caught e m' body
    | suspended call => exact body
    | failed fault => exact body

theorem Keeps.handle {α : Type} {x : Eval β α} {handler : ScriptException → Eval β α}
    (body : Keeps P x) (caught : ∀ e, Keeps P (handler e)) : Keeps P (handle x handler) :=
  fun m h => handle_keeps (body m h) caught

theorem Keeps.nested {α : Type} {x : Eval β α} (d : Discipline β) (body : Keeps P x) :
    Keeps P (nested d x) := by
  intro m h
  unfold Eval.nested
  dsimp only
  split
  · exact h
  · exact body _ h

theorem Keeps.within {α : Type} {x : Eval β α} {d : Discipline β}
    (pass : ∀ waypoint book, P book → P (d.pass waypoint book)) (body : Keeps P x) :
    Keeps P (within d x) :=
  fun m h => pass _ _ (body _ (pass _ m.book h))

theorem Keeps.readVariable (name : String) : Keeps P (readVariable name) := by
  intro m h
  unfold Eval.readVariable
  split <;> exact h

theorem Keeps.repeatWhile {condition body : Eval β Value} (test : Keeps P condition)
    (work : Keeps P body) (rounds : Nat) : Keeps P (repeatWhile condition body rounds) := by
  induction rounds with
  | zero => exact fun m h => h
  | succ rounds ih =>
    refine test.bind fun value => ?_
    split
    · exact work.bind fun _ => ih
    · exact fun m h => h

end Eval

def Discipline.Stable.congruence {d : Discipline β} {P : β → Prop} (stable : d.Stable P) :
    Congruence d d where
  Rel x _ := Keeps P x
  pure _ := fun _ h => h
  bind := Keeps.bind
  raised _ := fun _ h => h
  malformed _ := fun _ h => h
  handle := Keeps.handle
  tick := fun m h => stable.tick m.book h
  pass waypoint := fun m h => stable.pass waypoint m.book h
  nested := Keeps.nested d
  within := Keeps.within stable.pass
  readVariable := Keeps.readVariable
  setVariable _ _ := fun _ h => h
  emit emission := fun m h => stable.emit emission m.book h
  externals _ := rfl
  callExternal name args kwargs _ _ := fun m h => stable.answer name args kwargs m.book h
  loop test work := fun m h => test.repeatWhile work _ m h

/-- Evaluation never makes room. -/
theorem Discipline.stable_room (d : Discipline β) (bound : Nat) :
    d.Stable fun book => d.room book ≤ bound where
  count book h := Nat.le_trans (d.room_count_le book) h
  answer name args kwargs book h := Nat.le_trans (d.room_answer name args kwargs book) h
  emit emission book h := Nat.le_trans (d.room_emit emission book) h
  pass waypoint book h := Nat.le_trans (d.room_pass waypoint book) h

theorem room_body (d : Discipline β) (forms : List Expr) (m : Machine β) :
    d.room (evalBody d 0 .nil forms m).2.book ≤ d.room m.book :=
  (d.stable_room (d.room m.book)).congruence.body 0 .nil forms m (Nat.le_refl _)

/-- An expression is counted, and what it does then makes no room. -/
theorem Expr.eval_eq (d : Discipline β) (e : Expr) :
    ∃ rest : Eval β Value, e.eval d = (tick d >>= fun _ => rest) ∧
      ∀ bound, Keeps (fun book => d.room book ≤ bound) rest := by
  cases e with
  | symbol name => exact ⟨_, rfl, fun _ => Keeps.readVariable name⟩
  | list items =>
    refine ⟨_, rfl, fun bound => ?_⟩
    let C := (d.stable_room bound).congruence
    exact C.bind (C.pass (.reached items)) fun _ => C.nested (C.within (C.list items))
  | _ => exact ⟨_, rfl, fun _ _ h => h⟩

theorem Expr.room_eval {d : Discipline β} {e : Expr} {m m' : Machine β} {value : Value}
    (h : e.eval d m = (.ok value, m')) : d.room m'.book < d.room m.book := by
  obtain ⟨rest, same, shrinks⟩ := e.eval_eq d
  rw [same, bind_apply] at h
  cases excess : d.overrun? (d.count m.book) with
  | some fault => simp [tick, onBook, Discipline.tick, excess] at h
  | none =>
    simp only [tick, onBook, Discipline.tick, excess] at h
    have kept := shrinks _ { m with book := d.count m.book } (Nat.le_refl _)
    rw [h] at kept
    exact Nat.lt_of_le_of_lt kept (d.room_count m.book excess)

section Loop

variable {d : Discipline β} {condition body : Eval β Value}

/-- Beyond the room that is left, the bound on the rounds makes no difference. -/
theorem repeatWhile_rounds
    (test : ∀ m value m', condition m = (.ok value, m') → d.room m'.book < d.room m.book)
    (work : ∀ m, d.room (body m).2.book ≤ d.room m.book) (rounds more : Nat) (m : Machine β)
    (enough : d.room m.book < rounds) (enough' : d.room m.book < more) :
    repeatWhile condition body rounds m = repeatWhile condition body more m := by
  induction rounds generalizing more m with
  | zero => omega
  | succ rounds ih =>
    cases more with
    | zero => omega
    | succ more =>
      refine bind_agree fun value m₁ tested => ?_
      have less := test m value m₁ tested
      split
      · refine bind_agree fun _ m₂ worked => ?_
        have kept : d.room m₂.book ≤ d.room m₁.book := by simpa only [worked] using work m₁
        exact ih more m₂ (by omega) (by omega)
      · rfl

theorem loop_eq
    (test : ∀ m value m', condition m = (.ok value, m') → d.room m'.book < d.room m.book)
    (work : ∀ m, d.room (body m).2.book ≤ d.room m.book) (m : Machine β) :
    loop d condition body m =
      (condition >>= fun test =>
        if test.isTruthy then body >>= fun _ => loop d condition body else pure .nil) m := by
  refine bind_agree fun value m₁ tested => ?_
  have less := test m value m₁ tested
  split
  · refine bind_agree fun _ m₂ worked => ?_
    have kept : d.room m₂.book ≤ d.room m₁.book := by simpa only [worked] using work m₁
    exact repeatWhile_rounds test work _ _ m₂ (by omega) (by omega)
  · rfl

end Loop

/-- A loop ends by itself: any bound on its rounds beyond the room that is left does as well. -/
theorem evalLoop_rounds (d : Discipline β) (condition : Expr) (body : List Expr) (rounds : Nat)
    (m : Machine β) (enough : d.room m.book < rounds) :
    repeatWhile (condition.eval d) (evalBody d 0 .nil body) rounds m =
      evalLoop d (condition :: body) m := by
  rw [evalLoop]
  exact repeatWhile_rounds (fun _ _ _ => Expr.room_eval) (room_body d body) rounds _ m enough
    (Nat.lt_succ_self _)

end ResumableScript
