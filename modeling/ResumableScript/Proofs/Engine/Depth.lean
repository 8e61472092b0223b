import Mathlib.Tactic.Basic
import ResumableScript.Engine.Step
import ResumableScript.Proofs.Evaluation.Budget
import ResumableScript.Proofs.Evaluation.Depth

/-! The depth limit of a step, in terms of its source. -/
namespace ResumableScript

theorem Replay.shallow (setting : Setting) : (Replay.discipline setting).Shallow where
  tick book exit := by
    unfold Discipline.tick
    dsimp only
    split
    · intro failed
      cases failed
    · next fault excess =>
      intro failed
      cases failed
      obtain ⟨_, rfl⟩ | ⟨_, rfl⟩ | ⟨_, rfl⟩ := Replay.overrun_cases excess <;> exact id
  answer name args kwargs book exit := by
    unfold Replay.discipline Replay.answer
    dsimp only
    split
    · intro failed
      cases failed
      exact id
    · next entry rest _ =>
      split
      · intro failed
        cases failed
        exact id
      · cases entry.instruction with
        | returnValue value =>
          intro failed
          cases failed
        | exception e =>
          intro failed
          cases failed
          exact id

/-- Only a form of the script fails for its depth; the check for answers that are left does not. -/
theorem evalScript_depth {setting : Setting} {forms : List Expr} {m : Machine Replay} {exit : Exit}
    (failed : (evalScript setting forms m).1 = .error exit) (depth : exit.IsDepth) :
    (evalBody (Replay.discipline setting) 0 .nil forms m).1 = .error exit := by
  unfold evalScript at failed
  generalize evalBody (Replay.discipline setting) 0 .nil forms m = after at failed ⊢
  obtain ⟨result, m'⟩ := after
  cases result with
  | error other => exact failed
  | ok value =>
    dsimp only at failed
    split at failed
    · cases failed
    · cases failed
      exact depth.elim

theorem outcome_depth {c : Continuation} {printsSeen : Nat} {result : Except Exit Value}
    {allowed : UInt64}
    (failed : Engine.outcome c printsSeen result = .error (.evaluation (.limit (.depth allowed)))) :
    result = .error (.failed (.limit (.depth allowed))) := by
  match result, failed with
  | .error (.failed fault), failed =>
    cases failed
    rfl

/-- The depth limit is a matter of the source. Every expression leaves the machine at the depth at
which it found it. A run comes to lists of its source only, and it meets the limit at none but one
around which as many lists stand as the limit allows; so a script that nests no list deeper never
meets it. -/
theorem depth_lexical (engine : Engine) (c : Continuation) (forms : List Expr)
    (readable : Script.parse c.source = .ok forms) :
    let d := Replay.discipline (c.setting engine)
    let maxDepth := c.limits.maxDepth
    let located := evalBody d.located 0 .nil forms c.machine.located
    let outcome := (engine.execute c).outcome
    (∀ (e : Expr) (m : Machine Replay), (e.eval d m).2.depth = m.depth) ∧
    evalBody d 0 .nil forms c.machine = (located.1, located.2.plain) ∧
    located.2.book.visits ⊆ listsOf 0 forms ∧
    (∀ allowed, outcome = .error (.evaluation (.limit (.depth allowed))) →
      ∃ list, located.2.book.visits.getLast? = some list ∧ maxDepth.toNat ≤ list.above) ∧
    ((∀ list ∈ listsOf 0 forms, list.above + 1 ≤ maxDepth.toNat) →
      ∀ allowed, outcome ≠ .error (.evaluation (.limit (.depth allowed)))) := by
  intro d maxDepth located outcome
  obtain ⟨erased, within, deep⟩ := body_located d forms c.machine rfl
  have refused (allowed : UInt64)
      (failed : outcome = .error (.evaluation (.limit (.depth allowed)))) :
      ∃ list, located.2.book.visits.getLast? = some list ∧ maxDepth.toNat ≤ list.above := by
    have failed : (engine.execute c).outcome = _ := failed
    rw [Engine.execute, readable] at failed
    have exit := evalScript_depth (outcome_depth failed) trivial
    rw [erased] at exit
    exact deep (Replay.shallow _) _ exit trivial
  refine ⟨eval_depth d, erased, within, refused, fun shallow allowed failed => ?_⟩
  obtain ⟨list, last, tooDeep⟩ := refused allowed failed
  have inside : list ∈ located.2.book.visits := List.mem_of_getLast? last
  exact absurd (shallow list (within inside)) (Nat.not_le.mpr (Nat.lt_succ_of_le tooDeep))

/-- A loop that catches an exception in each round. Its lists nest four deep, the body of the
handler among them, and the limit just admits that. -/
theorem depth_lexical_caught :
    let engine : Engine := {}
    let c : Continuation :=
      { source := "(for x (list 1 2 3) (try (raise x) (except e (list e))))", externals := [],
        limits := ⟨100, 4, 1000⟩ }
    ∃ forms, Script.parse c.source = .ok forms ∧
      (∀ list ∈ listsOf 0 forms, list.above + 1 ≤ c.limits.maxDepth.toNat) ∧
      ∀ allowed, (engine.execute c).outcome ≠ .error (.evaluation (.limit (.depth allowed))) := by
  intro engine c
  have flat : (Script.parse c.source).toOption.map
      (fun forms => (listsOf 0 forms).all (·.above + 1 ≤ 4)) = some true := by decide +kernel
  cases readable : Script.parse c.source with
  | error e =>
    rw [readable] at flat
    cases flat
  | ok forms =>
    rw [readable] at flat
    have shallow : ∀ list ∈ listsOf 0 forms, list.above + 1 ≤ c.limits.maxDepth.toNat := by
      intro list there
      exact of_decide_eq_true (List.all_eq_true.mp (Option.some.inj flat) list there)
    exact ⟨forms, rfl, shallow, (depth_lexical engine c forms readable).2.2.2.2 shallow⟩

end ResumableScript
