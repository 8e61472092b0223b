import Mathlib.Tactic.Basic
import ResumableScript.Proofs.Evaluation.Invariant
import ResumableScript.Script.Replay

/-! A pause whose call is answered can be replayed. The run that has paused and a run with the answer
in its journal go together up to the call, whatever their clocks. There the second has used up its
journal, and from there on nothing it does can contradict it. -/
namespace ResumableScript

def Setting.next (setting : Setting) (delivered : Nat) (clock : Nat → Nat) : Setting :=
  { setting with answers := setting.answers + 1, delivered, clock }

theorem Replay.next_externals (setting : Setting) (delivered : Nat) (clock : Nat → Nat) :
    (discipline setting).externals = (discipline (setting.next delivered clock)).externals := rfl

theorem Replay.next_maxDepth (setting : Setting) (delivered : Nat) (clock : Nat → Nat) :
    (discipline setting).maxDepth = (discipline (setting.next delivered clock)).maxDepth := rfl

section Continuing

variable (setting : Setting) (entry : JournalEntry)

/-- A run and one that has the answer as well, at the same place. What the first has counted, live or
not, the second has counted as replayed. -/
structure Continues (r r' : Replay) : Prop where
  unread : r'.unread = r.unread ++ [entry]
  replayed : r'.replaySteps = r.replaySteps + r.steps
  earlier : r.replaySteps ≤ setting.replayBudget
  within : r.steps ≤ setting.limits.maxSteps.toNat

/-- The first run leaves where it pauses. On the answered call, the second has read its journal. -/
def continuing : Alignment Replay Replay where
  Together := Continues setting entry
  LeftGone exit _ r' :=
    ∀ call, exit = .suspended call → call.functionName = entry.functionName → r'.unread = []
  RightGone _ _ _ := False
  Shared exit := ∀ call, exit ≠ .suspended call

variable {setting entry} {r r' : Replay}

theorem Replay.count_unread (r : Replay) : r.count.unread = r.unread := by
  unfold count
  split <;> simp [*]

theorem Continues.count (h : Continues setting entry r r')
    (goesOn : r.count.overrun? setting = none) : Continues setting entry r.count r'.count := by
  have count' : r'.count = { r' with replaySteps := r'.replaySteps + 1 } := by
    unfold Replay.count
    rw [h.unread]
    cases r.unread <;> rfl
  have replayed := h.replayed
  have earlier := h.earlier
  have within := h.within
  cases unread : r.unread with
  | nil =>
    -- what the first run counts live, the second counts as replayed
    have count : r.count = { r with steps := r.steps + 1 } := by rw [Replay.count, unread]
    have few : ¬ setting.limits.maxSteps.toNat < r.steps + 1 := by
      intro beyond
      rw [count] at goesOn
      simp [Replay.overrun?, unread, beyond] at goesOn
    rw [count, count']
    exact ⟨h.unread, by dsimp only; omega, earlier, by dsimp only; omega⟩
  | cons first rest =>
    have count : r.count = { r with replaySteps := r.replaySteps + 1 } := by
      rw [Replay.count, unread]
    have few : ¬ setting.replayBudget < r.replaySteps + 1 := by
      intro beyond
      rw [count] at goesOn
      simp [Replay.overrun?, unread, beyond] at goesOn
    rw [count, count']
    exact ⟨h.unread, by dsimp only; omega, by dsimp only; omega, within⟩

/-- The additional answer brings a step budget of its own, which covers what the first run counted
live. -/
theorem Continues.goesOn (h : Continues setting entry r r') (delivered : Nat) (clock : Nat → Nat) :
    r'.overrun? (setting.next delivered clock) = none := by
  have budget : (setting.next delivered clock).replayBudget =
      setting.replayBudget + setting.limits.maxSteps.toNat := Nat.mul_succ _ _
  have replayed := h.replayed
  have earlier := h.earlier
  have within := h.within
  unfold Replay.overrun?
  cases unread : r'.unread with
  | nil => simp [h.unread] at unread
  | cons first rest => exact if_neg (by omega)

theorem Continues.tick (h : Continues setting entry r r') (delivered : Nat) (clock : Nat → Nat) :
    (continuing setting entry).Outcome ((Replay.discipline setting).tick r)
      ((Replay.discipline (setting.next delivered clock)).tick r') := by
  unfold Discipline.tick
  simp only [Replay.discipline]
  cases excess : r.count.overrun? setting with
  | some fault => exact .left trivial (by rintro call ⟨⟩)
  | none =>
    have counted := h.count excess
    rw [counted.goesOn delivered clock]
    exact .value counted

theorem Continues.answer (h : Continues setting entry r r') (name : String) (args : List Value)
    (kwargs : List (String × Value)) :
    (continuing setting entry).Outcome (r.answer name args kwargs) (r'.answer name args kwargs) := by
  have unread' := h.unread
  unfold Replay.answer
  cases unread : r.unread with
  | nil =>
    rw [unread] at unread'
    rw [unread']
    refine .left trivial ?_
    rintro call ⟨⟩ same
    have same : entry.functionName = name := same.symm
    rw [List.nil_append]
    dsimp only
    rw [if_neg (not_not_intro same)]
  | cons first rest =>
    rw [unread] at unread'
    rw [unread']
    dsimp only [List.cons_append]
    split
    · exact .left trivial (by rintro call ⟨⟩)
    · exact .answered first.instruction ⟨rfl, h.replayed, h.earlier, h.within⟩ nofun

theorem Replay.stable_read (setting : Setting) : (discipline setting).Stable (·.unread = []) where
  count r h := r.count_unread.trans h
  answer name args kwargs r h := by
    simp only [discipline, Replay.answer, h]
  emit _ _ h := h

variable (setting entry) in
/-- The run that has the answer follows the run that paused, and does not fail before it. -/
def goOn (delivered : Nat) (clock : Nat → Nat) :
    Simulation (Replay.discipline setting) (Replay.discipline (setting.next delivered clock)) where
  toAlignment := continuing setting entry
  externals := Replay.next_externals setting delivered clock
  maxDepth := Replay.next_maxDepth setting delivered clock
  sharedRaised _ := nofun
  sharedMalformed _ := nofun
  sharedDepth := nofun
  tick h := h.tick delivered clock
  answer name args kwargs _ _ h := h.answer name args kwargs
  emit _ h := ⟨h.unread, h.replayed, h.earlier, h.within⟩
  leftGone _ _ :=
    { count := fun r gone call left same =>
        (Replay.stable_read (setting.next delivered clock)).count r (gone call left same)
      answer := fun name args kwargs r gone call left same =>
        (Replay.stable_read (setting.next delivered clock)).answer name args kwargs r
          (gone call left same)
      emit := fun _ _ gone => gone }
  rightGone _ _ := .of_const fun _ _ h => h

end Continuing

section Contradiction

variable (setting : Setting)

def contradicting : Course Replay where
  Along _ := True
  Ended exit r := ∀ fault, exit = .failed (.replay fault) → r.unread ≠ []

def keepsContradicting : Invariant (Replay.discipline setting) where
  toCourse := contradicting
  malformed _ _ _ := by rintro fault ⟨⟩
  tooDeep _ _ := by rintro fault ⟨⟩
  tick r _ := by
    unfold Discipline.tick
    dsimp only
    split
    · trivial
    · next fault excess =>
      rintro replayFault ⟨⟩ read
      simp only [Replay.discipline, Replay.overrun?] at excess read
      rw [read] at excess
      dsimp only at excess
      split at excess
      · cases excess
      · split at excess <;> cases excess
  answer name args kwargs r _ _ _ := by
    simp only [Replay.discipline, Replay.answer]
    split
    · rintro fault ⟨⟩
    · next first rest unread =>
      split
      · rintro fault ⟨⟩ read
        rw [unread] at read
        cases read
      · cases first.instruction <;> trivial
  emit _ _ _ := trivial

/-- A run that has read its journal does not fail for it. -/
theorem evalScript_read {forms : List Expr} {m : Machine Replay}
    (read : (evalBody (Replay.discipline setting) 0 .nil forms m).2.book.unread = [])
    (fault : ReplayFault) : (evalScript setting forms m).1 ≠ .error (.failed (.replay fault)) := by
  have after := (keepsContradicting setting).after_body forms (m := m) trivial
  unfold evalScript
  generalize evalBody (Replay.discipline setting) 0 .nil forms m = final at read after ⊢
  obtain ⟨result, m'⟩ := final
  cases result with
  | ok value =>
    dsimp only at read ⊢
    rw [read]
    nofun
  | error exit =>
    rintro ⟨⟩
    exact after fault rfl read

end Contradiction

theorem evalScript_fresh (setting : Setting) (forms : List Expr) {m : Machine Replay}
    (none : m.book.unread = []) (fault : ReplayFault) :
    (evalScript setting forms m).1 ≠ .error (.failed (.replay fault)) :=
  evalScript_read setting ((Replay.stable_read setting).congruence.body 0 .nil forms m none) fault

theorem evalScript_suspended {setting : Setting} {forms : List Expr} {m m' : Machine Replay}
    {call : ExternalCall}
    (paused : evalScript setting forms m = (.error (.suspended call), m')) :
    evalBody (Replay.discipline setting) 0 .nil forms m = (.error (.suspended call), m') := by
  unfold evalScript at paused
  split at paused
  · split at paused <;> cases paused
  · exact paused

theorem evalScript_answered {setting : Setting} {forms : List Expr} {journal : List JournalEntry}
    {call : ExternalCall} {m : Machine Replay}
    (paused : evalScript setting forms { book := { unread := journal } } =
      (.error (.suspended call), m))
    (answer : Instruction) (delivered : Nat) (clock : Nat → Nat) (fault : ReplayFault) :
    (evalScript (setting.next delivered clock) forms
      { book := { unread := journal ++ [⟨call.functionName, answer⟩] } }).1 ≠
        .error (.failed (.replay fault)) := by
  refine evalScript_read _ ?_ fault
  have start : Continues setting ⟨call.functionName, answer⟩ { unread := journal }
      { unread := journal ++ [⟨call.functionName, answer⟩] } :=
    ⟨rfl, rfl, Nat.zero_le _, Nat.zero_le _⟩
  let before : Machine Replay := { book := { unread := journal } }
  let behind : Machine Replay := { book := { unread := journal ++ [⟨call.functionName, answer⟩] } }
  let goesOn := goOn setting ⟨call.functionName, answer⟩ delivered clock
  have aligned : goesOn.Together' before behind := ⟨start, rfl, rfl⟩
  have body := goesOn.outcome_body forms aligned
  rw [evalScript_suspended paused] at body
  generalize evalBody (Replay.discipline (setting.next delivered clock)) 0 .nil forms _ = final
    at body ⊢
  cases body with
  | together aligned shared => exact absurd rfl (shared _ rfl call)
  | left final gone => exact gone call rfl rfl
  | right final gone => exact gone.elim

end ResumableScript
