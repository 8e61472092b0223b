import Mathlib.Tactic.Basic
import ResumableScript.Proofs.Evaluation.Direct
import ResumableScript.Proofs.Evaluation.Simulation

/-! Replay follows direct evaluation. The two go together while the journal answers the calls; at
the first call beyond it the replay suspends, and the direct run records that call as its next
pause, or suspends as well if it has no answer either. -/
namespace ResumableScript

/-- The limit on the time is never met, whenever the clock is looked at. -/
def Limits.Timely (limits : Limits) (clock : Nat → Nat) : Prop :=
  ∀ steps ≤ limits.maxSteps.toNat, 0 < steps → steps % 256 = 0 →
    clock steps < limits.maxDurationMs.toNat

section Following

variable (setting : Setting) (journal : List JournalEntry) (later : List Instruction)

/-- A replay of a journal and a direct run that has also the later answers, at the same place. -/
structure FollowsAt (r : Replay) (d : Direct) : Prop where
  unread : r.unread = journal.drop d.pauses.length
  reached : d.pauses.length ≤ journal.length
  answers : d.answers = r.unread.map (·.instruction) ++ later
  live : r.unread = [] → r.steps = d.steps
  replayed : r.unread ≠ [] → r.steps = 0 ∧ d.steps ≤ setting.limits.maxSteps.toNat ∧
    r.replaySteps ≤ setting.limits.maxSteps.toNat * d.pauses.length + d.steps
  seen : r.printsSeen = d.prints.length
  emitted : r.emitted.reverse = d.prints.drop setting.delivered

/-- A replay that has left, and what the direct run has recorded where it did. -/
inductive LeftBehind : Exit → Replay → Direct → Prop where
  | suspended {call : ExternalCall} {r : Replay} {d : Direct} (before : List Pause)
      (prints : List Emission) (whole : before.length = journal.length)
      (paused : before ++ [⟨call, prints⟩] <+: d.pauses)
      (seen : r.printsSeen = (before.flatMap Pause.prints ++ prints).length)
      (emitted : r.emitted.reverse =
        (before.flatMap Pause.prints ++ prints).drop setting.delivered) :
      LeftBehind (.suspended call) r d
  | diverged {answered called : String} {r : Replay} {d : Direct} (before : List Pause)
      (pause : Pause) (paused : before ++ [pause] <+: d.pauses)
      (differs : (journal.map (·.functionName))[before.length]? = some answered)
      (other : pause.call.functionName ≠ answered) :
      LeftBehind (.failed (.replay (.diverged answered called))) r d

def TakenTogether : Exit → Prop
  | .raised _ | .failed (.malformed _) | .failed (.limit _) => True
  | .suspended _ => later = []
  | .failed (.replay _) | .failed .stalled => False

def following : Alignment Replay Direct where
  Together := FollowsAt setting journal later
  LeftGone := LeftBehind setting journal
  RightGone _ _ d := d.pauses.length < journal.length
  Shared := TakenTogether later

variable {setting journal later}

theorem FollowsAt.ahead {r : Replay} {d : Direct} (h : FollowsAt setting journal later r d)
    (more : r.unread ≠ []) : d.pauses.length < journal.length :=
  Nat.lt_of_not_le fun all => more (h.unread.trans (List.drop_eq_nil_of_le all))

theorem FollowsAt.tick_live {r : Replay} {d : Direct}
    (timely : setting.limits.Timely setting.clock) (live : r.unread = []) (h : FollowsAt setting journal later r d) :
    (following setting journal later).Outcome ((Replay.discipline setting).tick r)
      ((Direct.discipline setting.externals setting.limits).tick d) := by
  have steps := h.live live
  have counted : FollowsAt setting journal later { r with steps := r.steps + 1 } d.count :=
    { unread := h.unread
      reached := h.reached
      answers := h.answers
      live := fun _ => congrArg (· + 1) steps
      replayed := fun more => absurd live more
      seen := h.seen
      emitted := h.emitted }
  have count : r.count = { r with steps := r.steps + 1 } := by rw [Replay.count, live]
  unfold Discipline.tick
  simp only [Replay.discipline, Direct.discipline, count]
  by_cases beyond : setting.limits.maxSteps.toNat < d.steps + 1
  · have left : Replay.overrun? setting { r with steps := r.steps + 1 } =
        some (.limit (.steps setting.limits.maxSteps)) := by
      simp [Replay.overrun?, live, steps, beyond]
    have right : d.count.overrun? setting.limits = some (.limit (.steps setting.limits.maxSteps)) :=
      if_pos beyond
    rw [left, right]
    exact .exit counted trivial
  · have inTime := timely (d.steps + 1) (Nat.not_lt.mp beyond) (Nat.succ_pos _)
    have left : Replay.overrun? setting { r with steps := r.steps + 1 } = none := by
      simpa [Replay.overrun?, live, steps, beyond] using inTime
    have right : d.count.overrun? setting.limits = none := if_neg beyond
    rw [left, right]
    exact .value counted

/-- Within the journal, the replay has a step budget for every answered call, and so goes on as long
as the direct run does. -/
theorem FollowsAt.tick_replayed {r : Replay} {d : Direct}
    (entries : setting.answers = journal.length) (more : r.unread ≠ [])
    (h : FollowsAt setting journal later r d) :
    (following setting journal later).Outcome ((Replay.discipline setting).tick r)
      ((Direct.discipline setting.externals setting.limits).tick d) := by
  have ahead := h.ahead more
  obtain ⟨still, within, replayed⟩ := h.replayed more
  have count : r.count = { r with replaySteps := r.replaySteps + 1 } := by
    unfold Replay.count
    cases unread : r.unread with
    | nil => exact absurd unread more
    | cons entry rest => rfl
  unfold Discipline.tick
  simp only [Replay.discipline, Direct.discipline, count]
  by_cases beyond : setting.limits.maxSteps.toNat < d.steps + 1
  · have right : d.count.overrun? setting.limits = some (.limit (.steps setting.limits.maxSteps)) :=
      if_pos beyond
    rw [right]
    exact .right trivial ahead
  · -- an answer is left, so the replay has a step budget beside those of the answers used up
    have budget : setting.limits.maxSteps.toNat * (d.pauses.length + 1) ≤ setting.replayBudget := by
      unfold Setting.replayBudget
      rw [entries]
      exact Nat.mul_le_mul_left _ ahead
    have left : Replay.overrun? setting { r with replaySteps := r.replaySteps + 1 } = none := by
      rw [Nat.mul_succ] at budget
      unfold Replay.overrun?
      cases unread : r.unread with
      | nil => exact absurd unread more
      | cons entry rest => exact if_neg (by dsimp only; omega)
    have right : d.count.overrun? setting.limits = none := if_neg beyond
    rw [left, right]
    refine .value ?_
    exact
      { unread := h.unread
        reached := h.reached
        answers := h.answers
        live := fun none => absurd none more
        replayed := fun _ => ⟨still, Nat.not_lt.mp beyond, Nat.succ_le_succ replayed⟩
        seen := h.seen
        emitted := h.emitted }

theorem FollowsAt.answered {entry : JournalEntry} {rest : List JournalEntry} {r : Replay} {d : Direct}
    (call : ExternalCall) (unread : r.unread = entry :: rest)
    (h : FollowsAt setting journal later r d) :
    FollowsAt setting journal later { r with unread := rest }
      { answers := rest.map (·.instruction) ++ later
        pauses := d.pauses ++ [⟨call, d.emitted.reverse⟩] } := by
  have more : r.unread ≠ [] := by simp [unread]
  obtain ⟨still, within, replayed⟩ := h.replayed more
  have prints : (⟨rest.map (·.instruction) ++ later, 0, [],
      d.pauses ++ [⟨call, d.emitted.reverse⟩]⟩ : Direct).prints = d.prints := by
    simp [Direct.prints]
  refine ⟨?_, ?_, rfl, fun _ => still, fun _ => ⟨still, Nat.zero_le _, ?_⟩, ?_, ?_⟩
  · have tail := congrArg List.tail (unread.symm.trans h.unread)
    rw [List.tail_drop] at tail
    simpa using tail
  · rw [List.length_append]
    exact h.ahead more
  · simp only [List.length_append, List.length_singleton, Nat.mul_succ]
    omega
  · rw [prints, ← h.seen]
  · rw [prints, ← h.emitted]

theorem FollowsAt.answer {r : Replay} {d : Direct} (name : String) (args : List Value)
    (kwargs : List (String × Value)) (h : FollowsAt setting journal later r d) :
    (following setting journal later).Outcome (r.answer name args kwargs)
      (d.answer name args kwargs) := by
  have answers := h.answers
  unfold Replay.answer Direct.answer
  cases unread : r.unread with
  | nil =>
    rw [unread] at answers
    cases later with
    | nil =>
      rw [answers]
      exact .exit h rfl
    | cons instruction rest =>
      have whole : d.pauses.length = journal.length := by
        have none := unread.symm.trans h.unread
        exact Nat.le_antisymm h.reached (List.drop_eq_nil_iff.mp none.symm)
      rw [answers]
      exact .left trivial (.suspended d.pauses d.emitted.reverse whole List.prefix_rfl h.seen h.emitted)
  | cons entry rest =>
    rw [unread] at answers
    rw [answers]
    dsimp only [List.map_cons, List.cons_append]
    split
    · next other =>
      have differs : (journal.map (·.functionName))[d.pauses.length]? = some entry.functionName := by
        rw [List.getElem?_map, ← List.head?_drop, ← h.unread, unread]
        rfl
      exact .left trivial (.diverged d.pauses _ List.prefix_rfl differs fun same => other same.symm)
    · exact .answered entry.instruction (h.answered _ unread) fun _ => trivial

theorem FollowsAt.emit {r : Replay} {d : Direct} (emission : Emission)
    (h : FollowsAt setting journal later r d) :
    FollowsAt setting journal later (r.emit setting emission) (d.emit emission) := by
  have prints : (d.emit emission).prints = d.prints ++ [emission] := by
    simp [Direct.prints, Direct.emit]
  refine ⟨h.unread, h.reached, h.answers, h.live, h.replayed, ?_, ?_⟩
  · rw [prints, List.length_append, ← h.seen]
    rfl
  · rw [prints]
    unfold Replay.emit
    dsimp only
    split
    · next new =>
      have room : setting.delivered ≤ d.prints.length := by
        rw [← h.seen]
        exact Nat.le_of_lt_succ new
      rw [List.reverse_cons, h.emitted, List.drop_append_of_le_length room]
    · next old =>
      have none : (d.prints ++ [emission]).length ≤ setting.delivered := by
        rw [List.length_append, ← h.seen]
        exact Nat.not_lt.mp old
      have none' : d.prints.length ≤ setting.delivered := by
        rw [← h.seen]
        omega
      rw [h.emitted, List.drop_eq_nil_of_le none, List.drop_eq_nil_of_le none']

theorem LeftBehind.grow {exit : Exit} {r : Replay} {d d' : Direct} (grown : d.pauses <+: d'.pauses)
    (h : LeftBehind setting journal exit r d) : LeftBehind setting journal exit r d' := by
  cases h with
  | suspended before prints whole paused seen emitted =>
    exact .suspended before prints whole (paused.trans grown) seen emitted
  | diverged before pause paused differs other =>
    exact .diverged before pause (paused.trans grown) differs other

theorem discipline_externals (setting : Setting) : (Replay.discipline setting).externals =
    (Direct.discipline setting.externals setting.limits).externals := rfl

theorem discipline_maxDepth (setting : Setting) : (Replay.discipline setting).maxDepth =
    (Direct.discipline setting.externals setting.limits).maxDepth := rfl

variable (later) in
def follow (timely : setting.limits.Timely setting.clock)
    (entries : setting.answers = journal.length) :
    Simulation (Replay.discipline setting) (Direct.discipline setting.externals setting.limits) where
  toAlignment := following setting journal later
  externals := discipline_externals setting
  maxDepth := discipline_maxDepth setting
  sharedRaised _ := trivial
  sharedMalformed _ := trivial
  sharedDepth := trivial
  tick := by
    intro r d h
    by_cases live : r.unread = []
    · exact h.tick_live timely live
    · exact h.tick_replayed entries live
  answer name args kwargs _ _ h := h.answer name args kwargs
  emit emission h := h.emit emission
  leftGone exit r :=
    { count := fun d h => h.grow (show d.pauses <+: d.count.pauses from List.prefix_rfl)
      answer := fun name args kwargs d h => h.grow (d.pauses_answer name args kwargs)
      emit := fun e d h => h.grow (show d.pauses <+: (d.emit e).pauses from List.prefix_rfl) }
  rightGone exit d := .of_const fun _ _ h => h

def printsOf (pauses : List Pause) : List Emission := pauses.flatMap Pause.prints

/-- What a step shows that is replayed behind the first pauses of a direct run: the next pause or
the end of that run, and the prints up to there that were not delivered. -/
def Shows (setting : Setting) (later : List Instruction) (before after : List Pause)
    (direct : Except Exit Value × Direct) (replay : Except Exit Value × Replay) : Prop :=
  match after with
  | pause :: _ =>
    let prints := printsOf (before ++ [pause])
    replay.1 = .error (.suspended pause.call) ∧ replay.2.printsSeen = prints.length ∧
      replay.2.emitted.reverse = prints.drop setting.delivered
  | [] =>
    replay.1 = direct.1 ∧ replay.2.emitted.reverse = direct.2.prints.drop setting.delivered ∧
      ∀ exit, direct.1 = .error exit → TakenTogether later exit

section Showing

variable {before after : List Pause} {result : Except Exit Value} {r : Replay} {d : Direct}

theorem FollowsAt.shows (h : FollowsAt setting journal later r d)
    (pauses : d.pauses = before ++ after) (answered : before.length = journal.length)
    (shared : ∀ exit, result = .error exit → TakenTogether later exit) :
    r.unread = [] ∧ Shows setting later before after (result, d) (result, r) := by
  have reached := h.reached
  rw [pauses, List.length_append] at reached
  have last : after = [] := List.eq_nil_of_length_eq_zero (by omega)
  subst last
  refine ⟨h.unread.trans (List.drop_eq_nil_of_le (Nat.le_of_eq ?_)), rfl, h.emitted, shared⟩
  rw [pauses, List.append_nil, answered]

theorem LeftBehind.shows {exit : Exit} (h : LeftBehind setting journal exit r d)
    (pauses : d.pauses = before ++ after)
    (names : journal.map (·.functionName) = before.map (·.call.functionName)) :
    Shows setting later before after (result, d) (.error exit, r) := by
  have answered : journal.length = before.length := by
    simpa using congrArg List.length names
  cases h with
  | @suspended call _ _ before' prints whole paused seen emitted =>
    obtain ⟨rest, paused⟩ := paused
    rw [pauses, List.append_assoc] at paused
    obtain ⟨rfl, rfl⟩ := List.append_inj paused (whole.trans answered)
    have shown : printsOf (before' ++ [⟨call, prints⟩]) =
        before'.flatMap Pause.prints ++ prints := by
      simp [printsOf]
    refine ⟨rfl, ?_⟩
    rw [shown]
    exact ⟨seen, emitted⟩
  | @diverged answer called _ _ before' pause paused differs other =>
    obtain ⟨rest, paused⟩ := paused
    rw [names, List.getElem?_map] at differs
    obtain ⟨found, there, rfl⟩ := Option.map_eq_some_iff.mp differs
    obtain ⟨inside, -⟩ := List.getElem?_eq_some_iff.mp there
    rw [← List.getElem?_append_left inside, ← pauses, ← paused] at there
    have same : pause = found := by simpa using there
    exact absurd (congrArg (·.call.functionName) same) other

/-- One step of a run shows what the direct run has next. -/
theorem evalScript_shows (forms : List Expr) (timely : setting.limits.Timely setting.clock)
    (entries : setting.answers = journal.length) {m : Machine Direct}
    (direct : evalDirect setting.externals setting.limits (journal.map (·.instruction) ++ later) forms =
      (result, m))
    (pauses : m.book.pauses = before ++ after)
    (names : journal.map (·.functionName) = before.map (·.call.functionName)) :
    let replay := evalScript setting forms { book := { unread := journal } }
    Shows setting later before after (result, m.book) (replay.1, replay.2.book) := by
  have answered : before.length = journal.length := by
    simpa using (congrArg List.length names).symm
  have start : FollowsAt setting journal later { unread := journal }
      { answers := journal.map (·.instruction) ++ later } :=
    { unread := rfl
      reached := Nat.zero_le _
      answers := rfl
      live := fun _ => rfl
      replayed := fun _ => ⟨rfl, Nat.zero_le _, Nat.zero_le _⟩
      seen := rfl
      emitted := List.drop_nil.symm }
  have body := (follow later timely entries).outcome_body forms
    (show (follow later timely entries).Together'
      { book := { unread := journal } } { book := { answers := journal.map (·.instruction) ++ later } }
      from ⟨start, rfl, rfl⟩)
  unfold evalDirect at direct
  unfold evalScript
  dsimp only
  generalize evalBody (Replay.discipline setting) 0 .nil forms _ = replay at body ⊢
  rw [direct] at body
  cases body with
  | @together _ r _ aligned shared =>
    obtain ⟨live, shows⟩ := aligned.1.shows pauses answered shared
    cases result with
    | ok value =>
      -- all answers are used up, so the check for those that are left passes
      dsimp only
      rw [live]
      exact shows
    | error exit => exact shows
  | left final gone => exact gone.shows pauses names
  | right final gone =>
    -- a direct run that leaves first has paused less often than its pauses say
    have behind : m.book.pauses.length < journal.length := gone
    rw [pauses, List.length_append] at behind
    omega

end Showing

theorem Direct.stable_given (externals : List String) (limits : Limits) (given : Nat) :
    (Direct.discipline externals limits).Stable fun d =>
      d.pauses.length + d.answers.length = given where
  count _ h := h
  answer name args kwargs d h := by
    obtain ⟨answers, steps, emitted, pauses⟩ := d
    cases answers with
    | nil => exact h
    | cons instruction rest =>
      simp only [Direct.discipline, Direct.answer, List.length_append, List.length_singleton]
      dsimp only [List.length_cons] at h
      omega
  emit _ _ h := h

theorem evalDirect_pauses_le (externals : List String) (limits : Limits)
    (answers : List Instruction) (forms : List Expr) :
    (evalDirect externals limits answers forms).2.book.pauses.length ≤ answers.length := by
  have given := (Direct.stable_given externals limits answers.length).congruence.body 0 .nil forms
    { book := { answers } } (Nat.zero_add _)
  exact Nat.le.intro given

end Following

end ResumableScript
