import Mathlib.Tactic.Basic
import ResumableScript.Engine.Step
import ResumableScript.Proofs.Engine.Checkpoint
import ResumableScript.Proofs.Evaluation.Following

/-! Pausing does not show. A host that answers every pause from the checkpoint of that pause sees
what one evaluation of the source would show it that had all answers at hand. The invariant is the
continuation behind the pauses that were answered so far; a step replays it and comes to the pause
that the direct evaluation has next. -/
namespace ResumableScript

/-- What a host sees of where a step stopped, without looking into a checkpoint. -/
inductive Sight where
  | paused (call : ExternalCall)
  | finished (output : Json)
  | failed (fault : StepFault)

namespace Sight

def ofOutcome : Except StepFault Progress → Sight
  | .ok (.paused call _) => paused call
  | .ok (.finished output) => finished output
  | .error fault => failed fault

def ofResult : Except Exit Value → Sight
  | .ok value => finished value.toJson
  | .error (.suspended call) => paused call
  | .error (.raised e) => failed (.uncaught e)
  | .error (.failed fault) => failed (.evaluation fault)

/-- What one evaluation shows with all answers at hand: its answered calls and its end, each with
the prints since the call before. -/
def direct (source : String) (externals : List String) (limits : Limits)
    (answers : List Instruction) : List (Sight × List Emission) :=
  match Script.parse source with
  | .error e => [(failed (.unreadable e), [])]
  | .ok forms =>
    let (result, m) := evalDirect externals limits answers forms
    m.book.pauses.map (fun pause => (paused pause.call, pause.prints)) ++
      [(ofResult result, m.book.emitted.reverse)]

section Direct

variable {source : String} (externals : List String) (limits : Limits) (answers : List Instruction)

theorem direct_unreadable {e : SyntaxError} (unreadable : Script.parse source = .error e) :
    direct source externals limits answers = [(failed (.unreadable e), [])] := by
  rw [direct, unreadable]

theorem direct_readable {forms : List Expr} (readable : Script.parse source = .ok forms) :
    let run := evalDirect externals limits answers forms
    direct source externals limits answers =
      run.2.book.pauses.map (fun pause => (paused pause.call, pause.prints)) ++
        [(ofResult run.1, run.2.book.emitted.reverse)] := by
  rw [direct, readable]

theorem direct_prints {forms : List Expr} (readable : Script.parse source = .ok forms) :
    (direct source externals limits answers).flatMap Prod.snd =
      (evalDirect externals limits answers forms).2.book.prints := by
  rw [direct_readable externals limits answers readable, List.flatMap_append, List.flatMap_map,
    List.flatMap_singleton]
  rfl

end Direct

theorem ofOutcome_outcome (c : Continuation) (printsSeen : Nat) (result : Except Exit Value) :
    ofOutcome (Engine.outcome c printsSeen result) = ofResult result := by
  cases result with
  | ok value => rfl
  | error exit => cases exit <;> rfl

end Sight

def Step.sight (step : Step) : Sight := .ofOutcome step.outcome

namespace Engine

/-- The steps from a given one on, while the host has answers to its pauses. Each step may have an
engine of its own. -/
def resumeAll (engines : Nat → Engine) (taken : Nat) (step : Step) : List Instruction → List Step
  | [] => [step]
  | answer :: rest =>
    match step.outcome with
    | .ok (.paused _ checkpoint) =>
      step :: resumeAll engines (taken + 1) ((engines taken).resumeRun checkpoint answer) rest
    | _ => [step]

def session (engines : Nat → Engine) (source : String) (externals : List String) (limits : Limits)
    (answers : List Instruction) : List Step :=
  resumeAll engines 1 ((engines 0).createRun source externals limits) answers

end Engine

def Continuation.behind (source : String) (externals : List String) (limits : Limits)
    (answered : List (Pause × Instruction)) : Continuation where
  source := source
  externals := externals
  limits := limits
  journal := answered.map fun (pause, answer) => ⟨pause.call.functionName, answer⟩
  printsDelivered := UInt64.ofNat (printsOf (answered.map Prod.fst)).length

def Continuation.waiting (source : String) (externals : List String) (limits : Limits)
    (answered : List (Pause × Instruction)) (pause : Pause) : Continuation :=
  Engine.suspend (behind source externals limits answered) pause.call
    (printsOf (answered.map Prod.fst ++ [pause])).length

section Steps

variable {engine : Engine} {source : String} {externals : List String} {limits : Limits}
  {forms : List Expr} {answered : List (Pause × Instruction)} {later : List Instruction}
  {after : List Pause} {result : Except Exit Value} {m : Machine Direct}

variable (source) in
/-- A step shows what the direct run has next. -/
theorem evaluate_shows (timely : limits.Timely engine.clock)
    (direct : evalDirect externals limits (answered.map Prod.snd ++ later) forms = (result, m))
    (pauses : m.book.pauses = answered.map Prod.fst ++ after) :
    let c := Continuation.behind source externals limits answered
    let replay := engine.evaluate c forms
    Shows (c.setting engine) later (answered.map Prod.fst) after (result, m.book)
      (replay.1, replay.2.book) := by
  have names : (Continuation.behind source externals limits answered).journal.map (·.functionName) =
      (answered.map Prod.fst).map (·.call.functionName) := by
    rw [Continuation.behind, List.map_map, List.map_map]
    rfl
  have given : (Continuation.behind source externals limits answered).journal.map (·.instruction) =
      answered.map Prod.snd := by
    rw [Continuation.behind, List.map_map]
    rfl
  exact evalScript_shows forms timely rfl (by rw [given]; exact direct) pauses names

theorem execute_pause {pause : Pause} {rest : List Pause}
    (readable : Script.parse source = .ok forms) (timely : limits.Timely engine.clock)
    (direct : evalDirect externals limits (answered.map Prod.snd ++ later) forms = (result, m))
    (pauses : m.book.pauses = answered.map Prod.fst ++ pause :: rest) :
    let c := Continuation.behind source externals limits answered
    engine.execute c = ⟨.ok (.paused pause.call (Checkpoint.dump
        (Continuation.waiting source externals limits answered pause))),
      (printsOf (answered.map Prod.fst ++ [pause])).drop c.printsDelivered.toNat⟩ := by
  intro c
  obtain ⟨suspended, seen, emitted⟩ := evaluate_shows source timely direct pauses
  have same : c.source = source := rfl
  unfold Engine.execute
  rw [same, readable]
  dsimp only at suspended seen emitted ⊢
  rw [suspended, seen, emitted]
  rfl

theorem execute_end (readable : Script.parse source = .ok forms)
    (timely : limits.Timely engine.clock)
    (direct : evalDirect externals limits (answered.map Prod.snd ++ later) forms = (result, m))
    (pauses : m.book.pauses = answered.map Prod.fst ++ []) :
    let c := Continuation.behind source externals limits answered
    (engine.execute c).sight = .ofResult result ∧
      (engine.execute c).prints = m.book.prints.drop c.printsDelivered.toNat ∧
      ∀ exit, result = .error exit → TakenTogether later exit := by
  intro c
  obtain ⟨ended, emitted, taken⟩ := evaluate_shows source timely direct pauses
  have same : c.source = source := rfl
  unfold Engine.execute
  rw [same, readable]
  dsimp only at ended emitted taken ⊢
  refine ⟨?_, emitted, taken⟩
  rw [ended]
  exact Sight.ofOutcome_outcome _ _ _

theorem waiting_answer (pause : Pause) (answer : Instruction) :
    (Continuation.waiting source externals limits answered pause).answer answer =
      .ok (Continuation.behind source externals limits (answered ++ [(pause, answer)])) := by
  simp [Continuation.waiting, Continuation.answer, Engine.suspend, Continuation.behind]

theorem resumeRun_pause (pause : Pause) (answer : Instruction)
    (storable : ∀ pair ∈ answered, pair.2.Storable Checkpoint.answerLevels) :
    engine.resumeRun (Checkpoint.dump (Continuation.waiting source externals limits answered pause))
        answer =
      engine.execute (Continuation.behind source externals limits (answered ++ [(pause, answer)])) := by
  have entries : ∀ entry ∈ (Continuation.waiting source externals limits answered pause).journal,
      entry.instruction.Storable Checkpoint.answerLevels := by
    intro entry there
    obtain ⟨pair, member, rfl⟩ := List.mem_map.mp there
    exact storable pair member
  unfold Engine.resumeRun
  rw [Checkpoint.load_dump entries]
  dsimp only
  rw [waiting_answer]

theorem printsOf_append (before after : List Pause) :
    printsOf (before ++ after) = printsOf before ++ printsOf after := List.flatMap_append

theorem Direct.prints_eq (d : Direct) : d.prints = printsOf d.pauses ++ d.emitted.reverse := rfl

theorem drop_delivered {before all news : List Emission} (whole : all = before ++ news)
    (few : before.length < UInt64.size) : all.drop (UInt64.ofNat before.length).toNat = news := by
  rw [UInt64.toNat_ofNat_of_lt' few, whole, List.drop_left]

/-- The steps of a host show these pauses and the end of a direct run. -/
structure Faithful (steps : List Step) (after : List Pause) (result : Except Exit Value)
    (d : Direct) : Prop where
  sights : steps.map Step.sight = after.map (fun pause => .paused pause.call) ++ [.ofResult result]
  prints : d.prints.length < UInt64.size →
    steps.map Step.prints = after.map Pause.prints ++ [d.emitted.reverse]
  taken : ∀ exit, result = .error exit → ∃ unused, TakenTogether unused exit

theorem Faithful.cons {steps : List Step} {step : Step} {pause : Pause} {d : Direct}
    (sight : step.sight = .paused pause.call)
    (prints : d.prints.length < UInt64.size → step.prints = pause.prints)
    (rest : Faithful steps after result d) : Faithful (step :: steps) (pause :: after) result d where
  sights := by
    rw [List.map_cons, sight, rest.sights]
    rfl
  prints few := by
    rw [List.map_cons, prints few, rest.prints few]
    rfl
  taken := rest.taken

theorem execute_pause_prints {pause : Pause} {rest : List Pause}
    (pauses : m.book.pauses = answered.map Prod.fst ++ pause :: rest)
    (few : m.book.prints.length < UInt64.size) :
    (printsOf (answered.map Prod.fst ++ [pause])).drop
        (Continuation.behind source externals limits answered).printsDelivered.toNat =
      pause.prints := by
  have whole := m.book.prints_eq
  rw [pauses, printsOf_append] at whole
  rw [whole, List.length_append, List.length_append] at few
  have news : printsOf [pause] = pause.prints := List.append_nil _
  rw [← news]
  exact drop_delivered (printsOf_append _ _) (by omega)

theorem Engine.resumeAll_last {engines : Nat → Engine} {taken : Nat} {step : Step}
    (still : ∀ call, step.sight ≠ .paused call) (answers : List Instruction) :
    Engine.resumeAll engines taken step answers = [step] := by
  cases answers with
  | nil => rfl
  | cons answer rest =>
    unfold Engine.resumeAll
    split
    · next call checkpoint paused =>
      refine absurd ?_ (still call)
      rw [Step.sight, paused]
      rfl
    · rfl

theorem ofResult_still {answer : Instruction}
    (taken : ∀ exit, result = .error exit → TakenTogether (answer :: later) exit)
    (call : ExternalCall) : Sight.ofResult result ≠ .paused call := by
  cases result with
  | ok value => nofun
  | error exit =>
    cases exit with
    | raised e => nofun
    | suspended call => exact absurd (taken _ rfl) (List.cons_ne_nil _ _)
    | failed fault => nofun

theorem execute_end_faithful (readable : Script.parse source = .ok forms)
    (timely : limits.Timely engine.clock)
    (direct : evalDirect externals limits (answered.map Prod.snd ++ later) forms = (result, m))
    (pauses : m.book.pauses = answered.map Prod.fst ++ []) :
    Faithful [engine.execute (Continuation.behind source externals limits answered)] [] result
      m.book := by
  obtain ⟨sight, prints, taken⟩ := execute_end readable timely direct pauses
  refine ⟨congrArg (fun s => [s]) sight, fun few => ?_, fun exit same => ⟨later, taken exit same⟩⟩
  have whole := m.book.prints_eq
  rw [pauses, List.append_nil] at whole
  rw [whole, List.length_append] at few
  exact congrArg (fun p => [p]) (prints.trans (drop_delivered whole (by omega)))

theorem resumeAll_faithful {engines : Nat → Engine}
    (readable : Script.parse source = .ok forms) (timely : ∀ n, limits.Timely (engines n).clock)
    (storable : ∀ pair ∈ answered, pair.2.Storable Checkpoint.answerLevels)
    (storableLater : ∀ answer ∈ later, answer.Storable Checkpoint.answerLevels)
    (direct : evalDirect externals limits (answered.map Prod.snd ++ later) forms = (result, m))
    (pauses : m.book.pauses = answered.map Prod.fst ++ after) (first : limits.Timely engine.clock)
    (taken : Nat) :
    Faithful (Engine.resumeAll engines taken
      (engine.execute (Continuation.behind source externals limits answered)) later)
      after result m.book := by
  -- on the answers that are left; an answer is used up where the direct run pauses once more
  induction later generalizing answered after engine taken with
  | nil =>
    have enough := evalDirect_pauses_le externals limits (answered.map Prod.snd ++ []) forms
    rw [direct, pauses] at enough
    simp only [List.length_append, List.length_map, List.length_nil] at enough
    obtain rfl : after = [] := List.eq_nil_of_length_eq_zero (by omega)
    exact execute_end_faithful readable first direct pauses
  | cons answer rest ih =>
    cases after with
    | nil =>
      obtain ⟨sight, -, ends⟩ := execute_end readable first direct pauses
      rw [Engine.resumeAll_last (fun call => sight ▸ ofResult_still ends call)]
      exact execute_end_faithful readable first direct pauses
    | cons pause after =>
      have direct' : evalDirect externals limits
          ((answered ++ [(pause, answer)]).map Prod.snd ++ rest) forms = (result, m) := by
        rw [List.map_append, List.append_assoc]
        exact direct
      have pauses' : m.book.pauses = (answered ++ [(pause, answer)]).map Prod.fst ++ after := by
        rw [List.map_append, List.append_assoc]
        exact pauses
      have storable' : ∀ pair ∈ answered ++ [(pause, answer)],
          pair.2.Storable Checkpoint.answerLevels := by
        intro pair there
        rcases List.mem_append.mp there with there | there
        · exact storable pair there
        · rw [List.mem_singleton.mp there]
          exact storableLater answer List.mem_cons_self
      have goesOn := ih storable' (fun other there => storableLater other (List.mem_cons_of_mem _ there))
        direct' pauses' (timely taken) (taken + 1)
      rw [execute_pause readable first direct pauses, Engine.resumeAll]
      dsimp only
      rw [resumeRun_pause pause answer storable]
      exact .cons rfl (execute_pause_prints pauses) goesOn

end Steps

theorem Faithful.report {steps : List Step} {after : List Pause} {result : Except Exit Value}
    {d : Direct} (h : Faithful steps after result d) {step : Step} (there : step ∈ steps)
    {fault : StepFault} (failed : step.outcome = .error fault) (detail : String) :
    fault.report ≠ .checkpoint detail := by
  have shown : Sight.failed fault ∈
      after.map (fun pause => Sight.paused pause.call) ++ [.ofResult result] := by
    rw [← h.sights, show Sight.failed fault = step.sight by rw [Step.sight, failed]; rfl]
    exact List.mem_map_of_mem there
  rcases List.mem_append.mp shown with paused | ended
  · obtain ⟨pause, -, same⟩ := List.mem_map.mp paused
    cases same
  · have ended := List.mem_singleton.mp ended
    cases result with
    | ok value => cases ended
    | error exit =>
      obtain ⟨unused, taken⟩ := h.taken exit rfl
      cases exit with
      | raised e => cases ended; nofun
      | suspended call => cases ended
      | failed fault =>
        cases ended
        cases fault with
        | malformed fault => nofun
        | limit fault => nofun
        | replay fault => exact taken.elim
        | stalled => exact taken.elim

section Session

variable (engines : Nat → Engine) {source : String} (externals : List String) (limits : Limits)
  (answers : List Instruction)

theorem session_unreadable {e : SyntaxError} (unreadable : Script.parse source = .error e) :
    Engine.session engines source externals limits answers = [.failed (.unreadable e)] := by
  unfold Engine.session Engine.createRun Engine.execute
  rw [unreadable]
  have still (call : ExternalCall) : (Step.failed (.unreadable e)).sight ≠ .paused call := by
    rintro ⟨⟩
  exact Engine.resumeAll_last still answers

theorem session_faithful {forms : List Expr} (readable : Script.parse source = .ok forms)
    (timely : ∀ n, limits.Timely (engines n).clock)
    (storable : ∀ answer ∈ answers, answer.Storable Checkpoint.answerLevels) :
    let direct := evalDirect externals limits answers forms
    Faithful (Engine.session engines source externals limits answers) direct.2.book.pauses direct.1
      direct.2.book :=
  have unanswered : ∀ pair ∈ ([] : List (Pause × Instruction)),
      pair.2.Storable Checkpoint.answerLevels := nofun
  resumeAll_faithful readable timely unanswered storable rfl rfl (timely 0) 1

end Session

/-- Answering pauses one by one shows what one evaluation shows: the same calls and end, the same
prints as long as a word can count them, and no checkpoint is refused. -/
theorem session_direct (engines : Nat → Engine) (source : String) (externals : List String)
    (limits : Limits) (answers : List Instruction)
    (timely : ∀ n, limits.Timely (engines n).clock)
    (storable : ∀ answer ∈ answers, answer.Storable Checkpoint.answerLevels) :
    let steps := Engine.session engines source externals limits answers
    let direct := Sight.direct source externals limits answers
    steps.map Step.sight = direct.map Prod.fst ∧
      ((direct.flatMap Prod.snd).length < UInt64.size →
        steps.map Step.prints = direct.map Prod.snd) ∧
      ∀ step ∈ steps, ∀ fault, step.outcome = .error fault →
        ∀ detail, fault.report ≠ .checkpoint detail := by
  intro steps direct
  cases read : Script.parse source with
  | error e =>
    have one : steps = [.failed (.unreadable e)] :=
      session_unreadable engines externals limits answers read
    have shown : direct = _ := Sight.direct_unreadable externals limits answers read
    rw [one, shown]
    refine ⟨rfl, fun _ => rfl, fun step there fault failed detail => ?_⟩
    rw [List.mem_singleton.mp there] at failed
    cases failed
    nofun
  | ok forms =>
    have faithful := session_faithful engines externals limits answers read timely storable
    have shown : direct = _ := Sight.direct_readable externals limits answers read
    refine ⟨?_, fun few => ?_, fun step there fault failed => faithful.report there failed⟩
    · rw [shown, List.map_append, List.map_map]
      exact faithful.sights
    · rw [Sight.direct_prints externals limits answers read] at few
      rw [shown, List.map_append, List.map_map]
      exact faithful.prints few

/-- Steps around two calls, the first of which gets a number and the second an exception. -/
theorem session_direct_two_calls :
    let source := "(print 1 (+ 1 (f 2))) (try (f 3) (except e (print (get e \"message\"))))"
    let answers : List Instruction := [.returnValue (.ofInt64 41), .exception ⟨"Timeout", "late"⟩]
    let steps := Engine.session (fun _ => {}) source ["f"] {} answers
    let direct := Sight.direct source ["f"] {} answers
    direct.map (·.snd.map (·.values.map Json.compact)) = [[], [["1", "42"]], [["\"late\""]]] ∧
      steps.map Step.sight = direct.map Prod.fst ∧
      steps.map Step.prints = direct.map Prod.snd := by
  intro source answers steps direct
  have inTime : ∀ n : Nat, ({} : Limits).Timely ((fun _ => {} : Nat → Engine) n).clock :=
    fun _ _ _ _ _ => (by decide : 0 < ({} : Limits).maxDurationMs.toNat)
  have kept : ∀ answer ∈ answers, answer.Storable Checkpoint.answerLevels :=
    List.forall_mem_cons.mpr ⟨.integer _ 41 _, List.forall_mem_singleton.mpr trivial⟩
  have shown := session_direct (fun _ => {}) source ["f"] {} answers inTime kept
  exact ⟨by decide +kernel, shown.1, shown.2.1 (by decide +kernel)⟩

end ResumableScript
