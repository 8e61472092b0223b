import Mathlib.Tactic.Basic
import ResumableScript.Proofs.Run.Parsing

/-! A run over script engines resumes every pause of its script. The invariant of a round is how the
answers so far have led to the step that it goes on from. -/
namespace ResumableScript

/-- A host whose steps are all taken by script engines. -/
structure Host.InProcess {σ : Type} (host : Host σ) : Prop where
  start : ∀ payload s, ∃ (engine : Engine) (id : String),
    (host.start payload s).1 = engine.reply (.start id payload)
  resume : ∀ payload s, ∃ (engine : Engine) (id : String),
    (host.resume payload s).1 = engine.reply (.resume id payload)

namespace Run

variable {σ : Type}

section Steps

variable {host : Host σ} {source : String} {externals : List String} {limits : Limits}
  {answers : List Instruction} {engine : Engine} {request : WorkerRequest}

theorem reply_accepted (accepted : (engine.step request).Accepted) {e : WorkerError}
    (replied : engine.reply request = .error e) : e.kind ≠ .checkpoint := by
  cases outcome : (engine.step request).outcome with
  | ok progress =>
    rw [reply_of_ok engine request outcome] at replied
    cases replied
  | error fault =>
    rw [reply_of_error engine request outcome] at replied
    cases replied
    exact accepted fault outcome

theorem reply_paused {call : ExternalCall} {checkpoint : Checkpoint} {prints : List Emission}
    (replied : engine.reply request = .ok ⟨.paused call checkpoint, prints⟩) :
    (engine.step request).outcome = .ok (.paused call checkpoint) := by
  cases outcome : (engine.step request).outcome with
  | ok progress =>
    rw [reply_of_ok engine request outcome] at replied
    cases replied
    rfl
  | error fault =>
    rw [reply_of_error engine request outcome] at replied
    cases replied

theorem dropLast_subset_append {γ : Type} (front back : List γ) :
    front.dropLast ⊆ (front ++ back).dropLast := by
  cases back with
  | nil => rw [List.append_nil]; exact fun _ h => h
  | cons first rest =>
    rw [List.dropLast_append_of_ne_nil (List.cons_ne_nil first rest)]
    exact fun _ there => List.mem_append_left _ (List.dropLast_subset front there)

/-- From a step that some answers have led to, the run goes on without a refused checkpoint, if none
of the answers but the last was too deep. -/
theorem drive_accepted (inProcess : host.InProcess) (rounds : Nat) (st : RunState) (s : σ)
    (reached : Engine.Resumed source externals limits answers (engine.step request))
    (stored : ∀ answer ∈ (answers ++
      answersIn (Plan.trace host (drive rounds st (engine.reply request)) s)).dropLast,
      answer.Storable Checkpoint.answerLevels) {e : WorkerError}
    (failed : (Plan.run host (drive rounds st (engine.reply request)) s).1 = .error (.worker e)) :
    e.kind ≠ .checkpoint := by
  induction rounds generalizing st s answers engine request with
  | zero => cases failed
  | succ rounds ih =>
    have accepted := reached.accepted fun answer there =>
      stored answer (dropLast_subset_append answers _ there)
    rw [drive] at failed stored
    cases replied : engine.reply request with
    | error e' =>
      rw [replied] at failed
      obtain rfl := fail_run failed
      exact reply_accepted accepted replied
    | ok reply =>
      rw [replied] at failed stored
      obtain ⟨progress, prints⟩ := reply
      cases progress with
      | finished output => exact absurd failed (still_run (finish_still _ output) host s e)
      | paused call checkpoint =>
        rw [round_paused] at failed stored
        rcases still_bind_run (answerCall_still { st with prints := st.prints.extend prints } call
            checkpoint) (afterCall (drive rounds) checkpoint) host s with
          ⟨other, differs, ended⟩ | ⟨⟨st', settled⟩, s', ended, answered⟩
        · cases Except.error.inj (failed.symm.trans ended)
          exact absurd rfl (differs e)
        · rw [ended] at failed
          rw [answered] at stored
          cases settled with
          | inr result => cases failed
          | inl instruction =>
            obtain ⟨engine', id, same⟩ := inProcess.resume ⟨checkpoint, instruction⟩ s'
            -- the next step has one more answer behind those that have led to this one
            have next : Engine.Resumed source externals limits (answers ++ [instruction])
                (engine'.step (.resume id ⟨checkpoint, instruction⟩)) :=
              .resumed engine' reached (reply_paused replied) instruction
            refine ih st' (host.resume ⟨checkpoint, instruction⟩ s').2 next ?_ ?_
            · rw [← same, List.append_assoc]
              exact stored
            · rw [← same]
              exact failed

theorem fresh_accepted (inProcess : host.InProcess) (rounds : Nat) (limits : Limits)
    (tools : List ToolDefinition) (opened : RunRequest) (s : σ)
    (stored : ∀ answer ∈
      (answersIn (Plan.trace host (fresh rounds limits tools opened) s)).dropLast,
      answer.Storable Checkpoint.answerLevels) {e : WorkerError}
    (failed : (Plan.run host (fresh rounds limits tools opened) s).1 = .error (.worker e)) :
    e.kind ≠ .checkpoint := by
  let definitions := RuntimeTool.extend tools
  let preamble := opened.preamble.getD (Preamble.build definitions)
  let payload : StartPayload :=
    { code := Preamble.join preamble opened.code, externals := definitions.map (·.name), limits }
  let opening : Record := ⟨opened.callId, .start opened.code preamble⟩
  cases offered : (host.append opening s).1 with
  | error reason =>
    have gaveUp : (Plan.run host (fresh rounds limits tools opened) s).1 =
        .error (.history reason) := by
      show (Plan.run host (Plan.bind (Plan.bind _ _) _) (host.append opening s).2).1 = _
      rw [offered]
      rfl
    cases failed.symm.trans gaveUp
  | ok _ =>
    obtain ⟨ran, answered⟩ := fresh_started host rounds limits tools opened s offered
    rw [ran] at failed
    rw [answered] at stored
    obtain ⟨engine, id, same⟩ := inProcess.start payload (host.append opening s).2
    have reached : Engine.Resumed payload.code payload.externals limits []
        (engine.step (.start id payload)) := .created engine
    refine drive_accepted inProcess rounds { callId := opened.callId, definitions }
      (host.start payload (host.append opening s).2).2 reached ?_ ?_
    · rw [← same]
      exact stored
    · rw [← same]
      exact failed

end Steps

end Run

theorem engineHost_inProcess : engineHost.InProcess where
  start _ _ := ⟨_, _, rfl⟩
  resume _ _ := ⟨_, _, rfl⟩

/-- Any engine resumes any checkpoint that engines have made of a script, with any answer, and a run
over script engines never fails for a checkpoint: as long as all answers but the last come back from
their text, and nest no deeper than a checkpoint can hold. -/
theorem checkpoints_resumable (source : String) (externals : List String) (limits : Limits) :
    (∀ answers step, Engine.Resumed source externals limits answers step →
      (∀ answer ∈ answers, answer.Storable Checkpoint.answerLevels) →
      ∀ call checkpoint, step.outcome = .ok (.paused call checkpoint) →
      (∃ c, checkpoint.load = .ok c) ∧
        ∀ (engine : Engine) answer, (engine.resumeRun checkpoint answer).Accepted) ∧
    ∀ (σ : Type) (host : Host σ), host.InProcess → ∀ rounds tools request s,
      let run := Run.fresh rounds limits tools request
      (∀ answer ∈ (answersIn (Plan.trace host run s)).dropLast,
        answer.Storable Checkpoint.answerLevels) →
      ∀ e, (Plan.run host run s).1 = .error (.worker e) → e.kind ≠ .checkpoint := by
  constructor
  · intro answers step reached stored call checkpoint paused
    obtain ⟨-, engine₁, c, rfl, rfl⟩ :=
      reached.executed fun answer there => stored answer (List.dropLast_subset _ there)
    have entries : ∀ entry ∈ c.journal, entry.instruction.Storable Checkpoint.answerLevels :=
      fun entry there => stored _ (List.mem_map_of_mem there)
    obtain ⟨printsSeen, loaded, replayed⟩ := resumeRun_paused paused entries
    exact ⟨⟨_, loaded⟩, fun engine answer => (replayed engine answer).2⟩
  · intro σ host inProcess rounds tools request s run stored e failed
    exact Run.fresh_accepted inProcess rounds limits tools request s stored failed

/-- Two texts, of which the second is none: the script gets an exception, which it does not catch. -/
theorem checkpoints_resumable_twoTexts :
    let run := Run.fresh 3 {} []
      { callId := "7", code := parseSource "1" "?", preamble := some "" }
    (∀ answer ∈ (answersIn (Plan.trace engineHost run ())).dropLast,
      answer.Storable Checkpoint.answerLevels) ∧
      ∃ e, (Plan.run engineHost run ()).1 = .error (.worker e) ∧ e.kind ≠ .checkpoint := by
  intro run
  have readable : Script.parse (parseSource "1" "?") = .ok [parseForm "1", parseForm "?"] :=
    parseSource_readable (by decide) (by decide) (by decide) (by decide)
  let value : Json := .object [("value", .number (.integer 1 (by decide)))]
  have one : (parsed "1").instruction = .returnValue value := rfl
  have kept : (Instruction.returnValue value).Storable Checkpoint.answerLevels := by
    refine .object _ _ (by decide) ?_
    simp only [List.forall_mem_singleton]
    exact .integer _ _ _
  obtain ⟨e, ending⟩ := fresh_parse_raised readable 0 "7" one kept rfl
  have failed : (Plan.run engineHost run ()).1 = .error (.worker e) := by
    rw [← Run.ending_fst, ending]
  have stored : ∀ answer ∈ (answersIn (Plan.trace engineHost run ())).dropLast,
      answer.Storable Checkpoint.answerLevels := by
    rw [← Run.ending_snd, ending]
    intro answer there
    cases List.mem_singleton.mp there
    exact kept
  have resumable := (checkpoints_resumable (parseSource "1" "?") [] {}).2 Unit engineHost
    engineHost_inProcess 3 [] { callId := "7", code := parseSource "1" "?", preamble := some "" } ()
  exact ⟨stored, e, failed, resumable stored e failed⟩

/-- A text of 123 brackets is parsed, and its value is packed, but not unpacked. -/
theorem checkpoints_resumable_deepText :
    let text := String.ofList (List.replicate 123 '[' ++ List.replicate 123 ']')
    let run := Run.fresh 3 {} []
      { callId := "7", code := parseSource text "1", preamble := some "" }
    ∃ e column, (Plan.run engineHost run ()).1 = .error (.worker e) ∧ e.kind = .checkpoint ∧
      e.message = tooDeepMessage 1 column := by
  intro text run
  obtain ⟨e, column, failed, told⟩ := fresh_nestedArrays 0 "7" (show 122 + 1 ≤ 127 by decide)
    (by decide) (show text = _ from rfl)
  rw [Run.ending_fst] at failed
  exact ⟨e, column, failed, told⟩

end ResumableScript
