import Mathlib.Tactic.Basic
import ResumableScript.Proofs.Engine.Resumption
import ResumableScript.Proofs.Engine.Session

/-! What the checkpoints of one script hold. From step to step a checkpoint keeps what the run was
created with, its journal grows by the call that was answered, and its count of prints is that of all
prints that the steps have returned. -/
namespace ResumableScript

/-- The steps of one script, each of which resumes the pause before it, all of them in time: the
answered pauses with their answers, and the step that these have led to. -/
inductive Engine.Chain (source : String) (externals : List String) (limits : Limits) :
    List (Pause × Instruction) → Step → Prop where
  | created (engine : Engine) (timely : limits.Timely engine.clock) :
      Chain source externals limits [] (engine.createRun source externals limits)
  | resumed (engine : Engine) (timely : limits.Timely engine.clock)
      {answered : List (Pause × Instruction)} {step : Step} {call : ExternalCall}
      {checkpoint : Checkpoint} (before : Chain source externals limits answered step)
      (paused : step.outcome = .ok (.paused call checkpoint)) (answer : Instruction) :
      Chain source externals limits (answered ++ [(⟨call, step.prints⟩, answer)])
        (engine.resumeRun checkpoint answer)

section Chain

variable {source : String} {externals : List String} {limits : Limits}
  {answered : List (Pause × Instruction)} {step : Step} {forms : List Expr}

theorem Engine.Chain.readable (chain : Engine.Chain source externals limits answered step)
    {call : ExternalCall} {checkpoint : Checkpoint}
    (paused : step.outcome = .ok (.paused call checkpoint)) :
    ∃ forms, Script.parse source = .ok forms := by
  induction chain generalizing call checkpoint with
  | created engine timely =>
    cases read : Script.parse source with
    | ok forms => exact ⟨forms, rfl⟩
    | error e =>
      rw [Engine.createRun, Engine.execute, read] at paused
      cases paused
  | resumed engine timely before paused' answer ih => exact ih paused'

theorem printsOf_singleton (pause : Pause) : printsOf [pause] = pause.prints := List.append_nil _

theorem printsOf_answered (answered : List (Pause × Instruction)) (pause : Pause)
    (answer : Instruction) :
    printsOf ((answered ++ [(pause, answer)]).map Prod.fst) =
      printsOf (answered.map Prod.fst) ++ pause.prints := by
  rw [List.map_append, printsOf_append]
  exact congrArg _ (printsOf_singleton pause)

def journalOf (answered : List (Pause × Instruction)) : List JournalEntry :=
  answered.map fun (pause, answer) => ⟨pause.call.functionName, answer⟩

/-- The answered pauses of a direct run are those of a chain: they have the same calls and answers, as
many prints as far as a word counts, and the same prints as long as a word can count them. -/
structure Traced (answered followed : List (Pause × Instruction)) : Prop where
  calls : followed.map (fun (pause, answer) => (pause.call, answer)) =
    answered.map fun (pause, answer) => (pause.call, answer)
  count : (printsOf (answered.map Prod.fst)).length % UInt64.size =
    (printsOf (followed.map Prod.fst)).length % UInt64.size
  prints : (printsOf (answered.map Prod.fst)).length < UInt64.size → followed = answered

section Traced

variable {followed : List (Pause × Instruction)}

theorem Traced.answers (traced : Traced answered followed) :
    followed.map Prod.snd = answered.map Prod.snd := by
  have same := congrArg (List.map Prod.snd) traced.calls
  rw [List.map_map, List.map_map] at same
  exact same

theorem Traced.journal (traced : Traced answered followed) :
    journalOf followed = journalOf answered := by
  have same := congrArg
    (List.map fun (call, answer) => JournalEntry.mk call.functionName answer) traced.calls
  rw [List.map_map, List.map_map] at same
  exact same

theorem Traced.storable (traced : Traced answered followed)
    (storable : ∀ pair ∈ answered, pair.2.Storable Checkpoint.answerLevels) :
    ∀ pair ∈ followed, pair.2.Storable Checkpoint.answerLevels := by
  intro pair there
  have same : pair.2 ∈ answered.map Prod.snd := traced.answers ▸ List.mem_map_of_mem there
  obtain ⟨pair', there', same⟩ := List.mem_map.mp same
  exact same ▸ storable pair' there'

variable {pause : Pause} {news : List Emission} (traced : Traced answered followed)
  (printed : news = (printsOf (followed.map Prod.fst ++ [pause])).drop
    (Continuation.behind source externals limits followed).printsDelivered.toNat)
include traced printed

theorem Traced.returns (few : (printsOf (answered.map Prod.fst)).length < UInt64.size) :
    news = pause.prints := by
  rw [traced.prints few, printsOf_append] at printed
  rw [printed, ← printsOf_singleton pause]
  exact drop_delivered rfl few

/-- A count that has left out whole turns of a word goes on to be right but for whole turns. -/
theorem Traced.total :
    (printsOf (answered.map Prod.fst) ++ news).length % UInt64.size =
      (printsOf (followed.map Prod.fst ++ [pause])).length % UInt64.size := by
  have delivered : (Continuation.behind source externals limits followed).printsDelivered.toNat =
      (printsOf (followed.map Prod.fst)).length % UInt64.size := UInt64.toNat_ofNat'
  have count := traced.count
  rw [List.length_append, printed, List.length_drop, delivered, printsOf_append, List.length_append]
  unfold UInt64.size at count ⊢
  omega

theorem Traced.next (answer : Instruction) :
    Traced (answered ++ [(⟨pause.call, news⟩, answer)]) (followed ++ [(pause, answer)]) where
  calls := by
    rw [List.map_append, List.map_append, traced.calls]
    rfl
  count := by
    rw [printsOf_answered, List.map_append]
    exact traced.total printed
  prints few := by
    rw [printsOf_answered, List.length_append] at few
    have few : (printsOf (answered.map Prod.fst)).length < UInt64.size := by omega
    rw [traced.prints few, traced.returns printed few]

end Traced

section Waiting

variable {engine : Engine} {followed : List (Pause × Instruction)} {after : List Pause}
  {answer : Instruction} {later : List Instruction}

/-- A step that pauses has come to the next pause of a direct run that has one more answer. -/
theorem execute_waits {call : ExternalCall} {checkpoint : Checkpoint}
    (readable : Script.parse source = .ok forms) (timely : limits.Timely engine.clock)
    (pauses : (evalDirect externals limits (followed.map Prod.snd ++ answer :: later) forms).2.book.pauses =
      followed.map Prod.fst ++ after)
    (paused : (engine.execute (.behind source externals limits followed)).outcome =
      .ok (.paused call checkpoint)) :
    ∃ pause rest, after = pause :: rest ∧ pause.call = call ∧
      checkpoint = .dump (.waiting source externals limits followed pause) ∧
      (engine.execute (.behind source externals limits followed)).prints =
        (printsOf (followed.map Prod.fst ++ [pause])).drop
          (Continuation.behind source externals limits followed).printsDelivered.toNat := by
  cases direct : evalDirect externals limits (followed.map Prod.snd ++ answer :: later) forms with
  | mk result m =>
    rw [direct] at pauses
    cases after with
    | nil =>
      -- the direct run has an answer left, so its end is not a pause
      obtain ⟨sight, -, ends⟩ := execute_end readable timely direct pauses
      rw [Step.sight, paused] at sight
      exact absurd sight.symm (ofResult_still ends call)
    | cons pause rest =>
      have stopped := execute_pause readable timely direct pauses
      rw [stopped] at paused
      cases paused
      exact ⟨pause, rest, rfl, rfl, rfl, by rw [stopped]⟩

/-- Replayed for a host that has got no prints yet, the answered calls bring all prints up to the
pause behind them. -/
theorem execute_prints {pause : Pause} {rest : List Pause}
    (readable : Script.parse source = .ok forms) (timely : limits.Timely engine.clock)
    (pauses : (evalDirect externals limits (followed.map Prod.snd ++ later) forms).2.book.pauses =
      followed.map Prod.fst ++ pause :: rest) :
    (engine.execute { source, externals, limits, journal := journalOf followed }).prints =
      printsOf (followed.map Prod.fst ++ [pause]) := by
  let c : Continuation := { source, externals, limits, journal := journalOf followed }
  have names : (journalOf followed).map (·.functionName) =
      (followed.map Prod.fst).map (·.call.functionName) := by
    rw [journalOf, List.map_map, List.map_map]
    rfl
  have given : (journalOf followed).map (·.instruction) = followed.map Prod.snd := by
    rw [journalOf, List.map_map]
    rfl
  have direct : evalDirect externals limits ((journalOf followed).map (·.instruction) ++ later) forms =
      evalDirect externals limits (followed.map Prod.snd ++ later) forms := by rw [given]
  have shows : Shows (c.setting engine) later (followed.map Prod.fst) (pause :: rest) _ _ :=
    evalScript_shows forms timely rfl direct pauses names
  unfold Engine.execute
  rw [readable]
  exact shows.2.2

end Waiting

/-- What a chain has come to: a direct run with the same answers has the same pauses, and the step
replays them. -/
theorem Engine.Chain.executed (chain : Engine.Chain source externals limits answered step)
    (storable : ∀ pair ∈ answered, pair.2.Storable Checkpoint.answerLevels)
    (readable : Script.parse source = .ok forms) (later : List Instruction) :
    ∃ (engine : Engine) (followed : List (Pause × Instruction)) (after : List Pause),
      limits.Timely engine.clock ∧
      step = engine.execute (.behind source externals limits followed) ∧
      Traced answered followed ∧
      (evalDirect externals limits (followed.map Prod.snd ++ later) forms).2.book.pauses =
        followed.map Prod.fst ++ after := by
  -- on the chain; the direct run keeps an answer for each step that is still to come
  induction chain generalizing later with
  | created engine timely => exact ⟨engine, [], _, timely, rfl, ⟨rfl, rfl, fun _ => rfl⟩, rfl⟩
  | @resumed engine timely answered step call checkpoint before paused answer ih =>
    have kept : ∀ pair ∈ answered, pair.2.Storable Checkpoint.answerLevels :=
      fun pair there => storable pair (List.mem_append_left _ there)
    obtain ⟨first, followed, after, inTime, same, traced, pauses⟩ := ih kept (answer :: later)
    subst same
    obtain ⟨pause, rest, rfl, rfl, rfl, printed⟩ := execute_waits readable inTime pauses paused
    refine ⟨engine, followed ++ [(pause, answer)], rest, timely, ?_, traced.next printed answer, ?_⟩
    · exact resumeRun_pause pause answer (traced.storable kept)
    · have more : (followed ++ [(pause, answer)]).map Prod.snd ++ later =
          followed.map Prod.snd ++ answer :: later := by simp
      rw [more, pauses]
      simp

end Chain

/-- A checkpoint holds what the run was created with, each answered call with its answer in the order
of the pauses, the call that it waits for, and the count of all prints that the steps so far have
returned. As long as a word can count them, these are all prints up to the pause, each once: a replay
that passes over none of them prints just that. -/
theorem chain_checkpoint {source : String} {externals : List String} {limits : Limits}
    {answered : List (Pause × Instruction)} {step : Step} {call : ExternalCall}
    {checkpoint : Checkpoint} (chain : Engine.Chain source externals limits answered step)
    (storable : ∀ pair ∈ answered, pair.2.Storable Checkpoint.answerLevels)
    (paused : step.outcome = .ok (.paused call checkpoint)) :
    let prints := printsOf (answered.map Prod.fst) ++ step.prints
    ∃ c : Continuation, checkpoint = .dump c ∧ checkpoint.load = .ok c ∧
      c.source = source ∧ c.externals = externals ∧ c.limits = limits ∧
      c.journal = journalOf answered ∧
      c.pending = some call.functionName ∧
      c.printsDelivered = UInt64.ofNat prints.length ∧
      (prints.length < UInt64.size → ∀ engine : Engine, limits.Timely engine.clock →
        (engine.execute { source, externals, limits, journal := c.journal }).prints = prints) := by
  intro prints
  obtain ⟨forms, readable⟩ := chain.readable paused
  -- any answer will do to make the direct run come to the pause that the step waits at
  obtain ⟨first, followed, after, inTime, same, traced, pauses⟩ :=
    chain.executed storable readable [.restarted]
  subst same
  obtain ⟨pause, rest, rfl, rfl, rfl, printed⟩ := execute_waits readable inTime pauses paused
  let c : Continuation := .waiting source externals limits followed pause
  have entries : ∀ entry ∈ c.journal, entry.instruction.Storable Checkpoint.answerLevels := by
    intro entry there
    obtain ⟨pair, member, rfl⟩ := List.mem_map.mp there
    exact traced.storable storable pair member
  refine ⟨c, rfl, Checkpoint.load_dump entries, rfl, rfl, rfl, traced.journal, rfl, ?count, ?prints⟩
  case count =>
    have total := traced.total printed
    rw [← UInt64.toNat_inj]
    exact UInt64.toNat_ofNat'.trans (total.symm.trans UInt64.toNat_ofNat'.symm)
  case prints =>
    intro few engine timely
    have fewer : (printsOf (answered.map Prod.fst)).length < UInt64.size := by
      rw [List.length_append] at few
      omega
    have all : prints = printsOf (followed.map Prod.fst ++ [pause]) := calc
      prints = printsOf (answered.map Prod.fst) ++ printsOf [pause] := by
        rw [printsOf_singleton, ← traced.returns printed fewer]
      _ = printsOf (followed.map Prod.fst ++ [pause]) := by
        rw [printsOf_append, traced.prints fewer]
    rw [all]
    exact execute_prints readable timely pauses

/-- The second pause of a script that prints before each of its calls. -/
theorem chain_checkpoint_secondPause :
    let source := "(print 1) (f) (print 2) (g)"
    ∃ answered step call checkpoint, Engine.Chain source ["f", "g"] {} answered step ∧
      step.outcome = .ok (.paused call checkpoint) ∧ ∃ c, checkpoint.load = .ok c ∧
        c.journal = journalOf answered ∧ c.journal.map (·.functionName) = ["f"] ∧
        c.printsDelivered.toNat = 2 := by
  intro source
  let engine : Engine := {}
  let c : Continuation := { source, externals := ["f", "g"], limits := {} }
  let answer : Instruction := .returnValue .null
  have inTime : ({} : Limits).Timely engine.clock :=
    fun _ _ _ _ => (by decide : 0 < ({} : Limits).maxDurationMs.toNat)
  have created : Engine.Chain source c.externals c.limits [] (engine.execute c) :=
    .created engine inTime
  have nothing : ∀ entry ∈ c.journal, entry.instruction.Storable Checkpoint.answerLevels :=
    List.forall_mem_nil _
  have pauses : (engine.execute c).call?.map (·.functionName) = some "f" := by decide +kernel
  have one : (engine.execute c).prints.length = 1 := by decide +kernel
  obtain ⟨call, checkpoint, paused, name⟩ := Step.exists_paused pauses
  -- the first checkpoint counts one print, which tells what its replay starts from
  obtain ⟨printsSeen, loaded, replayed⟩ := resumeRun_paused paused nothing
  obtain ⟨k, -, loaded', -, -, -, -, -, delivered, -⟩ :=
    chain_checkpoint created (List.forall_mem_nil _) paused
  have counted : UInt64.ofNat printsSeen = 1 := by
    have same : Engine.suspend c call printsSeen = k := Except.ok.inj (loaded.symm.trans loaded')
    have total : k.printsDelivered = 1 := delivered.trans (congrArg UInt64.ofNat one)
    rw [← same] at total
    exact total
  have resumed := created.resumed engine inTime paused answer
  have replays : engine.resumeRun checkpoint answer = engine.execute
      { c with journal := [⟨"f", answer⟩], printsDelivered := 1 } := by
    rw [(replayed engine answer).1, Continuation.answered, name, counted]
    rfl
  have pauses' : (engine.resumeRun checkpoint answer).call?.map (·.functionName) = some "g" := by
    rw [replays]
    decide +kernel
  have one' : (engine.resumeRun checkpoint answer).prints.length = 1 := by
    rw [replays]
    decide +kernel
  obtain ⟨call', checkpoint', paused', -⟩ := Step.exists_paused pauses'
  have storable : ∀ pair ∈ [((⟨call, (engine.execute c).prints⟩ : Pause), answer)],
      pair.2.Storable Checkpoint.answerLevels := List.forall_mem_singleton.mpr (.null _)
  obtain ⟨k', -, loaded, -, -, -, journal, -, delivered, -⟩ :=
    chain_checkpoint resumed storable paused'
  have total : (printsOf (([] ++ [((⟨call, (engine.execute c).prints⟩ : Pause), answer)]).map
      Prod.fst) ++ (engine.resumeRun checkpoint answer).prints).length = 2 := by
    simp [printsOf, one, one']
  refine ⟨_, _, call', checkpoint', resumed, paused', k', loaded, journal, ?_, ?_⟩
  · rw [journal]
    simp [journalOf, name]
  · rw [delivered, total]
    rfl

end ResumableScript
