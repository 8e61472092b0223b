import Mathlib.Tactic.Basic
import ResumableScript.Proofs.Engine.Resumption
import ResumableScript.Proofs.Run.Boundary
import ResumableScript.Proofs.Run.Still
import ResumableScript.Proofs.Script.Exactness
import ResumableScript.Proofs.Worker.Backends

/-! Scripts that have two texts parsed, on a host that stores every record and never steers. The run
computes both answers itself, and all that the host adds are the steps. A first answer that nests too
deep for the checkpoint behind it brings the run to an end. -/
namespace ResumableScript

open RuntimeTool

section Rounds

def parseForm (text : String) : Expr := .list [.symbol parseName, .string text]

def parseCall (text : String) : ExternalCall := ⟨parseName, [.string text], []⟩

def parsed (text : String) : CallAnswer :=
  match parse [("text", .string text)] with
  | .ok value => ⟨.returnValue value, value.render, false⟩
  | .error fault => .toolError fault.message

def bareStart (source : String) : StartPayload := ⟨source, (extend []).map (·.name), {}⟩

def Continuation.bare (source : String) : Continuation :=
  { source, externals := (extend []).map (·.name), limits := {} }

theorem ofCall_parse (text : String) : ∃ tool : ToolDefinition, tool.name = parseName ∧
    Pending.ofCall (extend []) (parseCall text) = .tool tool (.ok [("text", .string text)]) :=
  ⟨_, rfl, rfl⟩

theorem execute_parse {tool : ToolDefinition} (name : tool.name = parseName) (text : String) :
    Run.execute tool [("text", .string text)] = pure (parsed text) := by
  unfold Run.execute parsed answer?
  rw [if_pos name]
  cases parse [("text", .string text)] <;> rfl

/-- What a run comes to, and the answers that it has computed. -/
def Run.ending (run : Run RunResult) : Except RunError RunResult × List Instruction :=
  ((Plan.run engineHost run ()).1, answersIn (Plan.trace engineHost run ()))

theorem Run.ending_fst (run : Run RunResult) : run.ending.1 = (Plan.run engineHost run ()).1 := rfl

theorem Run.ending_snd (run : Run RunResult) :
    run.ending.2 = answersIn (Plan.trace engineHost run ()) := rfl

theorem drive_parse (rounds : Nat) {st : RunState} (tools : st.definitions = extend [])
    (text : String) (checkpoint : Checkpoint) (prints : List Emission) :
    ∃ st' : RunState, st'.definitions = extend [] ∧
      let next := Run.drive rounds st'
        ((Engine.steady 1).reply (.resume "" ⟨checkpoint, (parsed text).instruction⟩))
      (Run.drive (rounds + 1) st (.ok ⟨.paused (parseCall text) checkpoint, prints⟩)).ending =
        (next.ending.1, (parsed text).instruction :: next.ending.2) := by
  obtain ⟨tool, name, pending⟩ := ofCall_parse text
  have other : (parseCall text).functionName ≠ skipName := show parseName ≠ skipName by decide
  rw [Run.drive, Run.round_paused, Run.answerCall]
  dsimp only
  rw [if_neg other, tools, pending, Run.settle, Run.settleTool]
  dsimp only
  rw [execute_parse name]
  exact ⟨_, rfl, rfl⟩

theorem join_nothing (code : String) : Preamble.join "" code = code := by
  have bare : Text.trimmed "" = "" := by decide
  by_cases nothing : code = ""
  · simp [Preamble.join, bare, nothing]
  · simp [Preamble.join, bare, nothing]

theorem fresh_ending (rounds : Nat) (callId source : String) :
    (Run.fresh rounds {} [] { callId, code := source, preamble := some "" }).ending =
      (Run.drive rounds { callId, definitions := extend [] }
        ((Engine.steady 1).reply (.start "" (bareStart source)))).ending := by
  let opened : RunRequest := { callId, code := source, preamble := some "" }
  obtain ⟨ran, answered⟩ := Run.fresh_started engineHost rounds {} [] opened () rfl
  rw [Option.getD_some, join_nothing] at ran answered
  rw [Run.ending, ran, answered]
  rfl

end Rounds

section Steps

theorem answered_stored {v : Json} {levels : Nat} (stored : v.Storable levels) (source : String)
    (call : ExternalCall) :
    ∀ entry ∈ ((Continuation.bare source).answered call 0 (.returnValue v)).journal,
      entry.instruction.Storable levels := by
  intro entry there
  cases List.mem_singleton.mp there
  exact stored

theorem step_resume {c : Continuation} (engine : Engine) (id : String) (call : ExternalCall)
    (answer : Instruction)
    (stored : ∀ entry ∈ c.journal, entry.instruction.Storable Checkpoint.answerLevels) :
    engine.step (.resume id ⟨Checkpoint.dump (Engine.suspend c call 0), answer⟩) =
      engine.execute (c.answered call 0 answer) := by
  rw [Engine.step]
  exact resumeRun_dump engine call 0 answer stored

theorem reply_refused {engine : Engine} {checkpoint : Checkpoint} {answer : Instruction}
    {fault : CheckpointFault}
    (refused : engine.resumeRun checkpoint answer = .failed (.checkpoint fault)) (id : String) :
    ∃ e, engine.reply (.resume id ⟨checkpoint, answer⟩) = .error e ∧ e.kind = .checkpoint ∧
      e.message = s!"invalid checkpoint: {fault.message}" := by
  unfold Engine.reply Engine.step
  dsimp only
  rw [refused]
  exact ⟨_, rfl, rfl, rfl⟩

/-- What a host is told of a checkpoint whose body nests too deep. -/
def tooDeepMessage (line column : Nat) : String :=
  s!"invalid checkpoint: invalid continuation: recursion limit exceeded at line {line} " ++
    s!"column {column}"

theorem message_tooDeep (line column : Nat) :
    s!"invalid checkpoint: {(CheckpointFault.invalidContinuation ⟨.tooDeep, ⟨line, column⟩⟩).message}" =
      tooDeepMessage line column := by
  have self (text : String) : toString text = text := rfl
  have outer (e : Json.ParseError) : (CheckpointFault.invalidContinuation e).message =
      s!"invalid continuation: {e.message}" := rfl
  have placed (e : Json.ParseError) : e.message =
      s!"{e.fault.message} at line {e.position.line} column {e.position.column}" := rfl
  have inner : Json.Fault.message .tooDeep = "recursion limit exceeded" := rfl
  unfold tooDeepMessage
  rw [outer, placed, inner]
  refine String.toList_injective ?_
  simp [self]

variable {source first second : String} (engine : Engine)
  (readable : Script.parse source = .ok [parseForm first, parseForm second])

include readable

theorem execute_first :
    (engine.execute (.bare source)).outcome = .ok (.paused (parseCall first)
      (Checkpoint.dump (Engine.suspend (.bare source) (parseCall first) 0))) := by
  rw [execute_outcome (c := .bare source) readable]
  rfl

theorem execute_second (v : Json) :
    let c := (Continuation.bare source).answered (parseCall first) 0 (.returnValue v)
    (engine.execute c).outcome = .ok (.paused (parseCall second)
      (Checkpoint.dump (Engine.suspend c (parseCall second) 0))) := by
  intro c
  rw [execute_outcome (c := c) readable]
  rfl

theorem reply_first (id : String) :
    ∃ prints, engine.reply (.start id (bareStart source)) = .ok ⟨.paused (parseCall first)
      (Checkpoint.dump (Engine.suspend (.bare source) (parseCall first) 0)), prints⟩ := by
  have step : engine.step (.start id (bareStart source)) = engine.execute (.bare source) := rfl
  exact ⟨_, reply_of_ok engine _ (step ▸ execute_first engine readable)⟩

theorem reply_second (id : String) (v : Json) :
    let c := (Continuation.bare source).answered (parseCall first) 0 (.returnValue v)
    ∃ prints, engine.reply (.resume id
      ⟨Checkpoint.dump (Engine.suspend (.bare source) (parseCall first) 0), .returnValue v⟩) =
        .ok ⟨.paused (parseCall second)
          (Checkpoint.dump (Engine.suspend c (parseCall second) 0)), prints⟩ := by
  intro c
  have step := step_resume (c := .bare source) engine id (parseCall first) (.returnValue v) nofun
  exact ⟨_, reply_of_ok engine _ (step ▸ execute_second engine readable v)⟩

theorem reply_raised (id : String) {v : Json} (stored : v.Storable Checkpoint.answerLevels)
    (raised : ScriptException) :
    let c := (Continuation.bare source).answered (parseCall first) 0 (.returnValue v)
    ∃ e, engine.reply (.resume id
      ⟨Checkpoint.dump (Engine.suspend c (parseCall second) 0), .exception raised⟩) = .error e := by
  intro c
  have step := step_resume engine id (parseCall second) (.exception raised)
    (answered_stored stored source (parseCall first))
  have uncaught : (engine.execute (c.answered (parseCall second) 0 (.exception raised))).outcome =
      .error (.uncaught raised) := by
    rw [execute_outcome (c := c.answered _ _ _) readable]
    rfl
  exact ⟨_, reply_of_error engine _ (step ▸ uncaught)⟩

theorem fresh_parse (rounds : Nat) (callId : String) {value : Json}
    (returned : (parsed first).instruction = .returnValue value) {e : WorkerError}
    (failed :
      let c := (Continuation.bare source).answered (parseCall first) 0 (.returnValue value)
      (Engine.steady 1).reply (.resume "" ⟨Checkpoint.dump (Engine.suspend c (parseCall second) 0),
        (parsed second).instruction⟩) = .error e) :
    (Run.fresh (rounds + 3) {} [] { callId, code := source, preamble := some "" }).ending =
      (.error (.worker e), [(parsed first).instruction, (parsed second).instruction]) := by
  obtain ⟨_, paused⟩ := reply_first (.steady 1) readable ""
  obtain ⟨_, pausedAgain⟩ := reply_second (.steady 1) readable "" value
  let st₀ : RunState := { callId, definitions := extend [] }
  obtain ⟨st₁, tools, once⟩ := drive_parse (rounds + 2) (show st₀.definitions = _ from rfl) first _ _
  obtain ⟨st₂, -, twice⟩ := drive_parse (rounds + 1) tools second _ _
  rw [fresh_ending, paused, once, returned, pausedAgain, twice, failed]
  rfl

theorem fresh_parse_raised (rounds : Nat) (callId : String) {value : Json}
    (returned : (parsed first).instruction = .returnValue value)
    (stored : value.Storable Checkpoint.answerLevels) {raised : ScriptException}
    (none : (parsed second).instruction = .exception raised) :
    ∃ e, (Run.fresh (rounds + 3) {} [] { callId, code := source, preamble := some "" }).ending =
      (.error (.worker e), [.returnValue value, .exception raised]) := by
  obtain ⟨e, failed⟩ := reply_raised (.steady 1) readable "" stored raised
  have ending := fresh_parse readable rounds callId returned (none ▸ failed)
  rw [returned, none] at ending
  exact ⟨e, ending⟩

theorem fresh_parse_deep (rounds : Nat) (callId : String) {value : Json} {levels : Nat}
    (returned : (parsed first).instruction = .returnValue value)
    (stored : value.Storable (levels + 1)) (deep : Json.maxLevels < value.nesting + 4) :
    ∃ e column,
      (Run.fresh (rounds + 3) {} [] { callId, code := source, preamble := some "" }).ending.1 =
        .error (.worker e) ∧ e.kind = .checkpoint ∧ e.message = tooDeepMessage 1 column := by
  obtain ⟨column, refused⟩ := resumeRun_deep (.steady 1) (parseCall second) 0
    (parsed second).instruction (answered_stored stored source (parseCall first))
    List.mem_cons_self rfl deep
  obtain ⟨e, failed, kind, message⟩ := reply_refused refused ""
  refine ⟨e, column, ?_, kind, message.trans (message_tooDeep 1 column)⟩
  rw [fresh_parse readable rounds callId returned failed]

end Steps

section Texts

open Script

/-- A script that has two texts parsed. They stand in it as they are, and so may need no escape. -/
def parseSource (first second : String) : String :=
  "(" ++ parseName ++ " \"" ++ first ++ "\") (" ++ parseName ++ " \"" ++ second ++ "\")"

theorem parseForm_written {text : String} (noQuote : '"' ∉ text.toList)
    (noBackslash : '\\' ∉ text.toList) :
    (Datum.list [.symbol parseName, .string text]).Written
      ('(' :: (parseName.toList ++ ' ' :: '"' :: (text.toList ++ ['"'])) ++ [')']) := by
  have name : (Datum.symbol parseName).Written parseName.toList :=
    ⟨isSymbol_word (by decide) (by decide) (by decide), by decide, by decide, by decide, rfl⟩
  have quoted : (Datum.string text).Written ('"' :: (text.toList ++ ['"'])) :=
    ⟨text.toList, escaped_plain noQuote noBackslash, rfl⟩
  have space : Gap [' '] := .blank (by decide) .nil
  have ends : Ends (' ' :: '"' :: (text.toList ++ ['"'])) := by
    rintro _ ⟨⟩
    rfl
  have argument : Datum.AllWritten [.string text] (' ' :: '"' :: (text.toList ++ ['"'])) :=
    ⟨_, _, [], space, quoted, .nil, False.elim, by simp⟩
  exact ⟨_, ⟨[], _, _, .nil, name, argument, fun _ => ends, rfl⟩, rfl⟩

theorem parseSource_readable {first second : String}
    (noQuote : '"' ∉ first.toList) (noBackslash : '\\' ∉ first.toList)
    (noQuote' : '"' ∉ second.toList) (noBackslash' : '\\' ∉ second.toList) :
    Script.parse (parseSource first second) = .ok [parseForm first, parseForm second] := by
  have space : Gap [' '] := .blank (by decide) .nil
  have written : Datum.AllWritten
      [.list [.symbol parseName, .string first], .list [.symbol parseName, .string second]]
      (parseSource first second).toList := by
    refine ⟨[], _, _, .nil, parseForm_written noQuote noBackslash,
      ⟨_, _, [], space, parseForm_written noQuote' noBackslash', .nil, False.elim, rfl⟩,
      False.elim, ?_⟩
    simp [parseSource]
  refine of_mapError.1 _ ?_
  rw [parse_written written]
  exact Datum.readAll_fits _ maxNesting _ rfl (show 1 ≤ 256 by decide)

theorem parsed_compact {v : Json} (stored : v.Storable Json.maxLevels) :
    (parsed v.compact).instruction = .returnValue (.object [("value", v)]) := by
  have read : parse [("text", .string v.compact)] = .ok (.object [("value", v)]) := by
    have given : (([("text", Json.string v.compact)] : Json.Members).lookup "text").bind
        Json.asString? = some v.compact := rfl
    rw [RuntimeTool.parse, given]
    dsimp only
    rw [stored.parse_compact]
  rw [parsed, read]

def nestedArrays : Nat → Json
  | 0 => .array []
  | n + 1 => .array [nestedArrays n]

theorem nestedArrays_nesting (n : Nat) : (nestedArrays n).nesting = n + 1 := by
  induction n with
  | zero => rfl
  | succ n ih => simp [nestedArrays, Json.nesting, Json.nestingItems, ih]

theorem nestedArrays_storable (extra n : Nat) : (nestedArrays n).Storable (extra + (n + 1)) := by
  induction n with
  | zero => exact .array extra [] nofun
  | succ n ih =>
    refine .array _ _ fun v there => ?_
    cases List.mem_singleton.mp there
    exact ih

theorem nestedArrays_compact (n : Nat) :
    (nestedArrays n).compact =
      String.ofList (List.replicate (n + 1) '[' ++ List.replicate (n + 1) ']') := by
  refine String.toList_injective ?_
  rw [String.toList_ofList]
  induction n with
  | zero => rfl
  | succ n ih =>
    rw [List.replicate_succ, List.replicate_succ' (n := n + 1), nestedArrays, Json.compact]
    simp [Json.compactItems, ih]

/-- The text of such arrays, as the first of a script, ends a run for the checkpoint behind it, if its
value nests deep enough, but not too deep to be parsed. -/
theorem fresh_nestedArrays (rounds : Nat) (callId : String) {n : Nat} (parses : n + 1 ≤ 127)
    (deep : 122 < n + 1) {text : String}
    (brackets : text = String.ofList (List.replicate (n + 1) '[' ++ List.replicate (n + 1) ']')) :
    ∃ e column, (Run.fresh (rounds + 3) {} []
      { callId, code := parseSource text "1", preamble := some "" }).ending.1 =
        .error (.worker e) ∧ e.kind = .checkpoint ∧ e.message = tooDeepMessage 1 column := by
  have compact : (nestedArrays n).compact = text := (nestedArrays_compact n).trans brackets.symm
  have plain {c : Char} (noOpen : c ≠ '[') (noClose : c ≠ ']') : c ∉ text.toList := by
    rw [brackets, String.toList_ofList, List.mem_append]
    rintro (there | there)
    · exact noOpen (List.eq_of_mem_replicate there)
    · exact noClose (List.eq_of_mem_replicate there)
  have readable : Script.parse (parseSource text "1") = .ok [parseForm text, parseForm "1"] :=
    parseSource_readable (plain (by decide) (by decide)) (plain (by decide) (by decide)) (by decide)
      (by decide)
  have stored : (nestedArrays n).Storable Json.maxLevels := by
    have more := nestedArrays_storable (127 - (n + 1)) n
    rwa [Nat.sub_add_cancel parses] at more
  have returned := parsed_compact stored
  rw [compact] at returned
  have wrapped : (Json.object [("value", nestedArrays n)]).Storable (Json.maxLevels + 1) := by
    refine .object _ _ (by simp) ?_
    simp only [List.forall_mem_singleton]
    exact stored
  refine fresh_parse_deep readable rounds callId returned wrapped ?_
  simp only [Json.nesting, Json.nestingMembers, nestedArrays_nesting, Json.maxLevels]
  omega

end Texts

end ResumableScript
