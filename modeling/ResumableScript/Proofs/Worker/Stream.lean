import Mathlib.Data.List.TakeWhile
import Mathlib.Tactic.Basic
import ResumableScript.Proofs.Json.Literal
import ResumableScript.Proofs.Json.Nesting
import ResumableScript.Proofs.Json.OneLine
import ResumableScript.Proofs.Run.Preamble
import ResumableScript.Proofs.Worker.Backends

/-! The stream of a worker. Bytes are cut into lines, every line is answered on its own, and the
answers are again lines. -/
namespace ResumableScript

namespace Service

section Lines

variable {line before after rest : List UInt8}

/-- A line whose end begins with a carriage return does not hold it. -/
def withoutReturn (line : List UInt8) : List UInt8 :=
  if line.getLast? = some 0x0D then line.dropLast else line

def Complete (bytes : List UInt8) : Prop := bytes = [] ∨ bytes.getLast? = some 0x0A

theorem lines_other {b : UInt8} (noEnd : b ≠ 0x0A) (noReturn : b = 0x0D → rest.head? ≠ some 0x0A) :
    lines (b :: rest) = match lines rest with
      | line :: more => (b :: line) :: more
      | [] => [[b]] := by
  have plain : (b = 0x0D && rest.head? == some 0x0A) = false := by simpa using noReturn
  rw [lines, if_neg noEnd, plain]
  rfl

/-- A first byte that ends no line, with whether it is the return of the end behind it. -/
theorem lines_cases {motive : UInt8 → List UInt8 → Prop} (b : UInt8) (rest : List UInt8)
    (ends : ∀ rest, motive 0x0A rest) (returns : ∀ rest, motive 0x0D (0x0A :: rest))
    (other : ∀ b rest, b ≠ 0x0A → (b = 0x0D → rest.head? ≠ some 0x0A) → motive b rest) :
    motive b rest := by
  by_cases isEnd : b = 0x0A
  · subst isEnd
    exact ends rest
  · by_cases isReturn : b = 0x0D ∧ rest.head? = some 0x0A
    · obtain ⟨rfl, head⟩ := isReturn
      obtain ⟨rest, rfl⟩ := List.head?_eq_some_iff.mp head
      exact returns rest
    · exact other b rest isEnd fun same head => isReturn ⟨same, head⟩

theorem exists_lines {bytes : List UInt8} (some : bytes ≠ []) :
    ∃ line more, lines bytes = line :: more := by
  cases bytes with
  | nil => exact absurd rfl some
  | cons b rest =>
    induction b, rest using lines_cases with
    | ends rest => exact ⟨[], lines rest, rfl⟩
    | returns rest => exact ⟨[], lines rest, rfl⟩
    | other b rest noEnd noReturn =>
      rw [lines_other noEnd noReturn]
      cases lines rest <;> simp

theorem withoutReturn_cons (b next : UInt8) (line : List UInt8) :
    withoutReturn (b :: next :: line) = b :: withoutReturn (next :: line) := by
  unfold withoutReturn
  rw [List.getLast?_cons_cons, List.dropLast_cons_cons]
  split <;> rfl

theorem lines_terminated (noEnd : 0x0A ∉ line) (rest : List UInt8) :
    lines (line ++ 0x0A :: rest) = withoutReturn line :: lines rest := by
  induction line with
  | nil => rfl
  | cons b line ih =>
    rw [List.mem_cons, not_or] at noEnd
    have others := ih noEnd.2
    cases line with
    | nil =>
      by_cases isReturn : b = 0x0D
      · subst isReturn
        rfl
      · have single : withoutReturn [b] = [b] := by simp [withoutReturn, isReturn]
        rw [single]
        exact lines_other (Ne.symm noEnd.1) fun same => absurd same isReturn
    | cons next line =>
      have plain : next ≠ 0x0A := by
        rintro rfl
        exact noEnd.2 List.mem_cons_self
      rw [withoutReturn_cons, List.cons_append, lines_other (Ne.symm noEnd.1), others]
      intro _ head
      exact plain (Option.some.inj head)

theorem Complete.tail {b : UInt8} (h : Complete (b :: before)) : Complete before := by
  cases before with
  | nil => exact .inl rfl
  | cons next before =>
    right
    simpa [Complete] using h

theorem lines_append (complete : Complete before) (after : List UInt8) :
    lines (before ++ after) = lines before ++ lines after := by
  induction before with
  | nil => rfl
  | cons b before ih =>
    have behind := ih complete.tail
    induction b, before using lines_cases with
    | ends rest => exact congrArg ([] :: ·) behind
    | returns rest => exact behind
    | other b rest noEnd noReturn =>
      cases rest with
      | nil => simp [Complete, noEnd] at complete
      | cons next rest =>
        -- the byte joins the first line behind it, which is there on both sides
        obtain ⟨line, more, first⟩ := exists_lines (List.cons_ne_nil next rest)
        have noReturn' : b = 0x0D → (next :: rest ++ after).head? ≠ some 0x0A := noReturn
        rw [List.cons_append, lines_other noEnd noReturn', lines_other noEnd noReturn, behind, first]
        rfl

end Lines

def text? (line : List UInt8) : Option String :=
  (Text.ofUtf8? line).filter fun text => !Text.isAllBlank text

/-- What one line is answered, whatever else the stream holds. -/
def answer? (engine : Engine) (line : List UInt8) : Option WorkerResponse :=
  (text? line).bind (handleLine engine)

def json? (line : List UInt8) : Option Json :=
  (text? line).bind fun text => (Json.parse text).toOption

def requestId? (line : List UInt8) : Option String :=
  (json? line).bind fun json => (json.get? "id").bind Json.asString?

def readable (lines : List (List UInt8)) : List (List UInt8) :=
  lines.takeWhile fun line => (Text.ofUtf8? line).isSome

def responses (engine : Engine) (lines : List (List UInt8)) : List WorkerResponse :=
  (readable lines).filterMap (answer? engine)

section Serve

variable {engine : Engine} {line : List UInt8} {lines : List (List UInt8)}

theorem answer?_eq {text : String} (spelled : Text.ofUtf8? line = some text) :
    answer? engine line = if Text.isAllBlank text then none else handleLine engine text := by
  unfold answer? text?
  rw [spelled]
  cases blank : Text.isAllBlank text <;> simp [Option.filter, blank]

theorem serve_eq (engine : Engine) (lines : List (List UInt8)) :
    serve engine lines =
      ⟨(responses engine lines).map fun response => response.line ++ "\n",
        lines.any fun line => (Text.ofUtf8? line).isNone⟩ := by
  induction lines with
  | nil => rfl
  | cons line lines ih =>
    cases spelled : Text.ofUtf8? line with
    | none => simp [serve, responses, readable, spelled]
    | some text =>
      have own := @answer?_eq engine line text spelled
      have first : responses engine (line :: lines) =
          (answer? engine line).toList ++ responses engine lines := by
        unfold responses readable
        cases answered : answer? engine line <;> simp [spelled, answered]
      rw [first]
      unfold serve
      cases blank : Text.isAllBlank text <;> cases answered : handleLine engine text <;>
        simp [spelled, own, ih, blank, answered]

theorem ofJson?_id {json : Json} {id : String} {request : WorkerRequest}
    (carried : (json.get? "id").bind Json.asString? = some id)
    (read : WorkerRequest.ofJson? json = some request) : request.id = id := by
  cases json with
  | object members =>
    simp only [WorkerRequest.ofJson?, Option.bind_eq_bind, Option.bind_eq_some_iff] at read
    obtain ⟨⟨kind, content⟩, tagged, fields, named, own, found, read⟩ := read
    have whole : content = .object members := by
      simp only [Json.tagged?] at tagged
      split at tagged <;> cases tagged
      rfl
    subst whole
    cases named
    have same : own = id := Option.some.inj (found.symm.trans carried)
    split at read
    · simp only [Option.bind_eq_some_iff] at read
      obtain ⟨payload, -, ⟨⟩⟩ := read
      exact same
    · simp only [Option.bind_eq_some_iff] at read
      obtain ⟨payload, -, ⟨⟩⟩ := read
      exact same
    · cases read
  | _ => cases carried

theorem handleRequest_id (engine : Engine) (request : WorkerRequest) :
    (handleRequest engine request).id = request.id := by
  unfold handleRequest WorkerResponse.ofStep
  split <;> rfl

def respond (engine : Engine) (json : Json) (id : String) : WorkerResponse :=
  match WorkerRequest.read json with
  | .ok request => handleRequest engine request
  | .error fault => malformed id fault

theorem read_ok {json : Json} {request : WorkerRequest} (read : WorkerRequest.read json = .ok request) :
    WorkerRequest.ofJson? json = some request := by
  unfold WorkerRequest.read at read
  split at read
  · next found =>
    cases read
    exact found
  · cases read

theorem handleLine_eq (engine : Engine) (text : String) :
    handleLine engine text = (Json.parse text).toOption.bind fun json =>
      ((json.get? "id").bind Json.asString?).map (respond engine json) := by
  unfold handleLine respond
  cases Json.parse text with
  | error e => rfl
  | ok json =>
    dsimp only [Except.toOption, Option.bind_some]
    cases (json.get? "id").bind Json.asString? with
    | none => rfl
    | some id => cases WorkerRequest.read json <;> rfl

theorem respond_id {json : Json} {id : String}
    (carried : (json.get? "id").bind Json.asString? = some id) :
    (respond engine json id).id = id := by
  unfold respond
  cases read : WorkerRequest.read json with
  | error fault => rfl
  | ok request => exact (handleRequest_id engine request).trans (ofJson?_id carried (read_ok read))

theorem answer?_json (engine : Engine) (line : List UInt8) :
    answer? engine line = (json? line).bind fun json =>
      ((json.get? "id").bind Json.asString?).map (respond engine json) := by
  unfold answer? json?
  rw [Option.bind_assoc]
  apply Option.bind_congr
  intro text _
  exact handleLine_eq engine text

theorem answer_id (engine : Engine) (line : List UInt8) :
    (answer? engine line).map (·.id) = requestId? line := by
  rw [answer?_json, Option.map_bind]
  apply Option.bind_congr
  intro json _
  dsimp only [Function.comp_apply]
  cases carried : (json.get? "id").bind Json.asString? with
  | none => rfl
  | some id => exact congrArg some (respond_id carried)

theorem requestId?_iff {id : String} :
    requestId? line = some id ↔ ∃ text json, Text.ofUtf8? line = some text ∧
      Text.isAllBlank text = false ∧ Json.parse text = .ok json ∧ json.nesting ≤ 127 ∧
      json.get? "id" = some (.string id) := by
  simp only [requestId?, json?, text?, Option.bind_eq_some_iff, Option.filter_eq_some_iff]
  constructor
  · rintro ⟨json, ⟨text, ⟨spelled, filled⟩, parsed⟩, value, found, own⟩
    have parsed : Json.parse text = .ok json := by
      cases result : Json.parse text <;> rw [result] at parsed <;> cases parsed
      rfl
    have string : value = .string id := by
      cases value <;> cases own
      rfl
    subst string
    exact ⟨text, json, spelled, by simpa using filled, parsed, Json.parse_nesting parsed, found⟩
  · rintro ⟨text, json, spelled, filled, parsed, -, found⟩
    refine ⟨json, ⟨text, ⟨spelled, by simpa using filled⟩, ?_⟩, .string id, found, rfl⟩
    simp [parsed, Except.toOption]

/-- The time limit of the step that a line asks for is never met. -/
def Timely (clock : Nat → Nat) (line : List UInt8) : Prop :=
  ∀ json request, json? line = some json → WorkerRequest.ofJson? json = some request →
    request.Timely clock

theorem answer_timely {worker : Engine} (timely : Timely engine.clock line)
    (timely' : Timely worker.clock line) : answer? engine line = answer? worker line := by
  rw [answer?_json, answer?_json]
  apply Option.bind_congr
  intro json spelled
  apply Option.map_congr
  intro id _
  unfold respond
  cases read : WorkerRequest.read json with
  | error fault => simp only
  | ok request =>
    have found := read_ok read
    have same := step_timely (timely json request spelled found) (timely' json request spelled found)
    simp only [handleRequest, same]

end Serve

section Written

/-- Objects end with a brace, so no carriage return is taken for that of their line's end. -/
theorem withoutReturn_line (response : WorkerResponse) :
    withoutReturn (Text.utf8 response.line) = Text.utf8 response.line := by
  obtain ⟨members, object⟩ : ∃ members, response.toJson = .object members := ⟨_, rfl⟩
  have brace : Text.utf8 response.line =
      (Json.byte '\x7b' :: Text.utf8 (Json.compactMembers members)) ++ [Json.byte '\x7d'] := by
    unfold WorkerResponse.line
    rw [object]
    exact Json.utf8_object members
  unfold withoutReturn
  rw [brace, List.getLast?_concat, if_neg (by decide)]

def streamOf (responses : List WorkerResponse) : String :=
  String.join (responses.map fun response => response.line ++ "\n")

theorem splitLines_stream (responses : List WorkerResponse) :
    Preamble.splitLines (streamOf responses).toList =
      responses.map (fun response => response.line.toList) ++ [[]] := by
  induction responses with
  | nil => rfl
  | cons response responses ih =>
    have oneLine : '\n' ∉ response.line.toList := compact_oneLine response.toJson
    have apart := Preamble.splitLines_append oneLine (streamOf responses).toList
    rw [ih] at apart
    simpa [streamOf] using apart

theorem lines_stream (responses : List WorkerResponse) :
    lines (Text.utf8 (streamOf responses)) =
      responses.map fun response => Text.utf8 response.line := by
  induction responses with
  | nil => rfl
  | cons response responses ih =>
    have noEnd : 0x0A ∉ Text.utf8 response.line :=
      newline_not_mem_utf8 (compact_oneLine response.toJson)
    have apart := lines_terminated noEnd (Text.utf8 (streamOf responses))
    rw [withoutReturn_line, ih] at apart
    have ended : Text.utf8 "\n" = [0x0A] := rfl
    simpa [streamOf, Text.utf8_append, ended] using apart

end Written

section Whole

variable {engine : Engine}

theorem handle_eq (engine : Engine) (input : List UInt8) :
    handle engine input =
      ⟨(responses engine (lines input)).map fun response => response.line ++ "\n",
        (lines input).any fun line => (Text.ofUtf8? line).isNone⟩ := serve_eq engine (lines input)

theorem valid_iff (engine : Engine) (input : List UInt8) :
    (handle engine input).invalid = false ↔
      ∀ line ∈ lines input, (Text.ofUtf8? line).isSome = true := by
  rw [handle_eq]
  simp [Option.isSome_iff_ne_none]

theorem valid_of_subset {input other : List UInt8} (valid : (handle engine input).invalid = false)
    (among : lines other ⊆ lines input) : (handle engine other).invalid = false := by
  rw [valid_iff] at valid ⊢
  intro line there
  exact valid line (among there)

theorem written_valid {input : List UInt8} (valid : (handle engine input).invalid = false) :
    (handle engine input).written =
      ((lines input).filterMap (answer? engine)).map fun response => response.line ++ "\n" := by
  have all := List.takeWhile_eq_self_iff.mpr ((valid_iff engine input).mp valid)
  rw [handle_eq, responses, readable, all]

theorem handle_append {input : List UInt8} (complete : Complete input)
    (valid : (handle engine input).invalid = false) (more : List UInt8) :
    handle engine (input ++ more) =
      ⟨(handle engine input).written ++ (handle engine more).written,
        (handle engine more).invalid⟩ := by
  have all := (valid_iff engine input).mp valid
  have unbroken : (lines input).any (fun line => (Text.ofUtf8? line).isNone) = false := by
    simpa [Option.isSome_iff_ne_none] using all
  have read : readable (lines input ++ lines more) = lines input ++ readable (lines more) :=
    List.takeWhile_append_of_pos all
  rw [written_valid valid, handle_eq, handle_eq, lines_append complete, responses, read]
  simp [unbroken, responses]

end Whole

/-- A worker answers the lines before the first one that is not UTF-8, in order: each line with a
JSON text that carries an id by one response with this id, all others by nothing. Its output is cut
at newlines, or read as lines, into the responses. An answer depends on its line only: complete
lines before others change nothing about the answers to those, and lines that are left out or come
in another order only leave out or reorder answers. In time, it does not depend on the clock. -/
theorem stream_answered (engine : Engine) (input : List UInt8) :
    let output := handle engine input
    let answers := responses engine (lines input)
    (output.written = answers.map fun response => response.line ++ "\n") ∧
    (output.invalid = true ↔ ∃ line ∈ lines input, Text.ofUtf8? line = none) ∧
    (∀ line, (answer? engine line).map (·.id) = requestId? line) ∧
    (∀ line id, requestId? line = some id ↔ ∃ text json, Text.ofUtf8? line = some text ∧
      Text.isAllBlank text = false ∧ Json.parse text = .ok json ∧ json.nesting ≤ 127 ∧
      json.get? "id" = some (.string id)) ∧
    Preamble.splitLines (String.join output.written).toList =
      answers.map (fun response => response.line.toList) ++ [[]] ∧
    (lines (Text.utf8 (String.join output.written)) =
      answers.map fun response => Text.utf8 response.line) ∧
    (output.invalid = false →
      (∀ more, Complete input → handle engine (input ++ more) =
        ⟨output.written ++ (handle engine more).written, (handle engine more).invalid⟩) ∧
      (∀ other, (lines other).Perm (lines input) →
        (handle engine other).written.Perm output.written) ∧
      ∀ other, (lines other).Sublist (lines input) →
        (handle engine other).written.Sublist output.written) ∧
    ∀ (worker : Engine) line, Timely engine.clock line → Timely worker.clock line →
      answer? engine line = answer? worker line := by
  intro output answers
  have handled : output = _ := handle_eq engine input
  have written : output.written = answers.map fun response => response.line ++ "\n" := by
    rw [handled]
  have invalid : output.invalid = true ↔ ∃ line ∈ lines input, Text.ofUtf8? line = none := by
    rw [handled]
    simp
  refine ⟨written, invalid, answer_id engine, fun line id => requestId?_iff, ?split, ?lines, ?apart,
    fun worker line => answer_timely⟩
  case split =>
    rw [written]
    exact splitLines_stream answers
  case lines =>
    rw [written]
    exact lines_stream answers
  case apart =>
    intro valid
    refine ⟨fun more complete => handle_append complete valid more, ?perm, ?sublist⟩
    case perm =>
      intro other perm
      rw [written_valid (valid_of_subset valid perm.subset), written_valid valid]
      exact (perm.filterMap _).map _
    case sublist =>
      intro other sublist
      rw [written_valid (valid_of_subset valid sublist.subset), written_valid valid]
      exact (sublist.filterMap _).map _

def bareLine : List UInt8 := Text.utf8 (Json.object [("id", .string "a")]).compact

theorem stream_answered_bareLine :
    let input := bareLine ++ [0x0D, 0x0A]
    requestId? bareLine = some "a" ∧ ((answer? {} bareLine).map (·.id) = some "a") ∧
      (handle {} input).invalid = false ∧
      (handle {} (input ++ input)).written =
        (handle {} input).written ++ (handle {} input).written := by
  intro input
  obtain ⟨-, broken, ids, carries, -, -, apart, -⟩ := stream_answered {} input
  have cut : lines input = [bareLine] := by decide
  have spelled : Text.ofUtf8? bareLine = some (Json.object [("id", .string "a")]).compact :=
    Text.ofUtf8?_utf8 _
  have carried : requestId? bareLine = some "a" := by
    have stored : (Json.object [("id", .string "a")]).Storable Json.maxLevels :=
      .object 126 _ (by simp) (by simpa using .string 126 "a")
    exact (carries bareLine "a").mpr ⟨_, _, spelled, by decide, stored.parse_compact, by decide, rfl⟩
  have valid : (handle {} input).invalid = false := by
    rw [← Bool.not_eq_true, broken, cut]
    simp [spelled]
  refine ⟨carried, (ids bareLine).trans carried, valid, ?_⟩
  rw [(apart valid).1 input (.inr (by decide))]

end Service

end ResumableScript
