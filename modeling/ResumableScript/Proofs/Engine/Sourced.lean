import Mathlib.Tactic.Basic
import ResumableScript.Proofs.Json.Fuel
import ResumableScript.Proofs.Json.OneLine
import ResumableScript.Proofs.Engine.Checkpoint

/-! The source in a checkpoint stands for itself. Under another source a checkpoint is read, or
refused, just as before, whatever its journal holds: the source comes first in the body, and what is
read behind it depends neither on its text nor on its length. Only the position of a fault does. -/
namespace ResumableScript

def Continuation.sourced (c : Continuation) (source : String) : Continuation := { c with source }

namespace Json

theorem lacked?_value (shape : Shape) (key : String) (v w : Json) (rest : Members) :
    shape.lacked? ((key, v) :: rest) = shape.lacked? ((key, w) :: rest) := by
  have there (name : String) : (((key, v) :: rest).lookup name).isNone =
      (((key, w) :: rest).lookup name).isNone := by
    rw [List.lookup_cons, List.lookup_cons]
    cases name == key <;> rfl
  fun_induction Shape.lacked? ((key, v) :: rest) shape with
  | case1 inner ih | case2 inner ih => rw [ih, Shape.lacked?]
  | case3 label known => simp only [Shape.lacked?, there]
  | case4 => simp [Shape.lacked?]

/-- What is read behind a field that came first does not depend on its value. -/
theorem readMembers_behind {shape : Shape} {key : String} (field : shape.isField key = true)
    (fuel levels : Nat) (rest : Members) (s : Bytes) :
    ∃ outcome : Reader Members, ∀ v, readMembers shape ((key, v) :: rest) fuel levels s =
      outcome.map fun read => ((key, v) :: read.1, read.2) := by
  induction fuel generalizing rest s with
  | zero => exact ⟨failAt .expectedValue s, fun _ => rfl⟩
  | succ fuel ih =>
    simp only [readMembers, List.isEmpty_cons]
    cases nextKey false s with
    | error e => exact ⟨.error e, fun _ => rfl⟩
    | ok next =>
      obtain ⟨more, behind⟩ := next
      cases more with
      | false =>
        cases lacks : shape.lacked? ((key, .null) :: rest) with
        | none =>
          refine ⟨.ok (rest, behind), fun v => ?_⟩
          simp only [lacked?_value shape key v .null, lacks]
          rfl
        | some name =>
          refine ⟨failAt (.missingField name) behind, fun v => ?_⟩
          simp only [lacked?_value shape key v .null, lacks]
          rfl
      | true =>
        dsimp only
        cases readString behind with
        | error e => exact ⟨.error e, fun _ => rfl⟩
        | ok named =>
          obtain ⟨other, colon⟩ := named
          dsimp only
          by_cases same : other = key
          · -- refused for its name, whatever value the first one has
            subst same
            refine ⟨failAt (.repeatedField other) (pastBrace colon), fun v => ?_⟩
            simp [field, failAt, Except.map]
          · have passed (v : Json) : ((key, v) :: rest).lookup other = rest.lookup other := by
              rw [List.lookup_cons, beq_false_of_ne same]
            have kept (v value : Json) :
                Members.put other value ((key, v) :: rest) = (key, v) :: rest.put other value := by
              rw [Members.put, if_neg (Ne.symm same)]
            simp only [passed, kept]
            split
            · exact ⟨failAt (.repeatedField other) (pastBrace colon), fun _ => rfl⟩
            · split
              · next e _ => exact ⟨.error e, fun _ => rfl⟩
              · split
                · next e _ => exact ⟨.error (e.place pastBrace), fun _ => rfl⟩
                · next value left _ => exact ih (rest.put other value) left

end Json

theorem Continuation.ofJson?_sourced (members : Json.Members) (source other : String) :
    Continuation.ofJson? (.object (("source", .string other) :: members)) =
      (Continuation.ofJson? (.object (("source", .string source) :: members))).map
        (·.sourced other) := by
  have behind (name : String) (differ : (name == "source") = false) (v : Json) :
      List.lookup name (("source", v) :: members) = members.lookup name := by
    rw [List.lookup_cons, differ]
  have first (text : String) :
      List.lookup "source" (("source", Json.string text) :: members) = some (.string text) := rfl
  simp only [Continuation.ofJson?, Json.fields?, Json.Fields.required, Json.Fields.nullable,
    Json.Fields.get?, first, behind "external_functions" rfl, behind "limits" rfl,
    behind "journal" rfl, behind "pending" rfl, behind "prints_delivered" rfl, Json.asString?,
    Option.bind_eq_bind, Option.bind_some, Option.map_bind, Function.comp_def]
  cases members.lookup "pending" with
  | none => rfl
  | some v => cases v <;> rfl

/-- The refusal of a body for a fault so many bytes before its end. A body stands on one line. -/
def Continuation.unread (c : Continuation) (fault : Json.Fault) (left : Nat) : CheckpointFault :=
  .invalidContinuation ⟨fault, ⟨1, c.body.length - left⟩⟩

theorem Continuation.position_body (c : Continuation) (left : Nat) :
    Json.Position.behind (c.body.take (c.body.length - left)) = ⟨1, c.body.length - left⟩ :=
  position_oneLine (compact_oneLine c.toJson) (Nat.sub_le _ _)

variable (c : Continuation)

theorem Continuation.ofBody_sourced :
    (∃ found : Continuation, ∀ source,
      Continuation.ofBody (c.sourced source).body = .ok (found.sourced source)) ∨
    ∃ fault left, ∀ source, Continuation.ofBody (c.sourced source).body =
      .error ⟨fault, ⟨1, (c.sourced source).body.length - left⟩⟩ := by
  let fuel := 2 * c.back.length + 2
  let rest : Json.Members :=
    [("external_functions", Json.ofStrings c.externals), ("limits", c.limits.toJson)]
  have field : Continuation.shape.isField "source" = true := rfl
  obtain ⟨outcome, behind⟩ := Json.readMembers_behind field fuel 126 rest c.back
  have read (source : String) : Json.readValue Continuation.shape
      (2 * (c.sourced source).body.length + 2) Json.maxLevels (c.sourced source).body =
      outcome.map fun read => (.object (("source", .string source) :: read.1), read.2) := by
    obtain ⟨fuel', enough, whole⟩ := (c.sourced source).readValue_body
    have same : Json.readMembers Continuation.shape (("source", .string source) :: rest) fuel' 126
        c.back = _ := Json.readMembers_fuel _ _ 126 enough (Nat.le_refl fuel)
    refine whole.trans ?_
    refine (congrArg _ (same.trans (behind (.string source)))).trans ?_
    cases outcome <;> rfl
  cases outcome with
  | error e =>
    refine .inr ⟨e.fault, e.left.length, fun source => ?_⟩
    simp only [Continuation.ofBody, Json.parseBytes, Json.readText, read, Except.map,
      Except.mapError, Continuation.position_body]
  | ok result =>
    obtain ⟨members, left⟩ := result
    cases blank : Json.skipSpace left with
    | cons b r =>
      refine .inr ⟨.trailingCharacters, r.length, fun source => ?_⟩
      simp only [Continuation.ofBody, Json.parseBytes, Json.readText, read, Except.map,
        Except.mapError, blank, Json.failPast, List.tail_cons, Continuation.position_body]
    | nil =>
      have parsed (source : String) : Json.parseBytes Continuation.shape (c.sourced source).body =
          .ok (.object (("source", .string source) :: members)) := by
        simp only [Json.parseBytes, Json.readText, read, Except.map, blank, Except.mapError]
      obtain ⟨found, back⟩ := Continuation.ofJson?_of_fits (Json.parseBytes_fits (parsed c.source))
      refine .inl ⟨found, fun source => Continuation.ofBody_ok.mpr ⟨_, parsed source, ?_⟩⟩
      rw [Continuation.ofJson?_sourced members c.source, back]
      rfl

/-- The checkpoints of two runs that differ in their source load alike. -/
theorem Checkpoint.load_dump_sourced :
    (∃ found : Continuation, ∀ source,
      (Checkpoint.dump (c.sourced source)).load = .ok (found.sourced source)) ∨
    ∃ fault left, ∀ source, (Checkpoint.dump (c.sourced source)).load =
      .error ((c.sourced source).unread fault left) := by
  rcases c.ofBody_sourced with ⟨found, same⟩ | ⟨fault, left, same⟩
  · refine .inl ⟨found, fun source => ?_⟩
    rw [Checkpoint.load_dump_body, same]
  · refine .inr ⟨fault, left, fun source => ?_⟩
    rw [Checkpoint.load_dump_body, same]
    rfl

end ResumableScript
