import Mathlib.Tactic.Basic
import ResumableScript.Proofs.Json.Nesting
import ResumableScript.Run.RuntimeTool

/-! The layout in lines is read back as the compact one is: it differs by breaks, which every reader
passes over before it looks. What the stringifying function writes, in either layout, the parsing
function takes back. -/
namespace ResumableScript

namespace Json

section Lines

theorem utf8_newline (level : Nat) :
    Text.utf8 (newline level) = byte '\n' :: List.replicate (2 * level) 0x20 := by
  have blank : String.utf8EncodeChar ' ' = [0x20] := by decide
  rw [newline, Text.utf8_ofList, List.flatMap_cons, List.flatMap_replicate, blank,
    List.flatten_replicate_singleton]
  rfl

theorem newline_isBreak (level : Nat) : IsBreak (Text.utf8 (newline level)) where
  blank := by
    rw [utf8_newline, skipSpace, List.dropWhile_cons_of_pos rfl, List.dropWhile_replicate]
    rfl
  first b front := by
    rw [utf8_newline] at front
    exact (Option.some.inj front).symm

variable {shape : Shape} {levels : Nat} {v : Json}

theorem ReadsAs.behind {text : Bytes} (h : ReadsAs shape levels text v) {lead : Bytes}
    (blank : skipSpace lead = []) : ReadsAs shape levels (lead ++ text) v where
  opens := by
    rw [skipSpace_append_nil blank]
    exact h.opens
  read fuel extra r enough delimited := by
    have pos := h.length_pos
    rw [List.length_append] at enough
    cases fuel with
    | zero => omega
    | succ fuel =>
      rw [List.append_assoc, readValue_blanks _ _ _ (skipSpace_append_nil blank _)]
      exact h.read (fuel + 1) extra r (by omega) delimited

def itemLine (level : Nat) (v : Json) : Bytes :=
  Text.utf8 (newline level) ++ Text.utf8 (v.prettyAt level)

def memberValue (level : Nat) (v : Json) : Bytes := 0x20 :: Text.utf8 (v.prettyAt level)

theorem utf8_prettyItems (level : Nat) (v : Json) (rest : List Json) :
    Text.utf8 (prettyItems level (v :: rest)) =
      itemLine level v ++ (comma rest ++ Text.utf8 (prettyItems level rest)) := by
  unfold itemLine
  cases rest with
  | nil => simp [prettyItems, comma, Text.utf8_eq]
  | cons next rest =>
    have comma : Text.utf8 "," = [byte ','] := by decide
    rw [prettyItems, Text.utf8_append, Text.utf8_append, Text.utf8_append, comma, List.append_assoc]
    rfl

theorem utf8_prettyMembers (level : Nat) (key : String) (v : Json) (rest : Members) :
    Text.utf8 (prettyMembers level ((key, v) :: rest)) =
      Text.utf8 (newline level) ++ byte '"' :: (literalBytes key.toList ++ byte '"' :: byte ':' ::
        (memberValue level v ++ (comma rest ++ Text.utf8 (prettyMembers level rest)))) := by
  unfold memberValue
  have colon : Text.utf8 ": " = [byte ':', 0x20] := by decide
  cases rest with
  | nil =>
    have none : Text.utf8 "" = [] := rfl
    simp [prettyMembers, comma, Text.utf8_append, utf8_quoted, colon, none]
  | cons next rest =>
    have comma : Text.utf8 "," = [byte ','] := by decide
    rw [prettyMembers]
    simp [Text.utf8_append, utf8_quoted, colon, comma]
    rfl

theorem prettyArray_reads {items : List Json} {level : Nat}
    (reads : ∀ v ∈ items, ReadsAs .any levels (Text.utf8 (v.prettyAt (level + 1))) v) :
    ReadsAs .any (levels + 1) (Text.utf8 ((array items).prettyAt level)) (array items) := by
  cases items with
  | nil =>
    have none : ∀ v ∈ ([] : List Json), ReadsAs .any levels (bytes v) v := List.forall_mem_nil _
    exact array_reads rfl (fun _ => rfl) none
  | cons first rest =>
    have laid := layItems_eq (fun items => Text.utf8 (prettyItems (level + 1) items)) rfl
      (utf8_prettyItems (level + 1)) (first :: rest)
    have text : Text.utf8 ((array (first :: rest)).prettyAt level) =
        byte '[' :: (layItems (itemLine (level + 1)) 0 (first :: rest) ++
          (Text.utf8 (newline level) ++ [byte ']'])) := by
      rw [laid, prettyAt, Text.utf8_append, Text.utf8_append, Text.utf8_append, List.append_assoc,
        List.append_assoc]
      rfl
    rw [text]
    exact layItems_reads rfl (fun _ => rfl)
      (fun v there => (reads v there).behind (newline_isBreak _).blank) (newline_isBreak level)

theorem prettyObject_reads {members : Members} {level : Nat}
    (distinct : (members.map Prod.fst).Nodup)
    (reads : ∀ member ∈ members,
      ReadsAs .any levels (Text.utf8 (member.2.prettyAt (level + 1))) member.2) :
    ReadsAs .any (levels + 1) (Text.utf8 ((object members).prettyAt level)) (object members) := by
  cases members with
  | nil =>
    have none : ∀ member ∈ ([] : Members), ∃ inner, Shape.any.member? member.1 = some inner ∧
        ReadsAs inner levels (bytes member.2) member.2 := List.forall_mem_nil _
    exact object_reads rfl rfl distinct none
  | cons first rest =>
    have laid := layMembers_eq (fun members => Text.utf8 (prettyMembers (level + 1) members)) rfl
      (utf8_prettyMembers (level + 1)) true (first :: rest)
    have text : Text.utf8 ((object (first :: rest)).prettyAt level) =
        byte '\x7b' :: (layMembers (Text.utf8 (newline (level + 1))) (memberValue (level + 1)) true
          (first :: rest) ++ (Text.utf8 (newline level) ++ [byte '\x7d'])) := by
      rw [laid, prettyAt, Text.utf8_append, Text.utf8_append, Text.utf8_append, List.append_assoc,
        List.append_assoc]
      rfl
    have blank : skipSpace [0x20] = [] := rfl
    rw [text]
    exact layMembers_reads (newline_isBreak _) rfl rfl distinct
      (fun member there => ⟨.any, rfl, (reads member there).behind blank⟩) (newline_isBreak level)

theorem Storable.reads_pretty (h : Storable levels v) (level : Nat) :
    ReadsAs .any levels (Text.utf8 (v.prettyAt level)) v := by
  induction h generalizing level with
  | null levels => exact null_reads.reads rfl
  | bool levels flag => exact (bool_reads flag).reads rfl
  | string levels text => exact (string_reads text).reads rfl
  | integer levels n bounds => exact (integer_reads n bounds).reads rfl
  | float levels x finite back => exact (float_reads back).reads rfl
  | array levels items inner ih => exact prettyArray_reads fun v there => ih v there (level + 1)
  | object levels members distinct inner ih =>
    exact prettyObject_reads distinct fun member there => ih member there (level + 1)

theorem Storable.parse_pretty (h : Storable maxLevels v) : parse v.pretty = .ok v :=
  (h.reads_pretty 0).parseBytes (Nat.le_refl _)

end Lines

end Json

namespace RuntimeTool

theorem asksPretty_iff (asked : Option Json) :
    (asked.bind Json.asBool?).getD false = true ↔ asked = some (.bool true) := by
  rcases asked with _ | value
  · simp
  · cases value <;> simp [Json.asBool?]

theorem parse_text {text : String} {v : Json} (back : Json.parse text = .ok v) :
    parse [("text", .string text)] = .ok (.object [("value", v)]) := by
  have given : (List.lookup "text" [("text", Json.string text)]).bind Json.asString? = some text := rfl
  rw [parse, given]
  dsimp only
  rw [back]

/-- Whatever the arguments say of the layout, the text that a value is made into is the value's: parsing
it gives the same value again, with the members of every object in the same order. -/
theorem stringified_parsed {arguments : Json.Members} {v : Json}
    (given : arguments.lookup "value" = some v) (levels : v.nesting ≤ 127)
    (floats : v.FloatsReadBack) (keys : v.KeysDistinct) :
    ∃ text : String,
      answer? stringifyName arguments = some (.ok (.object [("value", .string text)])) ∧
      (arguments.lookup "pretty" = some (.bool true) → text = v.pretty) ∧
      (arguments.lookup "pretty" ≠ some (.bool true) → text = v.compact) ∧
      answer? parseName [("text", .string text)] = some (.ok (.object [("value", v)])) := by
  have storable : v.Storable Json.maxLevels := Json.storable_of_nesting levels floats keys
  have answered : answer? stringifyName arguments = some (.ok (stringify arguments)) := rfl
  have parsed {text : String} (back : Json.parse text = .ok v) :
      answer? parseName [("text", .string text)] = some (.ok (.object [("value", v)])) :=
    congrArg some (parse_text back)
  rw [answered, stringify, given]
  by_cases pretty : arguments.lookup "pretty" = some (.bool true)
  · refine ⟨v.pretty, ?_, fun _ => rfl, fun other => absurd pretty other,
      parsed storable.parse_pretty⟩
    rw [if_pos ((asksPretty_iff _).mpr pretty)]
    rfl
  · refine ⟨v.compact, ?_, fun asked => absurd asked pretty, fun _ => rfl,
      parsed storable.parse_compact⟩
    rw [if_neg (mt (asksPretty_iff _).mp pretty)]
    rfl

/-- An object with an empty and a filled container, a quote and a line break in a text, a float and the
greatest integer, in lines. -/
theorem stringified_parsed_lines :
    let v : Json := .object [("b\n\"", .array [.number (.float 0.75 (by decide +kernel)), .null]),
      ("a", .object []), ("", .number (.integer 18446744073709551615 (by decide)))]
    let arguments : Json.Members := [("value", v), ("pretty", .bool true)]
    arguments.lookup "value" = some v ∧ v.nesting ≤ 127 ∧ v.FloatsReadBack ∧ v.KeysDistinct ∧
      answer? stringifyName arguments = some (.ok (.object [("value", .string v.pretty)])) ∧
      answer? parseName [("text", .string v.pretty)] = some (.ok (.object [("value", v)])) := by
  intro v arguments
  have float : (Json.number (.float 0.75 (by decide +kernel))).Storable 0 := .float _ _ _ rfl
  have storable : v.Storable 2 := by
    refine .object _ _ (by decide) ?_
    simp only [List.forall_mem_cons]
    refine ⟨.array _ _ ?_, .object _ _ List.nodup_nil (List.forall_mem_nil _), .integer _ _ _,
      List.forall_mem_nil _⟩
    simp only [List.forall_mem_cons]
    exact ⟨float, .null 0, List.forall_mem_nil _⟩
  obtain ⟨levels, floats, keys⟩ := Json.storable_iff.mp storable
  have shallow : v.nesting ≤ 127 := Nat.le_trans levels (by decide)
  have given : arguments.lookup "value" = some v := rfl
  obtain ⟨text, written, pretty, -, back⟩ := stringified_parsed given shallow floats keys
  rw [pretty rfl] at written back
  exact ⟨given, shallow, floats, keys, written, back⟩

end RuntimeTool

end ResumableScript
