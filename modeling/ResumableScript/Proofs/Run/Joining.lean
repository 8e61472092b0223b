import Mathlib.Tactic.Basic
import ResumableScript.Proofs.Run.Preamble
import ResumableScript.Proofs.Script.Sequence

/-! A preamble and its code are read one after the other. Trimming takes nothing from a preamble that
can be read, and the code keeps its forms and its faults, which lie further back by what is put in
front of it. -/
namespace ResumableScript.Preamble
open Script

variable {preamble : String} {forms : List Expr}

theorem parseChars_trim (parsed : parse preamble = .ok forms) :
    ∃ gap, Blank gap ∧ parseChars (Text.trim preamble.toList ++ gap) = .ok forms := by
  obtain ⟨gap, same, blank⟩ := Text.exists_trimRight (preamble.toList.dropWhile Text.isBlank)
  refine ⟨gap, blank, ?_⟩
  rw [Text.trim, ← same]
  exact (parseChars_skip (skip_dropWhile preamble.toList) forms).mpr parsed

/-- The bytes in front of the code: those of the trimmed preamble and of two line breaks. -/
def offset (preamble : String) : Nat :=
  if Text.trimmed preamble = "" then 0 else (Text.trimmed preamble).utf8ByteSize + 2

theorem parse_trimmed (parsed : parse preamble = .ok forms) :
    parse (Text.trimmed preamble) = .ok forms := by
  obtain ⟨gap, blank, done⟩ := parseChars_trim parsed
  have alone := parseChars_behind blank done .nil
  rw [List.append_nil] at alone
  rw [Text.trimmed, parse, String.toList_ofList, alone, parseChars_nil, readBehind, List.append_nil]

theorem parse_separated (parsed : parse preamble = .ok forms) (code : String) :
    parseChars (Text.trim preamble.toList ++ '\n' :: '\n' :: code.toList) =
      readBehind forms (byteLength (Text.trim preamble.toList) + 2) (parse code) := by
  obtain ⟨gap, blank, done⟩ := parseChars_trim parsed
  rw [parseChars_newline blank done, parseChars_break, readBehind_readBehind, List.append_nil]
  rfl

/-- Behind a preamble that can be read, code is read as if it stood alone: the forms of the preamble
come first, and a fault lies further back. So are any two scripts on lines of their own. -/
theorem join_in_sequence (preamble : String) (forms : List Expr)
    (parsed : parse preamble = .ok forms) :
    (∀ code, parse (join preamble code) = readBehind forms (offset preamble) (parse code)) ∧
      ∀ code, parse (preamble ++ "\n" ++ code) =
        readBehind forms (preamble.utf8ByteSize + 1) (parse code) := by
  constructor
  · intro code
    by_cases bare : Text.trimmed preamble = ""
    · have nothing := parse_trimmed parsed
      rw [bare] at nothing
      cases nothing
      have alone : join preamble code = code := by
        by_cases empty : code = "" <;> simp [join, bare, empty]
      rw [alone, offset, if_pos bare, readBehind_nothing]
    · rw [offset, if_neg bare]
      by_cases empty : code = ""
      · subst empty
        have alone : join preamble "" = Text.trimmed preamble := by
          simp [join, bare]
        have nothing : parse "" = .ok [] := parseChars_nil
        rw [alone, parse_trimmed parsed, nothing, readBehind, List.append_nil]
      · rw [parse, join_toList bare empty, parse_separated parsed, Text.trimmed, utf8ByteSize_ofList]
  · intro code
    have done : parseChars (preamble.toList ++ []) = .ok forms := by
      rw [List.append_nil]
      exact parsed
    have bytes := utf8ByteSize_ofList preamble.toList
    rw [String.ofList_toList] at bytes
    rw [bytes, parse, String.toList_append, String.toList_append, List.append_assoc]
    exact parseChars_newline .nil done code.toList

/-- The comment at the end of the preamble ends where the code begins. -/
theorem join_in_sequence_note :
    let preamble := "(f 1.) x ; note \n"
    ∃ forms, parse preamble = .ok forms ∧ forms.length = 2 ∧ offset preamble = 17 ∧
      (∀ code, parse (join preamble code) = readBehind forms 17 (parse code)) ∧
        ∀ code, parse (preamble ++ "\n" ++ code) = readBehind forms 18 (parse code) := by
  intro preamble
  have two : (parse preamble).toOption.map List.length = some 2 := by decide +kernel
  have bytes : offset preamble = 17 := by decide +kernel
  have whole : preamble.utf8ByteSize + 1 = 18 := by decide +kernel
  cases parsed : parse preamble with
  | error e =>
    rw [parsed] at two
    cases two
  | ok forms =>
    obtain ⟨joined, lines⟩ := join_in_sequence preamble forms parsed
    rw [bytes] at joined
    rw [whole] at lines
    rw [parsed] at two
    exact ⟨forms, rfl, Option.some.inj two, bytes, joined, lines⟩

end ResumableScript.Preamble
