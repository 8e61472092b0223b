import Mathlib.Data.List.TakeWhile
import Mathlib.Tactic.Basic
import ResumableScript.Proofs.Json.Literal

/-! Compact JSON stands on one line, whatever its strings and keys hold, and so do its bytes. -/
namespace ResumableScript

def OneLine (text : String) : Prop := '\n' ∉ text.toList

namespace OneLine

theorem append {a b : String} (left : OneLine a) (right : OneLine b) : OneLine (a ++ b) := by
  intro there
  rw [String.toList_append, List.mem_append] at there
  rcases there with there | there
  · exact left there
  · exact right there

theorem intercalate {separator : String} (between : OneLine separator) {texts : List String}
    (all : ∀ text ∈ texts, OneLine text) : OneLine (separator.intercalate texts) := by
  induction texts with
  | nil => simp [OneLine]
  | cons text rest ih =>
    have first := all text List.mem_cons_self
    cases rest with
    | nil => simpa using first
    | cons next rest =>
      have others := ih fun other there => all other (List.mem_cons_of_mem _ there)
      rw [String.intercalate_cons_cons]
      exact (first.append between).append others

end OneLine

section Numbers

theorem newline_not_mem_toDigits (n : Nat) : '\n' ∉ Nat.toDigits 10 n := by
  intro there
  have digit := Nat.isDigit_of_mem_toDigits (by decide) (by decide) there
  simp at digit

theorem newline_not_mem_positional {digits : List Char} (bare : '\n' ∉ digits) (scale : Int) :
    '\n' ∉ Decimal.positional digits scale := by
  have first places : '\n' ∉ digits.take places := fun there => bare (List.mem_of_mem_take there)
  have rest places : '\n' ∉ digits.drop places := fun there => bare (List.mem_of_mem_drop there)
  unfold Decimal.positional
  dsimp only
  split
  · simp [bare, List.mem_replicate]
  split
  · simp [first, rest]
  · simp [bare, List.mem_replicate]

theorem newline_not_mem_scientific {digits : List Char} (bare : '\n' ∉ digits) (exponent : Int) :
    '\n' ∉ Decimal.scientific digits exponent := by
  have first : '\n' ∉ digits.take 1 := fun there => bare (List.mem_of_mem_take there)
  have rest : '\n' ∉ digits.tail := fun there => bare (List.mem_of_mem_tail there)
  have power := newline_not_mem_toDigits exponent.natAbs
  unfold Decimal.scientific
  dsimp only
  split <;> split <;> simp_all

theorem floatText_oneLine (x : Float) : OneLine (Decimal.floatText x) := by
  have written (d : Decimal.Digits) : '\n' ∉ Decimal.floatLayout.write d := by
    have digits := newline_not_mem_toDigits d.value
    unfold Decimal.Layout.write
    dsimp only
    split
    · exact newline_not_mem_positional digits _
    · exact newline_not_mem_scientific digits _
  unfold OneLine Decimal.floatText
  dsimp only
  rw [String.toList_ofList]
  split <;> simp [written]

theorem repr_oneLine (n : Nat) : OneLine n.repr := by
  unfold OneLine Nat.repr
  rw [String.toList_ofList]
  exact newline_not_mem_toDigits n

theorem number_oneLine (n : Json.Number) : OneLine n.text := by
  cases n with
  | float x finite => exact floatText_oneLine x
  | integer n bounds =>
    show OneLine n.repr
    rw [Int.repr_eq_if]
    split
    · exact repr_oneLine _
    · exact OneLine.append (by simp [OneLine]) (repr_oneLine _)

end Numbers

theorem hexDigit_ne_newline : ∀ n < 16, Json.hexDigit n ≠ '\n' := by decide

theorem newline_not_mem_escape (c : Char) : '\n' ∉ Json.escape c := by
  unfold Json.escape
  split
  · decide
  split
  · decide
  split
  · decide
  split
  · decide
  split
  · decide
  split
  · decide
  split
  · decide
  split
  · next control =>
    have high := (hexDigit_ne_newline (c.toNat / 16) (by omega)).symm
    have low := (hexDigit_ne_newline (c.toNat % 16) (by omega)).symm
    simp [high, low]
  · next other _ _ _ =>
    simp [Ne.symm other]

theorem quoted_oneLine (text : String) : OneLine (Json.quoted text) := by
  unfold OneLine Json.quoted
  rw [String.toList_ofList]
  simp [newline_not_mem_escape]

mutual

theorem compact_oneLine : ∀ v : Json, OneLine v.compact
  | .null => by simp [Json.compact, OneLine]
  | .bool flag => by cases flag <;> simp [Json.compact, OneLine]
  | .number n => number_oneLine n
  | .string text => quoted_oneLine text
  | .array items => by
    have inner := compactItems_oneLine items
    exact OneLine.append (OneLine.append (by simp [OneLine]) inner) (by simp [OneLine])
  | .object members => by
    have inner := compactMembers_oneLine members
    exact OneLine.append (OneLine.append (by simp [OneLine]) inner) (by simp [OneLine])

theorem compactItems_oneLine : ∀ items : List Json, OneLine (Json.compactItems items)
  | [] => by simp [Json.compactItems, OneLine]
  | [item] => compact_oneLine item
  | item :: next :: rest => by
    have first := compact_oneLine item
    have others := compactItems_oneLine (next :: rest)
    exact OneLine.append (OneLine.append first (by simp [OneLine])) others

theorem compactMembers_oneLine : ∀ members : List (String × Json),
    OneLine (Json.compactMembers members)
  | [] => by simp [Json.compactMembers, OneLine]
  | [(key, value)] => by
    have inner := compact_oneLine value
    exact OneLine.append (OneLine.append (quoted_oneLine key) (by simp [OneLine])) inner
  | (key, value) :: next :: rest => by
    have inner := compact_oneLine value
    have others := compactMembers_oneLine (next :: rest)
    have first := OneLine.append (OneLine.append (quoted_oneLine key) (by simp [OneLine] : OneLine ":"))
      inner
    exact OneLine.append (OneLine.append first (by simp [OneLine])) others

end

theorem newline_not_mem_utf8 {text : String} (oneLine : OneLine text) : 0x0A ∉ Text.utf8 text := by
  intro member
  rw [Text.utf8_eq, List.mem_flatMap] at member
  obtain ⟨c, there, byte⟩ := member
  by_cases ascii : c.toNat ≤ 0x7F
  · rw [Text.utf8EncodeChar_ascii ascii, List.mem_singleton] at byte
    have code : c.toNat = 10 := by
      have value := congrArg UInt8.toNat byte
      rw [UInt8.toNat_ofNat', Nat.mod_eq_of_lt (by omega)] at value
      exact value.symm
    have same : c = '\n' := Char.toNat_inj.mp code
    exact oneLine (same ▸ there)
  · have high := Json.utf8EncodeChar_high ascii 0x0A byte
    simp at high

/-- On one line, a position counts the bytes before it. -/
theorem position_oneLine {text : String} (oneLine : OneLine text) {n : Nat}
    (within : n ≤ (Text.utf8 text).length) :
    Json.Position.behind ((Text.utf8 text).take n) = ⟨1, n⟩ := by
  have none : 0x0A ∉ (Text.utf8 text).take n :=
    fun there => newline_not_mem_utf8 oneLine (List.mem_of_mem_take there)
  have whole : ((Text.utf8 text).take n).reverse.takeWhile (· != 0x0A) =
      ((Text.utf8 text).take n).reverse := by
    refine List.takeWhile_eq_self_iff.mpr fun b there => ?_
    rw [bne_iff_ne]
    rintro rfl
    exact none (List.mem_reverse.mp there)
  rw [Json.Position.behind, whole, List.count_eq_zero.mpr none, List.length_reverse,
    List.length_take_of_le within]

end ResumableScript
