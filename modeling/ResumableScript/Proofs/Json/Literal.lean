import Mathlib.Tactic.Basic
import ResumableScript.Json.Token
import ResumableScript.Json.Printer

/-! Written strings are read back. Every character is written as itself, byte by byte, or as one
escape. -/
namespace ResumableScript.Json

def IsPlain (b : UInt8) : Prop := b ≠ byte '"' ∧ b ≠ byte '\\' ∧ ¬ b < 0x20

theorem readStringBytes_plain {chunk rest s t : Bytes} {fuel : Nat} (plain : ∀ b ∈ chunk, IsPlain b)
    (h : readStringBytes fuel s = .ok (rest, t)) :
    readStringBytes (fuel + chunk.length) (chunk ++ s) = .ok (chunk ++ rest, t) := by
  induction chunk with
  | nil => exact h
  | cons b chunk ih =>
    obtain ⟨quote, backslash, control⟩ := plain b List.mem_cons_self
    rw [List.length_cons, ← Nat.add_assoc, List.cons_append, readStringBytes, if_neg quote,
      if_neg backslash, if_neg control, ih fun c member => plain c (List.mem_cons_of_mem b member)]
    rfl

theorem readStringBytes_escape {chunk rest s t escape : Bytes} {fuel : Nat}
    (escaped : readEscape (escape ++ s) = .ok (chunk, s))
    (h : readStringBytes fuel s = .ok (rest, t)) :
    readStringBytes (fuel + 1) (byte '\\' :: (escape ++ s)) = .ok (chunk ++ rest, t) := by
  rw [readStringBytes, if_neg (by decide), if_pos rfl, escaped]
  dsimp only
  rw [h]
  rfl

theorem isPlain_of_high {b : UInt8} (high : 0x80 ≤ b.toNat) : IsPlain b := by
  have bound : ∀ c : UInt8, c.toNat < 0x80 → b ≠ c := by
    rintro c low rfl
    omega
  refine ⟨bound _ (by decide), bound _ (by decide), fun control => ?_⟩
  have : b.toNat < 0x20 := control
  omega

theorem utf8EncodeChar_high {c : Char} (wide : ¬ c.toNat ≤ 0x7f) :
    ∀ b ∈ String.utf8EncodeChar c, 0x80 ≤ b.toNat := by
  intro b member
  have wide : ¬ c.val.toNat ≤ 0x7f := wide
  simp only [String.utf8EncodeChar, if_neg wide] at member
  have high (n : Nat) (top : 0x80 ≤ n) (byte : n < 0x100) : 0x80 ≤ (UInt8.ofNat n).toNat := by
    rw [UInt8.toNat_ofNat', Nat.mod_eq_of_lt byte]
    exact top
  split at member
  · simp only [List.mem_cons, List.not_mem_nil, or_false] at member
    obtain rfl | rfl := member <;> exact high _ (by omega) (by omega)
  · split at member
    · simp only [List.mem_cons, List.not_mem_nil, or_false] at member
      obtain rfl | rfl | rfl := member <;> exact high _ (by omega) (by omega)
    · simp only [List.mem_cons, List.not_mem_nil, or_false] at member
      obtain rfl | rfl | rfl | rfl := member <;> exact high _ (by omega) (by omega)

def escapeBytes (c : Char) : Bytes := (escape c).flatMap String.utf8EncodeChar

theorem hexValue_hexDigit : ∀ n < 16,
    (hexDigit n).toNat ≤ 127 ∧ hexValue? (UInt8.ofNat (hexDigit n).toNat) = some n := by decide

theorem readEscape_control {n : Nat} (control : n < 0x20) (s : Bytes) :
    readEscape ([byte 'u', byte '0', byte '0', UInt8.ofNat (hexDigit (n / 16)).toNat,
      UInt8.ofNat (hexDigit (n % 16)).toNat] ++ s) = .ok (String.utf8EncodeChar (Char.ofNat n), s) := by
  have high := (hexValue_hexDigit (n / 16) (by omega)).2
  have low := (hexValue_hexDigit (n % 16) (by omega)).2
  have zero : hexValue? (byte '0') = some 0 := by decide
  have simple : simpleEscape? (byte 'u') = none := by decide
  have value : ((0 * 16 + 0) * 16 + n / 16) * 16 + n % 16 = n := by omega
  simp only [readEscape, List.cons_append, List.nil_append, simple, ne_eq, not_true_eq_false,
    if_false, readCodePoint, readHex, zero, high, low, value]
  rw [if_neg (by omega), if_neg (by omega)]
  rfl

theorem escapeBytes_control {c : Char} (control : c.toNat < 0x20) :
    ['\\', 'u', '0', '0', hexDigit (c.toNat / 16), hexDigit (c.toNat % 16)].flatMap
        String.utf8EncodeChar =
      byte '\\' :: [byte 'u', byte '0', byte '0', UInt8.ofNat (hexDigit (c.toNat / 16)).toNat,
        UInt8.ofNat (hexDigit (c.toNat % 16)).toNat] := by
  have high := (hexValue_hexDigit (c.toNat / 16) (by omega)).1
  have low := (hexValue_hexDigit (c.toNat % 16) (by omega)).1
  simp only [List.flatMap_cons, List.flatMap_nil, Text.utf8EncodeChar_ascii high,
    Text.utf8EncodeChar_ascii low]
  rfl

theorem byte_ne {c d : Char} (ascii : c.toNat ≤ 0x7f) (narrow : d.toNat ≤ 0x7f) (other : c ≠ d) :
    UInt8.ofNat c.toNat ≠ UInt8.ofNat d.toNat := by
  intro same
  have values := congrArg UInt8.toNat same
  rw [UInt8.toNat_ofNat', UInt8.toNat_ofNat', Nat.mod_eq_of_lt (by omega),
    Nat.mod_eq_of_lt (by omega)] at values
  exact other (Char.toNat_inj.mp values)

/-- A character is written as itself, or as a backslash and what is read as its escape. -/
theorem escapeBytes_cases (c : Char) :
    (escapeBytes c = String.utf8EncodeChar c ∧ ∀ b ∈ String.utf8EncodeChar c, IsPlain b) ∨
      ∃ escape, escapeBytes c = byte '\\' :: escape ∧
        ∀ s, readEscape (escape ++ s) = .ok (String.utf8EncodeChar c, s) := by
  by_cases simple : c ∈ ['"', '\\', '\x08', '\x0c', '\n', '\r', '\t']
  · refine .inr ?_
    simp only [List.mem_cons, List.not_mem_nil, or_false] at simple
    obtain rfl | rfl | rfl | rfl | rfl | rfl | rfl := simple
    · exact ⟨[byte '"'], rfl, fun s => rfl⟩
    · exact ⟨[byte '\\'], rfl, fun s => rfl⟩
    · exact ⟨[byte 'b'], rfl, fun s => rfl⟩
    · exact ⟨[byte 'f'], rfl, fun s => rfl⟩
    · exact ⟨[byte 'n'], rfl, fun s => rfl⟩
    · exact ⟨[byte 'r'], rfl, fun s => rfl⟩
    · exact ⟨[byte 't'], rfl, fun s => rfl⟩
  · simp only [List.mem_cons, List.not_mem_nil, or_false, not_or] at simple
    obtain ⟨quote, backslash, back, form, line, carriage, tab⟩ := simple
    unfold escapeBytes escape
    rw [if_neg quote, if_neg backslash, if_neg back, if_neg form, if_neg line, if_neg carriage,
      if_neg tab]
    by_cases control : c.toNat < 0x20
    · rw [if_pos control, escapeBytes_control control]
      refine .inr ⟨_, rfl, fun s => ?_⟩
      rw [readEscape_control control, Char.ofNat_toNat]
    · rw [if_neg control, List.flatMap_singleton]
      refine .inl ⟨rfl, ?_⟩
      by_cases ascii : c.toNat ≤ 0x7f
      · intro b member
        rw [Text.utf8EncodeChar_ascii ascii] at member
        cases List.mem_singleton.mp member
        refine ⟨byte_ne ascii (by decide) quote, byte_ne ascii (by decide) backslash, fun below => ?_⟩
        have below : (UInt8.ofNat c.toNat).toNat < 0x20 := below
        rw [UInt8.toNat_ofNat', Nat.mod_eq_of_lt (by omega)] at below
        exact control below
      · exact fun b member => isPlain_of_high (utf8EncodeChar_high ascii b member)

def literalBytes (text : List Char) : Bytes := text.flatMap escapeBytes

theorem readStringBytes_literal (text : List Char) {fuel : Nat}
    (enough : (literalBytes text).length < fuel) (s : Bytes) :
    readStringBytes fuel (literalBytes text ++ byte '"' :: s) =
      .ok (text.flatMap String.utf8EncodeChar, s) := by
  induction text generalizing fuel with
  | nil =>
    cases fuel with
    | zero => cases enough
    | succ fuel => rfl
  | cons c text ih =>
    have split : literalBytes (c :: text) = escapeBytes c ++ literalBytes text := rfl
    rw [split, List.length_append] at enough
    rw [split, List.append_assoc, List.flatMap_cons]
    obtain ⟨same, plain⟩ | ⟨escape, same, escaped⟩ := escapeBytes_cases c
    · rw [same] at enough ⊢
      have rest : readStringBytes (fuel - (String.utf8EncodeChar c).length) _ = _ := ih (by omega)
      have all := readStringBytes_plain plain rest
      rwa [Nat.sub_add_cancel (by omega)] at all
    · rw [same] at enough ⊢
      rw [List.length_cons] at enough
      have rest : readStringBytes (fuel - 1) _ = _ := ih (by omega)
      have all := readStringBytes_escape (escaped _) rest
      rwa [Nat.sub_add_cancel (by omega)] at all

theorem utf8_quoted (text : String) :
    Text.utf8 (quoted text) = byte '"' :: (literalBytes text.toList ++ [byte '"']) := by
  unfold quoted
  rw [Text.utf8_ofList, List.cons_append, List.flatMap_cons, List.flatMap_append,
    List.flatMap_assoc]
  rfl

theorem readString_literal (text : String) (s : Bytes) :
    readString (literalBytes text.toList ++ byte '"' :: s) = .ok (text, s) := by
  unfold readString
  rw [readStringBytes_literal text.toList (by simp only [List.length_append]; omega) s]
  dsimp only
  rw [← Text.utf8_eq, Text.ofUtf8?_utf8]

end ResumableScript.Json
