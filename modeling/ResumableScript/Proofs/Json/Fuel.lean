import Mathlib.Tactic.Basic
import ResumableScript.Json.Parser

/-! The fuel of a reader is no limit. No reader leaves more bytes than it got, and a value takes up at
least one, so that two units for every byte are enough: with more of it a text is read alike. -/
namespace ResumableScript.Json

theorem map_ok {α γ : Type} {r : Except Failure α} {f : α → γ} {y : γ} (h : r.map f = .ok y) :
    ∃ x, r = .ok x ∧ f x = y := by
  cases r with
  | error e => cases h
  | ok x => exact ⟨x, rfl, Except.ok.inj h⟩

attribute [local grind] failAt failPast refuse
attribute [local grind →] map_ok

section Tokens

variable {s rest : Bytes}

@[grind →]
theorem readWord_length {word : Bytes} (h : readWord word s = .ok rest) : rest.length ≤ s.length := by
  fun_induction readWord word s <;> grind

@[grind →]
theorem readHex_length {n : Nat} (h : readHex s = .ok (n, rest)) : rest.length ≤ s.length := by
  unfold readHex at h
  grind

@[grind →]
theorem readLowSurrogate_length {high n : Nat} (h : readLowSurrogate high s = .ok (n, rest)) :
    rest.length ≤ s.length := by
  unfold readLowSurrogate at h
  grind

@[grind →]
theorem readCodePoint_length {n : Nat} (h : readCodePoint s = .ok (n, rest)) :
    rest.length ≤ s.length := by
  unfold readCodePoint at h
  grind

@[grind →]
theorem readEscape_length {chunk : Bytes} (h : readEscape s = .ok (chunk, rest)) :
    rest.length ≤ s.length := by
  unfold readEscape at h
  grind

@[grind →]
theorem readStringBytes_length {fuel : Nat} {text : Bytes}
    (h : readStringBytes fuel s = .ok (text, rest)) : rest.length ≤ s.length := by
  fun_induction readStringBytes fuel s generalizing text rest <;> grind

@[grind →]
theorem readString_length {text : String} (h : readString s = .ok (text, rest)) :
    rest.length ≤ s.length := by
  unfold readString at h
  grind

@[grind =]
theorem dropDigits_length (s : Bytes) :
    (s.dropWhile isDigit).length = s.length - (s.takeWhile isDigit).length := by
  have whole := congrArg List.length (List.takeWhile_append_dropWhile (p := isDigit) (l := s))
  rw [List.length_append] at whole
  omega

@[grind →]
theorem skipSpace_length {b : UInt8} (h : skipSpace s = b :: rest) : rest.length < s.length := by
  have shorter : (skipSpace s).length ≤ s.length := (List.dropWhile_suffix _).length_le
  rw [h] at shorter
  exact shorter

@[grind →]
theorem readWhole_length {digits : Bytes} (h : readWhole s = .ok (digits, rest)) :
    rest.length < s.length := by
  unfold readWhole takeDigits at h
  grind

@[grind →]
theorem readFraction_length {digits : Option Bytes} (h : readFraction s = .ok (digits, rest)) :
    rest.length ≤ s.length := by
  unfold readFraction takeDigits at h
  grind

@[grind →]
theorem readExponentDigits_length {overflows : Bool} {start n : Nat}
    (h : readExponentDigits overflows start s = .ok (n, rest)) : rest.length ≤ s.length := by
  fun_induction readExponentDigits overflows start s <;> grind

@[grind →]
theorem takeSign_length {b : UInt8} (h : (takeSign s).2 = b :: rest) : rest.length < s.length := by
  unfold takeSign at h
  grind

@[grind →]
theorem readExponent_length {nonzero : Bool} {exponent : Option Int}
    (h : readExponent nonzero s = .ok (exponent, rest)) : rest.length ≤ s.length := by
  unfold readExponent at h
  grind

@[grind →]
theorem readNumberText_length {negative : Bool} {text : NumberText}
    (h : readNumberText negative s = .ok (text, rest)) : rest.length < s.length := by
  unfold readNumberText at h
  grind

@[grind →]
theorem readNumber_length {negative : Bool} {v : Json} (h : readNumber negative s = .ok (v, rest)) :
    rest.length < s.length := by
  unfold readNumber at h
  grind

@[grind →]
theorem readColon_length (h : readColon s = .ok rest) : rest.length ≤ s.length := by
  unfold readColon at h
  grind

end Tokens

section Skipping

variable {s rest : Bytes}

@[grind →]
theorem skipWhole_length (h : skipWhole s = .ok rest) : rest.length < s.length := by
  unfold skipWhole skipDigits at h
  grind

@[grind →]
theorem skipFraction_length (h : skipFraction s = .ok rest) : rest.length ≤ s.length := by
  unfold skipFraction skipDigits at h
  grind

@[grind →]
theorem skipExponent_length (h : skipExponent s = .ok rest) : rest.length ≤ s.length := by
  unfold skipExponent skipSign skipDigits at h
  grind

theorem skipPart_length {starts : UInt8 → Bool} {part : Bytes → Except Failure Bytes}
    (shorter : ∀ {s rest}, part s = .ok rest → rest.length ≤ s.length)
    (h : skipPart starts part s = .ok rest) : rest.length ≤ s.length := by
  unfold skipPart at h
  grind

@[grind →]
theorem skipNumber_length (h : skipNumber s = .ok rest) : rest.length < s.length := by
  simp only [skipNumber, bind, Except.bind] at h
  have fraction {s rest : Bytes} (h : skipPart (· == byte '.') skipFraction s = .ok rest) :=
    skipPart_length skipFraction_length h
  have exponent {s rest : Bytes}
      (h : skipPart (fun b => b == byte 'e' || b == byte 'E') skipExponent s = .ok rest) :=
    skipPart_length skipExponent_length h
  grind

@[grind →]
theorem skipString_length (h : skipString s = .ok rest) : rest.length ≤ s.length := by
  fun_induction skipString s <;> grind

@[grind →]
theorem skipScalar_length {b : UInt8} (h : skipScalar b s = .ok rest) :
    rest.length ≤ s.length := by
  unfold skipScalar at h
  grind

@[grind →]
theorem skipKey_length (h : skipKey s = .ok rest) : rest.length ≤ s.length := by
  simp only [skipKey, bind, Except.bind] at h
  grind

@[grind →]
theorem skipLead_length {bracket : Bracket} (h : bracket.skipLead s = .ok rest) :
    rest.length ≤ s.length := by
  unfold Bracket.skipLead at h
  grind

@[grind →]
theorem skipFrom_length {fuel : Nat} {stage : Stage} {brackets : List Bracket}
    (h : skipFrom fuel stage brackets s = .ok rest) : rest.length ≤ s.length := by
  fun_induction skipFrom fuel stage brackets s <;> grind

@[grind →]
theorem skipValue_length (h : skipValue s = .ok rest) : rest.length ≤ s.length := skipFrom_length h

end Skipping

section Values

variable {s rest : Bytes} {shape : Shape}

@[grind →]
theorem nextItem_length {first more : Bool} (h : nextItem first s = .ok (more, rest)) :
    rest.length ≤ s.length := by
  unfold nextItem at h
  grind

@[grind →]
theorem endItems_length (h : endItems s = .ok rest) : rest.length ≤ s.length := by
  unfold endItems at h
  grind

@[grind →]
theorem nextKey_length {first more : Bool} (h : nextKey first s = .ok (more, rest)) :
    rest.length < s.length := by
  unfold nextKey at h
  grind

@[grind →]
theorem readScalar_length {b : UInt8} {v : Json} (h : readScalar b s = .ok (v, rest)) :
    rest.length ≤ s.length := by
  unfold readScalar at h
  grind

@[grind →]
theorem readFitting_length {b : UInt8} {v : Json} (h : readFitting shape b s = .ok (v, rest)) :
    rest.length ≤ s.length := by
  unfold readFitting at h
  grind

@[grind →]
theorem readName_length {known : List (String × Shape)} {name : String}
    (h : readName known s = .ok (name, rest)) : rest.length ≤ s.length := by
  unfold readName at h
  grind

@[grind →]
theorem readVariant_length {known : List (String × Shape)} {name : String}
    (h : readVariant known s = .ok (name, rest)) : rest.length ≤ s.length := by
  unfold readVariant at h
  grind

@[grind →]
theorem endVariant_length (h : endVariant s = .ok rest) : rest.length ≤ s.length := by
  unfold endVariant at h
  grind

theorem refuseName_ne_ok {α : Type} {known : List (String × Shape)} {b : UInt8} {x : α} :
    refuseName known b s ≠ .ok x := by
  unfold refuseName
  grind

/-- A value takes up at least a byte, and no reader leaves more bytes than it got. -/
theorem read_length (fuel : Nat) :
    (∀ {shape levels s v rest}, readValue shape fuel levels s = .ok (v, rest) →
      rest.length < s.length) ∧
    (∀ {shape index levels s items rest}, readItems shape index fuel levels s = .ok (items, rest) →
      rest.length ≤ s.length) ∧
    (∀ {shape read levels s members rest},
      readMembers shape read fuel levels s = .ok (members, rest) → rest.length ≤ s.length) ∧
    (∀ {known levels s members rest},
      readContent known fuel levels s = .ok (members, rest) → rest.length ≤ s.length) := by
  induction fuel with
  | zero => exact ⟨nofun, nofun, nofun, nofun⟩
  | succ fuel ih =>
    obtain ⟨value, items, members, content⟩ := ih
    refine ⟨fun h => ?_, fun h => ?_, fun h => ?_, fun h => ?_⟩
    · have refused := @refuseName_ne_ok (α := Json × Bytes)
      rw [readValue] at h
      grind
    · rw [readItems] at h
      grind
    · rw [readMembers] at h
      split at h
      · cases h
      · grind
      · -- the key is read: what is left is a colon, the value and the other members
        split at h
        · cases h
        · grind
    · rw [readContent] at h
      grind

/-- More fuel than two units for every byte changes nothing. -/
theorem read_more (fuel : Nat) :
    (∀ shape levels s, 2 * s.length + 1 ≤ fuel →
      readValue shape (fuel + 1) levels s = readValue shape fuel levels s) ∧
    (∀ shape index levels s, 2 * s.length + 2 ≤ fuel →
      readItems shape index (fuel + 1) levels s = readItems shape index fuel levels s) ∧
    (∀ shape read levels s, 2 * s.length + 2 ≤ fuel →
      readMembers shape read (fuel + 1) levels s = readMembers shape read fuel levels s) ∧
    (∀ known levels s, 2 * s.length + 2 ≤ fuel →
      readContent known (fuel + 1) levels s = readContent known fuel levels s) := by
  induction fuel with
  | zero => exact ⟨nofun, nofun, nofun, nofun⟩
  | succ fuel ih =>
    obtain ⟨value, items, members, content⟩ := ih
    refine ⟨fun shape levels s enough => ?_, fun shape index levels s enough => ?_,
      fun shape read levels s enough => ?_, fun known levels s enough => ?_⟩
    · rw [readValue, readValue.eq_def shape (fuel + 1)]
      dsimp only
      cases found : skipSpace s with
      | nil => rfl
      | cons b r =>
        have shorter := skipSpace_length found
        have inList (inner : Nat) := items shape 0 inner r (by omega)
        have inObject (inner : Nat) := members shape [] inner r (by omega)
        have alone (known : List (String × Shape)) (inner : Nat) := content known inner r (by omega)
        simp only [inList, inObject, alone]
    · rw [readItems, readItems.eq_def shape index (fuel + 1)]
      cases shape.item? index with
      | none => rfl
      | some inner =>
        dsimp only
        split
        · rfl
        · rfl
        · next behind found =>
          have kept := nextItem_length found
          rw [value inner levels behind (by omega)]
          split
          · rfl
          · next item rest read =>
            have shorter := (read_length fuel).1 read
            rw [items shape (index + 1) levels rest (by omega)]
    · rw [readMembers, readMembers.eq_def shape read (fuel + 1)]
      dsimp only
      split
      · rfl
      · rfl
      · next behind found =>
        have shorter := nextKey_length found
        split
        · rfl
        · next key colon named =>
          have kept := readString_length named
          split
          · rfl
          · split
            · rfl
            · next start passed =>
              have further := readColon_length passed
              cases shape.member? key with
              | none =>
                -- passed over, for which there is fuel of its own
                dsimp only
                split
                · rfl
                · next v rest skipped =>
                  obtain ⟨left, skipped, same⟩ := map_ok skipped
                  cases same
                  have behind := skipValue_length skipped
                  rw [members shape _ levels rest (by omega)]
              | some inner =>
                dsimp only
                rw [value inner levels start (by omega)]
                cases taken : readValue inner fuel levels start with
                | error e => rfl
                | ok result =>
                  have behind := (read_length fuel).1 taken
                  exact members shape _ levels result.2 (by omega)
    · rw [readContent, readContent.eq_def known (fuel + 1)]
      dsimp only
      split
      · rfl
      · next name colon named =>
        have kept := readVariant_length named
        rw [value _ levels colon (by omega)]

theorem readMembers_fuel {fuel more : Nat} (shape : Shape) (read : Members) (levels : Nat)
    (enough : 2 * s.length + 2 ≤ fuel) (enough' : 2 * s.length + 2 ≤ more) :
    readMembers shape read fuel levels s = readMembers shape read more levels s := by
  have upwards (extra : Nat) : readMembers shape read (2 * s.length + 2 + extra) levels s =
      readMembers shape read (2 * s.length + 2) levels s := by
    induction extra with
    | zero => rfl
    | succ extra ih =>
      exact ((read_more _).2.2.1 shape read levels s (Nat.le_add_right _ _)).trans ih
  obtain ⟨extra, rfl⟩ := Nat.exists_eq_add_of_le enough
  obtain ⟨extra', rfl⟩ := Nat.exists_eq_add_of_le enough'
  rw [upwards, upwards]

end Values
end ResumableScript.Json
