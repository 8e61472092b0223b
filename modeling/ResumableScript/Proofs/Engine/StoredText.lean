import Mathlib.Tactic.Basic
import ResumableScript.Engine.Checkpoint
import ResumableScript.Proofs.Base64

/-! The text of a stored checkpoint. But for blanks around it a checkpoint has one text, so that a
record that holds the text holds the very bytes that were packed. -/
namespace ResumableScript.Checkpoint

variable {checkpoint : Checkpoint} {text : String}

theorem trimmed_encode (checkpoint : Checkpoint) :
    Text.trimmed checkpoint.encode = checkpoint.encode := by
  rw [encode, Text.trimmed, Base64.encode, String.toList_ofList,
    Text.trim_eq_self (Base64.isBlank_encodeChars checkpoint.bytes)]

/-- The bytes that a stored text spells. -/
theorem decode_trimmed_iff {bytes : List UInt8} :
    Base64.decode (Text.utf8 (Text.trimmed text)) = .ok bytes ↔
      Text.trimmed text = Base64.encode bytes := by
  rw [Base64.decode_eq_ok_iff, Text.utf8_inj]

theorem decode_eq_ok_iff :
    decode text = .ok checkpoint ↔ checkpoint.bytes ≠ [] ∧ Text.trimmed text = checkpoint.encode := by
  unfold decode
  cases read : Base64.decode (Text.utf8 (Text.trimmed text)) with
  | error fault =>
    refine ⟨nofun, fun ⟨_, same⟩ => ?_⟩
    cases read.symm.trans (decode_trimmed_iff.mpr same)
  | ok bytes =>
    have spelled := decode_trimmed_iff.mp read
    constructor
    · intro decoded
      cases bytes with
      | nil => cases decoded
      | cons b rest =>
        cases decoded
        exact ⟨List.cons_ne_nil b rest, spelled⟩
    · rintro ⟨filled, same⟩
      have bytes_eq : bytes = checkpoint.bytes :=
        Except.ok.inj (read.symm.trans (decode_trimmed_iff.mpr same))
      subst bytes_eq
      obtain ⟨bytes⟩ := checkpoint
      cases bytes with
      | nil => exact absurd rfl filled
      | cons b rest => rfl

theorem decode_encode (filled : checkpoint.bytes ≠ []) :
    decode checkpoint.encode = .ok checkpoint :=
  decode_eq_ok_iff.mpr ⟨filled, trimmed_encode checkpoint⟩

theorem decode_eq_empty_iff : decode text = .error .empty ↔ Text.isAllBlank text = true := by
  have nothing : Base64.decode (Text.utf8 (Text.trimmed text)) = .ok [] ↔ Text.isAllBlank text = true :=
    decode_trimmed_iff.trans Text.trimmed_eq_empty_iff
  rw [← nothing, decode]
  split
  · next fault read => simp [read]
  · next read => simp [read]
  · next bytes filled read =>
    have filled : bytes ≠ [] := filled
    simp [read, filled]

/-- Each checkpoint has one text, around which there may be blanks; no other text is read. A text
without content is told from one that is no Base64. -/
theorem text_canonical :
    (∀ (checkpoint : Checkpoint) (before after : String), checkpoint.bytes ≠ [] →
      Text.isAllBlank before = true → Text.isAllBlank after = true →
      decode (before ++ checkpoint.encode ++ after) = .ok checkpoint) ∧
    (∀ text checkpoint, decode text = .ok checkpoint →
      checkpoint.bytes ≠ [] ∧ checkpoint.encode = Text.trimmed text ∧
      ∃ before after, text = before ++ checkpoint.encode ++ after ∧
        Text.isAllBlank before = true ∧ Text.isAllBlank after = true) ∧
    (∀ text text' checkpoint, decode text = .ok checkpoint → decode text' = .ok checkpoint →
      Text.trimmed text = Text.trimmed text') ∧
    (∀ text, decode text = .error .empty ↔ Text.isAllBlank text = true) ∧
    ∀ text fault, decode text = .error fault → Text.isAllBlank text = false →
      ∃ cause, fault = .encoding cause := by
  refine ⟨fun checkpoint before after filled front back => ?_, fun text checkpoint decoded => ?_,
    fun text text' checkpoint decoded decoded' => ?_, fun text => decode_eq_empty_iff,
    fun text fault failed content => ?_⟩
  · refine decode_eq_ok_iff.mpr ⟨filled, ?_⟩
    rw [Text.trimmed_framed front back, trimmed_encode]
  · obtain ⟨filled, same⟩ := decode_eq_ok_iff.mp decoded
    obtain ⟨before, after, framed⟩ := Text.exists_trimmed text
    rw [same] at framed
    exact ⟨filled, same.symm, before, after, framed⟩
  · obtain ⟨-, same⟩ := decode_eq_ok_iff.mp decoded
    obtain ⟨-, same'⟩ := decode_eq_ok_iff.mp decoded'
    rw [same, same']
  · cases fault with
    | encoding cause => exact ⟨cause, rfl⟩
    | empty =>
      rw [decode_eq_empty_iff.mp failed] at content
      cases content

/-- Four bytes, whose last group is half padding, between a blank that is no ASCII and a line break. With
an unused bit set the text is no longer Base64. -/
theorem text_canonical_padded :
    let checkpoint : Checkpoint := ⟨[1, 2, 3, 250]⟩
    checkpoint.bytes ≠ [] ∧ checkpoint.encode = "AQID+g==" ∧
      Text.isAllBlank "\u00a0" = true ∧ Text.isAllBlank "\n" = true ∧
      decode ("\u00a0" ++ checkpoint.encode ++ "\n") = .ok checkpoint ∧
      (∀ text, decode text = .ok checkpoint → checkpoint.encode = Text.trimmed text) ∧
      Text.isAllBlank "AQID+h==" = false ∧ ∃ cause, decode "AQID+h==" = .error (.encoding cause) := by
  intro checkpoint
  have filled : checkpoint.bytes ≠ [] := List.cons_ne_nil _ _
  have front : Text.isAllBlank "\u00a0" = true := by decide +kernel
  have back : Text.isAllBlank "\n" = true := by decide +kernel
  have content : Text.isAllBlank "AQID+h==" = false := by decide +kernel
  have refused : (decode "AQID+h==").toOption = none := by decide +kernel
  obtain ⟨read, text_eq, -, -, other⟩ := text_canonical
  refine ⟨filled, by decide +kernel, front, back, read checkpoint _ _ filled front back,
    fun text decoded => (text_eq text checkpoint decoded).2.1, content, ?_⟩
  cases failed : decode "AQID+h==" with
  | ok got =>
    rw [failed] at refused
    cases refused
  | error fault =>
    obtain ⟨cause, rfl⟩ := other _ _ failed content
    exact ⟨cause, rfl⟩

end ResumableScript.Checkpoint
