import Mathlib.Tactic.Basic
import ResumableScript.Base64
import ResumableScript.Text.Blank
import ResumableScript.Text.Utf8

/-! What is written in Base64 is read back, and nothing else is read: bytes have one text. -/
namespace ResumableScript.Base64

def code (n : Nat) : UInt8 := UInt8.ofNat (symbol n).toNat

theorem symbol_ascii : ∀ n < 64, (symbol n).toNat ≤ 127 ∧ Text.isBlank (symbol n) = false := by decide

theorem value_code : ∀ n < 64, value? (code n) = some n := by decide

theorem code_ne_pad : ∀ n < 64, code n ≠ pad := by decide

section Bounds

variable (a b : UInt8)

theorem first_lt : a.toNat / 4 < 64 := by
  have := a.toNat_lt
  omega

theorem second_lt : a.toNat % 4 * 16 + b.toNat / 16 < 64 := by
  have := b.toNat_lt
  omega

theorem third_lt : a.toNat % 16 * 4 + b.toNat / 64 < 64 := by
  have := b.toNat_lt
  omega

end Bounds

theorem utf8_symbol {n : Nat} (h : n < 64) : String.utf8EncodeChar (symbol n) = [code n] :=
  Text.utf8EncodeChar_ascii (symbol_ascii n h).1

theorem readSymbol_code {n : Nat} (h : n < 64) (offset : Nat) :
    readSymbol offset (code n) = .ok n := by
  unfold readSymbol
  rw [value_code n h]

theorem readGroup_code {n : Nat} (h : n < 64) (offset index : Nat) (rest : Bytes) :
    readGroup offset index none (code n :: rest) =
      (readGroup offset (index + 1) none rest).map fun (symbols, pads) =>
        ((code n, n) :: symbols, pads) := by
  rw [readGroup, if_neg (code_ne_pad n h), readSymbol_code h]

theorem ofNat_eq {b : UInt8} {n : Nat} (h : n = b.toNat) : UInt8.ofNat n = b := by
  rw [h, UInt8.ofNat_toNat]

theorem joinQuad_split (a b c : UInt8) :
    joinQuad (a.toNat / 4) (a.toNat % 4 * 16 + b.toNat / 16) (b.toNat % 16 * 4 + c.toNat / 64)
      (c.toNat % 64) = [a, b, c] := by
  have := a.toNat_lt
  have := b.toNat_lt
  have := c.toNat_lt
  unfold joinQuad
  rw [ofNat_eq (b := a) (by omega), ofNat_eq (b := b) (by omega), ofNat_eq (b := c) (by omega)]

theorem decodeLast_one (a : UInt8) (offset : Nat) :
    decodeLast offset [code (a.toNat / 4), code (a.toNat % 4 * 16), pad, pad] = .ok [a] := by
  have := a.toNat_lt
  have second : a.toNat % 4 * 16 < 64 := by omega
  have split : joinQuad (a.toNat / 4) (a.toNat % 4 * 16) 0 0 = [a, 0, 0] := by
    simpa using joinQuad_split a 0 0
  unfold decodeLast
  rw [readGroup_code (first_lt a), readGroup_code second]
  simp [readGroup, pad, Except.map, split]

theorem decodeLast_two (a b : UInt8) (offset : Nat) :
    decodeLast offset [code (a.toNat / 4), code (a.toNat % 4 * 16 + b.toNat / 16),
      code (b.toNat % 16 * 4), pad] = .ok [a, b] := by
  have := a.toNat_lt
  have := b.toNat_lt
  have third : b.toNat % 16 * 4 < 64 := by omega
  have split : joinQuad (a.toNat / 4) (a.toNat % 4 * 16 + b.toNat / 16) (b.toNat % 16 * 4) 0 =
      [a, b, 0] := by
    simpa using joinQuad_split a b 0
  unfold decodeLast
  rw [readGroup_code (first_lt a), readGroup_code (second_lt a b), readGroup_code third]
  simp [readGroup, pad, Except.map, split]

theorem decodeLast_three (a b c : UInt8) (offset : Nat) :
    decodeLast offset [code (a.toNat / 4), code (a.toNat % 4 * 16 + b.toNat / 16),
      code (b.toNat % 16 * 4 + c.toNat / 64), code (c.toNat % 64)] = .ok [a, b, c] := by
  have fourth : c.toNat % 64 < 64 := Nat.mod_lt _ (by decide)
  unfold decodeLast
  rw [readGroup_code (first_lt a), readGroup_code (second_lt a b), readGroup_code (third_lt b c),
    readGroup_code fourth]
  simp [readGroup, Except.map, joinQuad_split]

theorem decodeGroups_code {a b c d : Nat} (ha : a < 64) (hb : b < 64) (hc : c < 64) (hd : d < 64)
    (offset : Nat) {rest : Bytes} (more : rest ≠ []) :
    decodeGroups offset (code a :: code b :: code c :: code d :: rest) =
      (decodeGroups (offset + 4) rest).map (joinQuad a b c d ++ ·) := by
  cases rest with
  | nil => exact absurd rfl more
  | cons next rest =>
    rw [decodeGroups, readSymbol_code ha, readSymbol_code hb, readSymbol_code hc, readSymbol_code hd]
    rfl

theorem utf8_encode (bytes : Bytes) :
    Text.utf8 (encode bytes) = (encodeChars bytes).flatMap String.utf8EncodeChar :=
  Text.utf8_ofList _

theorem utf8_one (a : UInt8) :
    Text.utf8 (encode [a]) = [code (a.toNat / 4), code (a.toNat % 4 * 16), pad, pad] := by
  have := a.toNat_lt
  have second : a.toNat % 4 * 16 < 64 := by omega
  simp only [utf8_encode, encodeChars, List.flatMap_cons, utf8_symbol (first_lt a),
    utf8_symbol second]
  rfl

theorem utf8_two (a b : UInt8) :
    Text.utf8 (encode [a, b]) = [code (a.toNat / 4), code (a.toNat % 4 * 16 + b.toNat / 16),
      code (b.toNat % 16 * 4), pad] := by
  have third : b.toNat % 16 * 4 < 64 := by omega
  simp only [utf8_encode, encodeChars, List.flatMap_cons, utf8_symbol (first_lt a),
    utf8_symbol (second_lt a b), utf8_symbol third]
  rfl

theorem utf8_group (a b c : UInt8) (rest : Bytes) :
    Text.utf8 (encode (a :: b :: c :: rest)) =
      code (a.toNat / 4) :: code (a.toNat % 4 * 16 + b.toNat / 16) ::
        code (b.toNat % 16 * 4 + c.toNat / 64) :: code (c.toNat % 64) :: Text.utf8 (encode rest) := by
  simp only [utf8_encode, encodeChars, List.flatMap_cons, utf8_symbol (first_lt a),
    utf8_symbol (second_lt a b), utf8_symbol (third_lt b c),
    utf8_symbol (Nat.mod_lt c.toNat (by decide : 0 < 64)), List.singleton_append]

theorem length_encode (bytes : Bytes) :
    (Text.utf8 (encode bytes)).length = (bytes.length + 2) / 3 * 4 := by
  induction bytes using encodeChars.induct with
  | case1 => rfl
  | case2 a => simp [utf8_one]
  | case3 a b => simp [utf8_two]
  | case4 a b c rest ih =>
    rw [utf8_group]
    simp only [List.length_cons, ih]
    omega

theorem decodeGroups_encode (bytes : Bytes) (offset : Nat) :
    decodeGroups offset (Text.utf8 (encode bytes)) = .ok bytes := by
  induction bytes using encodeChars.induct generalizing offset with
  | case1 => rfl
  | case2 a =>
    rw [utf8_one]
    exact decodeLast_one a offset
  | case3 a b =>
    rw [utf8_two]
    exact decodeLast_two a b offset
  | case4 a b c rest ih =>
    rw [utf8_group]
    cases rest with
    | nil => exact decodeLast_three a b c offset
    | cons next rest =>
      have more : Text.utf8 (encode (next :: rest)) ≠ [] := by
        intro none
        have length := length_encode (next :: rest)
        rw [none] at length
        simp only [List.length_nil, List.length_cons] at length
        omega
      rw [decodeGroups_code (first_lt a) (second_lt a b) (third_lt b c)
        (Nat.mod_lt _ (by decide)) offset more, ih, joinQuad_split]
      rfl

theorem decode_encode (bytes : Bytes) : decode (Text.utf8 (encode bytes)) = .ok bytes := by
  have whole : strayByte? (Text.utf8 (encode bytes)) = none := by
    unfold strayByte?
    rw [length_encode, Nat.mul_mod_left]
    split <;> rfl
  unfold decode
  rw [whole]
  exact decodeGroups_encode bytes 0

theorem isBlank_symbol (n : Nat) : Text.isBlank (symbol n) = false := by
  by_cases h : n < 64
  · exact (symbol_ascii n h).2
  · unfold symbol
    rw [if_neg (by omega), if_neg (by omega), if_neg (by omega), if_neg (by omega)]
    rfl

theorem isBlank_encodeChars (bytes : Bytes) : ∀ c ∈ encodeChars bytes, Text.isBlank c = false := by
  have padding : Text.isBlank '=' = false := by decide
  induction bytes using encodeChars.induct with
  | case1 => simp [encodeChars]
  | case2 a => simp [encodeChars, isBlank_symbol, padding]
  | case3 a b => simp [encodeChars, isBlank_symbol, padding]
  | case4 a b c rest ih => simpa [encodeChars, isBlank_symbol] using ih

section Canonical

theorem value_table : ∀ n < 256,
    (value? (UInt8.ofNat n)).all (fun v => v < 64 && code v == UInt8.ofNat n) = true := by
  decide +kernel

theorem eq_code_of_value {b : UInt8} {v : Nat} (valued : value? b = some v) : v < 64 ∧ b = code v := by
  have listed := value_table b.toNat b.toNat_lt
  rw [UInt8.ofNat_toNat, valued] at listed
  simp only [Option.all_some, Bool.and_eq_true, decide_eq_true_eq, beq_iff_eq] at listed
  exact ⟨listed.1, listed.2.symm⟩

theorem eq_code_of_readSymbol {offset : Nat} {b : UInt8} {v : Nat}
    (read : readSymbol offset b = .ok v) : v < 64 ∧ b = code v := by
  unfold readSymbol at read
  split at read
  · next valued =>
    cases read
    exact eq_code_of_value valued
  · cases read

theorem readGroup_padding {offset index first : Nat} {group : Bytes} {symbols : List (UInt8 × Nat)}
    {pads : Nat} (read : readGroup offset index (some first) group = .ok (symbols, pads)) :
    symbols = [] ∧ ∃ n, group = List.replicate n pad ∧ pads = index + n - first := by
  induction group generalizing index with
  | nil =>
    cases read
    exact ⟨rfl, 0, rfl, rfl⟩
  | cons b rest ih =>
    rw [readGroup] at read
    split at read
    · next padding =>
      split at read
      · cases read
      · obtain ⟨none, n, same, counted⟩ := ih read
        refine ⟨none, n + 1, by rw [padding, same, List.replicate_succ], ?_⟩
        omega
    · cases read

theorem readGroup_symbols {offset index : Nat} {group : Bytes} {symbols : List (UInt8 × Nat)}
    {pads : Nat} (read : readGroup offset index none group = .ok (symbols, pads)) :
    (∀ s ∈ symbols, s.2 < 64) ∧
      group = symbols.map (fun s => code s.2) ++ List.replicate pads pad := by
  induction group generalizing index symbols with
  | nil =>
    cases read
    exact ⟨nofun, rfl⟩
  | cons b rest ih =>
    rw [readGroup] at read
    split at read
    · next padding =>
      split at read
      · cases read
      · obtain ⟨rfl, n, same, counted⟩ := readGroup_padding read
        have more : pads = n + 1 := by omega
        refine ⟨nofun, ?_⟩
        rw [padding, same, more, List.replicate_succ]
        rfl
    · dsimp only at read
      split at read
      · cases read
      · next v valued =>
        obtain ⟨small, same⟩ := eq_code_of_readSymbol valued
        cases others : readGroup offset (index + 1) none rest with
        | error fault =>
          rw [others] at read
          cases read
        | ok got =>
          rw [others] at read
          cases read
          obtain ⟨bounded, whole⟩ := ih others
          refine ⟨List.forall_mem_cons.mpr ⟨small, bounded⟩, ?_⟩
          rw [List.map_cons, List.cons_append, ← whole, same]

theorem split_joinQuad {a b c d : Nat} (ha : a < 64) (hb : b < 64) (hc : c < 64) (hd : d < 64) :
    ∃ x y z, joinQuad a b c d = [x, y, z] ∧ x.toNat / 4 = a ∧ x.toNat % 4 * 16 + y.toNat / 16 = b ∧
      y.toNat % 16 * 4 + z.toNat / 64 = c ∧ z.toNat % 64 = d := by
  refine ⟨_, _, _, rfl, ?_, ?_, ?_, ?_⟩ <;> simp only [UInt8.toNat_ofNat'] <;> omega

theorem decodeLast_text {offset : Nat} {group bytes : Bytes}
    (decoded : decodeLast offset group = .ok bytes) : group = Text.utf8 (encode bytes) := by
  unfold decodeLast at decoded
  split at decoded
  · cases decoded
  next symbols pads read =>
  obtain ⟨bounded, whole⟩ := readGroup_symbols read
  split at decoded
  · cases decoded
  split at decoded
  · cases decoded
  next several filled =>
  have counted := Decidable.not_not.mp filled
  -- Where padding stands for bytes, the bits that no byte uses are zero, and so are the bytes cut off.
  split at decoded
  · next _ a last b =>
    have padding : pads = 2 := Nat.add_left_cancel counted
    split at decoded
    · next unused =>
      cases decoded
      simp only [List.forall_mem_cons] at bounded
      obtain ⟨ha, hb, -⟩ := bounded
      obtain ⟨x, y, z, joined, first, second, -, -⟩ := split_joinQuad ha hb
        (Nat.zero_lt_succ 63) (Nat.zero_lt_succ 63)
      have := y.toNat_lt
      have alone : x.toNat % 4 * 16 = b := by omega
      show group = Text.utf8 (encode ((joinQuad a b 0 0).take 1))
      rw [joined, whole, padding, List.take_succ_cons, List.take_zero, utf8_one, first, alone]
      rfl
    · cases decoded
  · next _ a _ b last c =>
    have padding : pads = 1 := Nat.add_left_cancel counted
    split at decoded
    · next unused =>
      cases decoded
      simp only [List.forall_mem_cons] at bounded
      obtain ⟨ha, hb, hc, -⟩ := bounded
      obtain ⟨x, y, z, joined, first, second, third, -⟩ := split_joinQuad ha hb hc
        (Nat.zero_lt_succ 63)
      have := z.toNat_lt
      have alone : y.toNat % 16 * 4 = c := by omega
      show group = Text.utf8 (encode ((joinQuad a b c 0).take 2))
      rw [joined, whole, padding, List.take_succ_cons, List.take_succ_cons, List.take_zero, utf8_two,
        first, second, alone]
      rfl
    · cases decoded
  · next _ a _ b _ c _ d =>
    have padding : pads = 0 := Nat.add_left_cancel counted
    cases decoded
    simp only [List.forall_mem_cons] at bounded
    obtain ⟨ha, hb, hc, hd, -⟩ := bounded
    obtain ⟨x, y, z, joined, first, second, third, fourth⟩ := split_joinQuad ha hb hc hd
    show group = Text.utf8 (encode (joinQuad a b c d))
    rw [joined, whole, padding, utf8_group, first, second, third, fourth]
    rfl
  · cases decoded

theorem of_bind_ok {α γ : Type} {got : Except Fault α} {f : α → Except Fault γ} {c : γ}
    (h : got >>= f = .ok c) : ∃ a, got = .ok a ∧ f a = .ok c := by
  cases got with
  | error fault => cases h
  | ok a => exact ⟨a, rfl, h⟩

theorem decodeGroups_text {offset : Nat} {text bytes : Bytes}
    (decoded : decodeGroups offset text = .ok bytes) : text = Text.utf8 (encode bytes) := by
  induction offset, text using decodeGroups.induct generalizing bytes with
  | case1 offset a b c d next rest ih =>
    rw [decodeGroups] at decoded
    obtain ⟨first, read₁, decoded⟩ := of_bind_ok decoded
    obtain ⟨second, read₂, decoded⟩ := of_bind_ok decoded
    obtain ⟨third, read₃, decoded⟩ := of_bind_ok decoded
    obtain ⟨fourth, read₄, decoded⟩ := of_bind_ok decoded
    obtain ⟨more, others, decoded⟩ := of_bind_ok decoded
    cases decoded
    obtain ⟨ha, rfl⟩ := eq_code_of_readSymbol read₁
    obtain ⟨hb, rfl⟩ := eq_code_of_readSymbol read₂
    obtain ⟨hc, rfl⟩ := eq_code_of_readSymbol read₃
    obtain ⟨hd, rfl⟩ := eq_code_of_readSymbol read₄
    obtain ⟨x, y, z, joined, one, two, three, four⟩ := split_joinQuad ha hb hc hd
    rw [joined, List.cons_append, List.cons_append, List.cons_append, List.nil_append, utf8_group,
      one, two, three, four, ← ih others]
  | case2 offset =>
    cases decoded
    rfl
  | case3 offset group short filled =>
    rw [decodeGroups] at decoded
    · exact decodeLast_text decoded
    · exact short
    · exact filled

/-- A text is read as the bytes whose text it is, and no other text is read. -/
theorem decode_eq_ok_iff {text bytes : Bytes} :
    decode text = .ok bytes ↔ text = Text.utf8 (encode bytes) := by
  constructor
  · intro decoded
    unfold decode at decoded
    split at decoded
    · cases decoded
    · exact decodeGroups_text decoded
  · rintro rfl
    exact decode_encode bytes

end Canonical

end ResumableScript.Base64
