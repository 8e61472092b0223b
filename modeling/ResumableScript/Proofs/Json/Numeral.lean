import Mathlib.Tactic.Basic
import ResumableScript.Json.Token
import ResumableScript.Json.Printer

/-! Written numbers are read back. A reader of numbers takes the same from the front of a longer
text, if what follows there cannot belong to a number. -/
namespace ResumableScript.Json

/-- What may follow a value within a text, compact or in lines. -/
def Delimited (r : Bytes) : Prop :=
  ∀ b, r.head? = some b → b = byte ',' ∨ b = byte ']' ∨ b = byte '\x7d' ∨ b = byte '\n'

/-- A reader that takes the same from the front of a longer text. -/
def IsLocal {α : Type} (read : Bytes → Reader α) : Prop :=
  ∀ s a t r, read s = .ok (a, t) → Delimited r → read (s ++ r) = .ok (a, t ++ r)

section Numbers

theorem Delimited.head_ne {r : Bytes} (h : Delimited r) {b : UInt8} {rest : Bytes}
    (front : r = b :: rest) (c : UInt8)
    (other : c ≠ byte ',' ∧ c ≠ byte ']' ∧ c ≠ byte '\x7d' ∧ c ≠ byte '\n') : b ≠ c := by
  obtain rfl | rfl | rfl | rfl := h b (by rw [front]; rfl)
  · exact other.1.symm
  · exact other.2.1.symm
  · exact other.2.2.1.symm
  · exact other.2.2.2.symm

theorem Delimited.head_not_digit {r : Bytes} (h : Delimited r) {b : UInt8} {rest : Bytes}
    (front : r = b :: rest) : isDigit b = false := by
  obtain rfl | rfl | rfl | rfl := h b (by rw [front]; rfl) <;> decide

theorem takeDigits_append {r : Bytes} (h : Delimited r) (s : Bytes) :
    takeDigits (s ++ r) = ((takeDigits s).1, (takeDigits s).2 ++ r) := by
  unfold takeDigits
  induction s with
  | nil =>
    cases front : r with
    | nil => rfl
    | cons b rest => simp [h.head_not_digit front]
  | cons b s ih =>
    by_cases digit : isDigit b
    · simpa [digit] using ih
    · simp [digit]

theorem readWhole_local : IsLocal readWhole := by
  intro s a t r h delimited
  cases s with
  | nil => cases h
  | cons b s =>
    simp only [List.cons_append, readWhole] at h ⊢
    split at h
    · next zero =>
      rw [if_pos zero]
      split at h
      · cases h
      · next alone =>
        cases h
        have alone : ¬ (((t ++ r).head?.map isDigit).getD false = true) := by
          cases t with
          | nil =>
            cases front : r with
            | nil => simp
            | cons b rest => simp [delimited.head_not_digit front]
          | cons c t => exact alone
        rw [if_neg alone]
    · next nonzero =>
      rw [if_neg nonzero]
      split at h
      · next digit =>
        cases h
        rw [if_pos digit, takeDigits_append delimited]
      · cases h

theorem readFraction_local : IsLocal readFraction := by
  intro s a t r h delimited
  cases s with
  | nil =>
    cases h
    cases front : r with
    | nil => rfl
    | cons b rest =>
      have point : b ≠ byte '.' := delimited.head_ne front _ (by decide)
      simp [readFraction, point]
  | cons b s =>
    simp only [List.cons_append, readFraction] at h ⊢
    split at h
    · next point =>
      rw [if_pos point, takeDigits_append delimited]
      generalize takeDigits s = taken at h ⊢
      obtain ⟨digits, left⟩ := taken
      cases digits with
      | nil => cases h
      | cons d digits =>
        cases h
        rfl
    · next other =>
      cases h
      exact if_neg other

theorem readExponentDigits_local (overflows : Bool) (n : Nat) :
    IsLocal (readExponentDigits overflows n) := by
  intro s a t r h delimited
  induction s generalizing n with
  | nil =>
    cases h
    cases front : r with
    | nil => rfl
    | cons b rest => simp [readExponentDigits, delimited.head_not_digit front]
  | cons b s ih =>
    simp only [List.cons_append, readExponentDigits] at h ⊢
    split at h
    · next digit =>
      rw [if_pos digit]
      split at h
      · next counted =>
        rw [if_pos counted]
        exact ih _ h
      · next great =>
        rw [if_neg great]
        split at h
        · cases h
        · next small =>
          rw [if_neg small]
          cases h
          have dropped := congrArg Prod.snd (takeDigits_append delimited s)
          exact congrArg (fun left => Except.ok (_, left)) dropped
    · next other =>
      cases h
      exact if_neg other

theorem map_local {α β : Type} {read : Bytes → Reader α} {f : α → β} (h : IsLocal read) :
    IsLocal fun s => (read s).map fun result => (f result.1, result.2) := by
  intro s b t r same delimited
  dsimp only at same ⊢
  cases first : read s with
  | error e =>
    rw [first] at same
    cases same
  | ok result =>
    obtain ⟨a, t'⟩ := result
    rw [first] at same
    rw [h s a t' r first delimited]
    cases same
    rfl

theorem takeSign_append (b : UInt8) (s r : Bytes) :
    takeSign (b :: s ++ r) = ((takeSign (b :: s)).1, (takeSign (b :: s)).2 ++ r) := by
  simp only [List.cons_append, takeSign]
  split
  · rfl
  · split <;> rfl

theorem readExponent_local (nonzero : Bool) : IsLocal (readExponent nonzero) := by
  intro s a t r h delimited
  cases s with
  | nil =>
    cases h
    cases front : r with
    | nil => rfl
    | cons b rest =>
      have small : b ≠ byte 'e' := delimited.head_ne front _ (by decide)
      have great : b ≠ byte 'E' := delimited.head_ne front _ (by decide)
      simp [readExponent, small, great]
  | cons b s =>
    simp only [List.cons_append, readExponent] at h ⊢
    split at h
    · next letter =>
      rw [if_pos letter]
      cases s with
      | nil => cases h
      | cons c s =>
        rw [takeSign_append]
        generalize takeSign (c :: s) = signed at h ⊢
        obtain ⟨negative, left⟩ := signed
        cases left with
        | nil => cases h
        | cons d left =>
          dsimp only [List.cons_append] at h ⊢
          split at h
          · next digit =>
            rw [if_pos digit]
            have rest := map_local
              (f := fun n : Nat => some (if negative then -(n : Int) else n))
              (readExponentDigits_local (nonzero && !negative) (digitValue d))
            exact rest left a t r h delimited
          · cases h
    · next other =>
      cases h
      exact if_neg other

theorem readNumberText_local (negative : Bool) : IsLocal (readNumberText negative) := by
  intro s a t r h delimited
  unfold readNumberText at h ⊢
  cases first : readWhole s with
  | error e =>
    rw [first] at h
    cases h
  | ok result =>
    obtain ⟨whole, s'⟩ := result
    rw [first] at h
    rw [readWhole_local s whole s' r first delimited]
    dsimp only at h ⊢
    cases second : readFraction s' with
    | error e =>
      rw [second] at h
      cases h
    | ok result =>
      obtain ⟨fraction, s''⟩ := result
      rw [second] at h
      rw [readFraction_local s' fraction s'' r second delimited]
      have rest := map_local (f := fun exponent => NumberText.mk negative whole fraction exponent)
        (readExponent_local (digitsValue (whole ++ fraction.getD []) != 0))
      exact rest s'' a t r h delimited

theorem readNumber_local (negative : Bool) : IsLocal (readNumber negative) := by
  intro s a t r h delimited
  unfold readNumber at h ⊢
  cases first : readNumberText negative s with
  | error e =>
    rw [first] at h
    cases h
  | ok result =>
    obtain ⟨text, s'⟩ := result
    rw [first] at h
    rw [readNumberText_local negative s text s' r first delimited]
    dsimp only at h ⊢
    split at h
    · cases h
      rfl
    · cases h

end Numbers

section Integers

def digits (n : Nat) : Bytes := (Nat.toDigits 10 n).map fun c => UInt8.ofNat c.toNat

def digit (n : Nat) : UInt8 := UInt8.ofNat n.digitChar.toNat

theorem digit_spec : ∀ n < 10, isDigit (digit n) = true ∧ digitValue (digit n) = n ∧
    (digit n = byte '0' → n = 0) := by decide

theorem digits_of_lt {n : Nat} (h : n < 10) : digits n = [digit n] := by
  rw [digits, Nat.toDigits_of_lt_base h]
  rfl

theorem digits_of_ge {n : Nat} (h : 10 ≤ n) : digits n = digits (n / 10) ++ [digit (n % 10)] := by
  rw [digits, Nat.toDigits_of_base_le (by decide) h, List.map_append]
  rfl

theorem isDigit_digits (n : Nat) : ∀ b ∈ digits n, isDigit b = true := by
  induction n using Nat.strongRecOn with
  | ind n ih =>
    intro b member
    by_cases small : n < 10
    · rw [digits_of_lt small] at member
      rw [List.mem_singleton.mp member]
      exact (digit_spec n small).1
    · rw [digits_of_ge (by omega)] at member
      obtain member | member := List.mem_append.mp member
      · exact ih (n / 10) (by omega) b member
      · rw [List.mem_singleton.mp member]
        exact (digit_spec _ (Nat.mod_lt _ (by decide))).1

theorem digitsValue_digits (n : Nat) : digitsValue (digits n) = n := by
  induction n using Nat.strongRecOn with
  | ind n ih =>
    by_cases small : n < 10
    · rw [digits_of_lt small]
      simp [digitsValue, (digit_spec n small).2.1]
    · rw [digits_of_ge (by omega), digitsValue, List.foldl_append]
      have front := ih (n / 10) (by omega)
      rw [digitsValue] at front
      rw [front, List.foldl_cons, List.foldl_nil, (digit_spec _ (Nat.mod_lt n (by decide))).2.1]
      omega

theorem digits_cons (n : Nat) :
    ∃ b rest, digits n = b :: rest ∧ (b = byte '0' → n = 0 ∧ rest = []) := by
  induction n using Nat.strongRecOn with
  | ind n ih =>
    by_cases small : n < 10
    · exact ⟨digit n, [], digits_of_lt small, fun zero => ⟨(digit_spec n small).2.2 zero, rfl⟩⟩
    · obtain ⟨b, rest, front, leading⟩ := ih (n / 10) (by omega)
      refine ⟨b, rest ++ [digit (n % 10)], ?_, fun zero => ?_⟩
      · rw [digits_of_ge (by omega), front]
        rfl
      · have := (leading zero).1
        omega

theorem takeDigits_all {s : Bytes} (all : ∀ b ∈ s, isDigit b = true) : takeDigits s = (s, []) := by
  unfold takeDigits
  induction s with
  | nil => rfl
  | cons b s ih =>
    have rest := ih fun c member => all c (List.mem_cons_of_mem b member)
    simpa [all b List.mem_cons_self] using rest

theorem readWhole_digits (n : Nat) : readWhole (digits n) = .ok (digits n, []) := by
  obtain ⟨b, rest, same, leading⟩ := digits_cons n
  have all := isDigit_digits n
  rw [same] at all ⊢
  unfold readWhole
  by_cases zero : b = byte '0'
  · obtain ⟨-, rfl⟩ := leading zero
    simp [zero]
  · have first := all b List.mem_cons_self
    have more := takeDigits_all fun c member => all c (List.mem_cons_of_mem b member)
    simp [zero, first, more]

theorem readNumber_digits (negative : Bool) (n : Nat) (number : Number)
    (whole : (⟨negative, digits n, none, none⟩ : NumberText).integer? = some number) :
    readNumber negative (digits n) = .ok (.number number, []) := by
  have text : readNumberText negative (digits n) = .ok (⟨negative, digits n, none, none⟩, []) := by
    unfold readNumberText
    rw [readWhole_digits]
    rfl
  unfold readNumber
  rw [text]
  simp [NumberText.value?, whole]

theorem utf8_repr (n : Nat) : Text.utf8 n.repr = digits n := by
  rw [Nat.repr_eq_ofList_toDigits, Text.utf8_ofList, digits]
  have ascii : ∀ c ∈ Nat.toDigits 10 n, c.toNat ≤ 127 := by
    intro c member
    have digit := Nat.isDigit_of_mem_toDigits (by decide) (by decide) member
    have bound := (Char.isDigit_iff_toNat.mp digit).2
    exact Nat.le_trans bound (by decide)
  generalize Nat.toDigits 10 n = cs at ascii
  induction cs with
  | nil => rfl
  | cons c cs ih =>
    rw [List.flatMap_cons, Text.utf8EncodeChar_ascii (ascii c List.mem_cons_self),
      ih fun d member => ascii d (List.mem_cons_of_mem c member)]
    rfl

end Integers

end ResumableScript.Json
