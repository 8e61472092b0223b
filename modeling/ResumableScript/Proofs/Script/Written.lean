import Mathlib.Data.List.TakeWhile
import Mathlib.Tactic.Basic
import ResumableScript.Proofs.Script.Reading

/-! How scripts are written. A datum is what a text spells: an expression, but that its integers need
not be in range. Each may be written in many ways, and between two data there may be any gap; where
a name or a number ends only its datum does, the gap may not be missing. -/
namespace ResumableScript.Script

/-- Blanks and comments. A comment ends with its line. -/
inductive Gap : Chars → Prop where
  | nil : Gap []
  | blank {c : Char} {s : Chars} (space : Text.isBlank c = true) (rest : Gap s) : Gap (c :: s)
  | comment {line s : Chars} (oneLine : '\n' ∉ line) (rest : Gap s) :
      Gap (';' :: (line ++ '\n' :: s))

/-- No name and no number goes on here. -/
def Ends (s : Chars) : Prop := ∀ c, s.head? = some c → isSymbolChar c = false

def escapes : List (Char × Char) :=
  [('"', '"'), ('\\', '\\'), ('n', '\n'), ('r', '\r'), ('t', '\t')]

inductive Escaped : Chars → Chars → Prop where
  | nil : Escaped [] []
  | plain {c : Char} {text s : Chars} (noQuote : c ≠ '"') (noBackslash : c ≠ '\\')
      (rest : Escaped text s) : Escaped (c :: text) (c :: s)
  | escape {letter c : Char} {text s : Chars} (pair : (letter, c) ∈ escapes)
      (rest : Escaped text s) : Escaped (c :: text) ('\\' :: letter :: s)

def IsName (s : Chars) : Prop := s ≠ [] ∧ ∀ c ∈ s, isSymbolChar c = true

def IsDigits (s : Chars) : Prop := s ≠ [] ∧ ∀ c ∈ s, isDigit c = true

inductive Signed (s : Chars) : Bool → Chars → Prop where
  | unsigned : Signed s false s
  | plus : Signed s false ('+' :: s)
  | minus : Signed s true ('-' :: s)

def IsInteger (n : Int) (s : Chars) : Prop :=
  ∃ digits negative, IsDigits digits ∧ Signed digits negative s ∧
    n = if negative then -(Decimal.readDigits digits : Int) else Decimal.readDigits digits

def IsNumber (s : Chars) : Prop :=
  ∃ whole body negative, IsDigits whole ∧ Signed body negative s ∧
    (body = whole ∨ ∃ fraction, IsDigits fraction ∧ body = whole ++ '.' :: fraction)

/-- A name that is read as a symbol, or as the atom that it stands for. -/
structure IsSymbol (s : Chars) : Prop where
  name : IsName s
  noKeyword : s.head? ≠ some ':'
  noNumber : ¬ IsNumber s

/-- What a text spells, but for decimals. -/
inductive Datum where
  | nil
  | boolean (flag : Bool)
  | integer (n : Int)
  | string (text : String)
  | keyword (name : String)
  | symbol (name : String)
  | list (items : List Datum)

namespace Datum

/-- Only what follows shows where it ends. -/
def IsBare : Datum → Prop
  | string _ | list _ => False
  | _ => True

mutual

/-- The ways to write a datum. -/
def Written : Datum → Chars → Prop
  | nil, s => s = ['n', 'i', 'l']
  | boolean true, s => s = ['t', 'r', 'u', 'e']
  | boolean false, s => s = ['f', 'a', 'l', 's', 'e']
  | integer n, s => IsInteger n s
  | string text, s => ∃ inner, Escaped text.toList inner ∧ s = '"' :: (inner ++ ['"'])
  | keyword name, s => IsName name.toList ∧ s = ':' :: name.toList
  | symbol name, s =>
    IsSymbol name.toList ∧ name ≠ "nil" ∧ name ≠ "true" ∧ name ≠ "false" ∧ s = name.toList
  | list items, s => ∃ inner, AllWritten items inner ∧ s = '(' :: (inner ++ [')'])

def AllWritten : List Datum → Chars → Prop
  | [], s => Gap s
  | d :: rest, s => ∃ gap token tail, Gap gap ∧ d.Written token ∧ AllWritten rest tail ∧
      (d.IsBare → Ends tail) ∧ s = gap ++ (token ++ tail)

end

mutual

/-- The expression that a datum spells, if its integers are in range. -/
def expr? : Datum → Option Expr
  | nil => some .nil
  | boolean flag => some (.boolean flag)
  | integer n =>
    if Int64.minValue.toInt ≤ n ∧ n ≤ Int64.maxValue.toInt then some (.integer (Int64.ofInt n))
    else none
  | string text => some (.string text)
  | keyword name => some (.keyword name)
  | symbol name => some (.symbol name)
  | list items => (exprs? items).map .list

def exprs? : List Datum → Option (List Expr)
  | [] => some []
  | d :: rest =>
    match d.expr? with
    | none => none
    | some e => (exprs? rest).map (e :: ·)

end

mutual

def read (levels : Nat) : Datum → Except SyntaxFault Expr
  | list items =>
    match levels with
    | 0 => .error .nestedTooDeep
    | inner + 1 => (readAll inner items).map .list
  | d =>
    match d.expr? with
    | none => .error .invalidInteger
    | some e => .ok e

def readAll (levels : Nat) : List Datum → Except SyntaxFault (List Expr)
  | [] => .ok []
  | d :: rest =>
    match d.read levels with
    | .error fault => .error fault
    | .ok e => (readAll levels rest).map (e :: ·)

end

end Datum

section Characters

theorem takeWhile_before {p : Char → Bool} (s : Chars) {rest : Chars}
    (stops : ∀ c, rest.head? = some c → p c = false) :
    (s ++ rest).takeWhile p = s.takeWhile p ∧ (s ++ rest).dropWhile p = s.dropWhile p ++ rest := by
  induction s with
  | nil =>
    cases rest with
    | nil => exact ⟨rfl, rfl⟩
    | cons c rest =>
      have stop := stops c rfl
      simp [stop]
  | cons c s ih =>
    obtain ⟨taken, left⟩ := ih
    cases holds : p c <;> simp [holds, taken, left]

theorem takeWhile_append {p : Char → Bool} {s rest : Chars} (all : ∀ c ∈ s, p c = true)
    (stops : ∀ c, rest.head? = some c → p c = false) :
    (s ++ rest).takeWhile p = s ∧ (s ++ rest).dropWhile p = rest := by
  obtain ⟨taken, left⟩ := takeWhile_before s stops
  rw [taken, left, List.takeWhile_eq_self_iff.mpr all, List.dropWhile_eq_nil_iff.mpr all]
  exact ⟨rfl, rfl⟩

/-- A text that can be cut where its names end can be cut there in one way only. -/
theorem name_unique {s s' rest rest' : Chars} (all : ∀ c ∈ s, isSymbolChar c = true)
    (all' : ∀ c ∈ s', isSymbolChar c = true) (ends : Ends rest) (ends' : Ends rest')
    (same : s ++ rest = s' ++ rest') : s = s' := by
  rw [← (takeWhile_append all ends).1, same, (takeWhile_append all' ends').1]

def IsPlain (n : Nat) : Prop :=
  n = 45 ∨ (48 ≤ n ∧ n ≤ 57) ∨ (65 ≤ n ∧ n ≤ 90) ∨ n = 95 ∨ (97 ≤ n ∧ n ≤ 122)

theorem isSymbolChar_of_plain {c : Char} (plain : IsPlain c.toNat) : isSymbolChar c = true := by
  unfold IsPlain at plain
  have other {d : Char} (out : d.toNat = 34 ∨ d.toNat = 40 ∨ d.toNat = 41 ∨ d.toNat = 59) :
      (c == d) = false := by
    rw [beq_eq_false_iff_ne]
    rintro rfl
    omega
  have solid : Text.isBlank c = false := by
    simp only [Text.isBlank, Bool.or_eq_false_iff, Bool.and_eq_false_iff, decide_eq_false_iff_not,
      beq_eq_false_iff_ne]
    omega
  rw [isSymbolChar, other (by decide), other (by decide), other (by decide), other (by decide), solid]
  rfl

theorem isDigit_code {c : Char} (digit : isDigit c = true) : 48 ≤ c.toNat ∧ c.toNat ≤ 57 := by
  simpa [isDigit, Char.le_def, UInt32.le_iff_toNat_le] using digit

theorem isSymbolChar_of_isDigit {c : Char} (digit : isDigit c = true) : isSymbolChar c = true :=
  isSymbolChar_of_plain (.inr (.inl (isDigit_code digit)))

theorem Ends.noDigit {s : Chars} (ends : Ends s) : ∀ c, s.head? = some c → isDigit c = false := by
  intro c first
  cases digit : isDigit c with
  | false => rfl
  | true =>
    have symbolic := isSymbolChar_of_isDigit digit
    rw [ends c first] at symbolic
    cases symbolic

end Characters

section Gaps

theorem skip_solid {c : Char} (s : Chars) (space : Text.isBlank c = false) (comment : c ≠ ';') :
    skip false (c :: s) = c :: s := by
  rw [skip, if_neg (by decide), if_neg (by simp [space]), if_neg comment]

theorem skip_symbolChar {c : Char} (s : Chars) (symbolic : isSymbolChar c = true) :
    skip false (c :: s) = c :: s := by
  simp only [isSymbolChar, Bool.and_eq_true, Bool.not_eq_true', Bool.or_eq_false_iff,
    beq_eq_false_iff_ne] at symbolic
  exact skip_solid s symbolic.2 symbolic.1.2

theorem Gap.skip {gap : Chars} (h : Gap gap) (s : Chars) :
    skip false (gap ++ s) = Script.skip false s := by
  induction h with
  | nil => rfl
  | blank space rest ih => rw [List.cons_append, Script.skip, if_neg (by decide), if_pos space, ih]
  | @comment line rest oneLine _ ih =>
    rw [List.cons_append, List.append_assoc, List.cons_append, Script.skip, if_neg (by decide),
      if_neg (by decide), if_pos rfl, skip_newline (skip_comment oneLine), ih]

end Gaps

section Tokens

variable {s rest : Chars}

theorem readSymbol_name (name : IsName s) (ends : Ends rest) :
    readSymbol (s ++ rest) = .ok (symbolAtom (String.ofList s), rest) := by
  obtain ⟨taken, left⟩ := takeWhile_append name.2 ends
  unfold readSymbol
  rw [taken, left]
  cases s with
  | nil => exact absurd rfl name.1
  | cons c s => rfl

theorem readKeyword_name (name : IsName s) (ends : Ends rest) :
    readKeyword (s ++ rest) = .ok (.keyword (String.ofList s), rest) := by
  obtain ⟨taken, left⟩ := takeWhile_append name.2 ends
  unfold readKeyword
  rw [taken, left]
  cases s with
  | nil => exact absurd rfl name.1
  | cons c s => rfl

theorem escaped_plain (noQuote : '"' ∉ s) (noBackslash : '\\' ∉ s) : Escaped s s := by
  induction s with
  | nil => exact .nil
  | cons c s ih =>
    rw [List.mem_cons, not_or] at noQuote noBackslash
    exact .plain (Ne.symm noQuote.1) (Ne.symm noBackslash.1) (ih noQuote.2 noBackslash.2)

theorem escaped?_of_mem {letter c : Char} (pair : (letter, c) ∈ escapes) :
    escaped? letter = some c := by
  simp only [escapes, List.mem_cons, Prod.mk.injEq, List.not_mem_nil, or_false] at pair
  rcases pair with ⟨rfl, rfl⟩ | ⟨rfl, rfl⟩ | ⟨rfl, rfl⟩ | ⟨rfl, rfl⟩ | ⟨rfl, rfl⟩ <;> rfl

theorem readStringChars_escaped {text : Chars} (h : Escaped text s) (rest : Chars) :
    readStringChars (s ++ '"' :: rest) = .ok (text, rest) := by
  induction h with
  | nil =>
    unfold readStringChars
    exact if_pos rfl
  | plain noQuote noBackslash _ ih =>
    rw [List.cons_append]
    unfold readStringChars
    rw [if_neg noQuote, if_neg noBackslash, ih]
    rfl
  | escape pair _ ih =>
    rw [List.cons_append, List.cons_append]
    unfold readStringChars
    rw [if_neg (by decide), if_pos rfl]
    dsimp only
    rw [escaped?_of_mem pair]
    dsimp only
    rw [ih]
    rfl

/-- A number is taken alike before whatever ends it: a point belongs to it only if a digit follows. -/
theorem takeUnsigned_before (negative : Bool) (s : Chars) (ends : Ends rest) :
    takeUnsigned negative (s ++ rest) =
      ((takeUnsigned negative s).1, (takeUnsigned negative s).2 ++ rest) := by
  obtain ⟨taken, left⟩ := takeWhile_before s ends.noDigit
  unfold takeUnsigned
  rw [taken, left]
  dsimp only
  cases s.dropWhile isDigit with
  | nil =>
    rw [List.nil_append]
    split
    · next point first more =>
      have noPoint : (point == '.') = false := by
        rw [beq_eq_false_iff_ne]
        rintro rfl
        cases ends '.' rfl
      simp [noPoint]
    · rfl
  | cons point more =>
    cases more with
    | nil =>
      rw [List.singleton_append]
      cases rest with
      | nil => rfl
      | cons first more =>
        have noDigit := ends.noDigit first rfl
        simp [noDigit]
    | cons first more =>
      obtain ⟨fraction, behind⟩ := takeWhile_before (first :: more) ends.noDigit
      rw [List.cons_append, List.cons_append]
      dsimp only
      split
      · rw [List.tail_cons, List.tail_cons, ← List.cons_append, fraction, behind]
      · rfl

theorem takeUnsigned_digits (negative : Bool) {digits : Chars} (all : IsDigits digits)
    (ends : Ends rest) :
    takeUnsigned negative (digits ++ rest) = (⟨negative, digits, none⟩, rest) := by
  have whole := List.takeWhile_eq_self_iff.mpr all.2
  have left := List.dropWhile_eq_nil_iff.mpr all.2
  have alone : takeUnsigned negative digits = (⟨negative, digits, none⟩, []) := by
    unfold takeUnsigned
    rw [whole, left]
  rw [takeUnsigned_before negative digits ends, alone]
  rfl

theorem takeNumber_signed {body : Chars} {negative : Bool} (signed : Signed body negative s)
    (digit : ∃ c t, body = c :: t ∧ isDigit c = true) (rest : Chars) :
    takeNumber (s ++ rest) = takeUnsigned negative (body ++ rest) := by
  obtain ⟨c, t, rfl, digit⟩ := digit
  cases signed with
  | unsigned =>
    have minus : c ≠ '-' := by rintro rfl; cases digit
    have plus : c ≠ '+' := by rintro rfl; cases digit
    simp only [takeNumber, List.cons_append, minus, plus, if_false]
    rfl
  | plus => rfl
  | minus => rfl

theorem IsDigits.first {digits : Chars} (h : IsDigits digits) :
    ∃ c t, digits = c :: t ∧ isDigit c = true := by
  cases digits with
  | nil => exact absurd rfl h.1
  | cons c t => exact ⟨c, t, rfl, h.2 c List.mem_cons_self⟩

theorem readNumber_integer {n : Int} (h : IsInteger n s) (ends : Ends rest) :
    (readNumber (s ++ rest)).mapError (·.fault) =
      ((Datum.integer n).read 0).map fun e => (e, rest) := by
  obtain ⟨digits, negative, all, signed, value⟩ := h
  have number : takeNumber (s ++ rest) = (⟨negative, digits, none⟩, rest) :=
    (takeNumber_signed signed all.first rest).trans (takeUnsigned_digits negative all ends)
  have some_digits : digits.isEmpty = false := by
    rw [List.isEmpty_eq_false_iff]
    exact all.1
  have ended : (rest.head?.map isSymbolChar).getD false = false := by
    cases first : rest.head? with
    | none => rfl
    | some c => exact ends c first
  unfold readNumber
  rw [number]
  dsimp only
  rw [some_digits, ended]
  unfold NumberText.int64?
  dsimp only
  rw [← value]
  simp only [Datum.read, Datum.expr?]
  by_cases inRange : Int64.minValue.toInt ≤ n ∧ n ≤ Int64.maxValue.toInt
  · rw [if_pos inRange, if_pos inRange]
    rfl
  · rw [if_neg inRange, if_neg inRange]
    rfl

theorem takeUnsigned_body (negative : Bool) (t : Chars)
    (digits : (takeUnsigned negative t).1.whole.isEmpty = false) :
    ∃ whole body, IsDigits whole ∧ t = body ++ (takeUnsigned negative t).2 ∧
      (body = whole ∨ ∃ fraction, IsDigits fraction ∧ body = whole ++ '.' :: fraction) := by
  have all (u : Chars) : ∀ c ∈ u.takeWhile isDigit, isDigit c = true :=
    List.all_eq_true.mp List.all_takeWhile
  have whole := (takeUnsigned_spec negative t).1
  rw [whole, List.isEmpty_eq_false_iff] at digits
  have split := List.takeWhile_append_dropWhile (p := isDigit) (l := t)
  unfold takeUnsigned
  dsimp only
  split
  · next point first more rest =>
    rw [rest] at split
    split
    · next pointed =>
      simp only [Bool.and_eq_true, beq_iff_eq] at pointed
      obtain ⟨⟨-, rfl⟩, digit⟩ := pointed
      have fraction : (first :: more).takeWhile isDigit ≠ [] := by
        rw [List.takeWhile_cons_of_pos digit]
        exact List.cons_ne_nil _ _
      refine ⟨t.takeWhile isDigit, _, ⟨digits, all t⟩, ?_,
        .inr ⟨(first :: more).takeWhile isDigit, ⟨fraction, all _⟩, rfl⟩⟩
      rw [List.append_assoc, List.cons_append, rest, List.tail_cons,
        List.takeWhile_append_dropWhile, split]
    · exact ⟨t.takeWhile isDigit, _, ⟨digits, all t⟩, by rw [rest, split], .inl rfl⟩
  · exact ⟨t.takeWhile isDigit, _, ⟨digits, all t⟩, split.symm, .inl rfl⟩

theorem takeNumber_sign (s : Chars) : ∃ negative sign body, s = sign ++ body ∧
    (∀ t, Signed t negative (sign ++ t)) ∧
      ∀ rest, Ends rest → takeNumber (s ++ rest) = takeUnsigned negative (body ++ rest) := by
  have bare {c : Char} (t : Chars) (minus : c ≠ '-') (plus : c ≠ '+') :
      takeNumber (c :: t) = takeUnsigned false (c :: t) := by
    simp only [takeNumber, minus, plus, if_false]
    rfl
  cases s with
  | nil =>
    refine ⟨false, [], [], rfl, fun t => .unsigned, ?_⟩
    intro rest ends
    cases rest with
    | nil => rfl
    | cons c t =>
      have stops := ends c rfl
      exact bare t (by rintro rfl; cases stops) (by rintro rfl; cases stops)
  | cons c t =>
    by_cases minus : c = '-'
    · subst minus
      exact ⟨true, ['-'], t, rfl, fun t => .minus, fun rest _ => rfl⟩
    by_cases plus : c = '+'
    · subst plus
      exact ⟨false, ['+'], t, rfl, fun t => .plus, fun rest _ => rfl⟩
    · exact ⟨false, [], c :: t, rfl, fun t => .unsigned, fun rest _ => bare (t ++ rest) minus plus⟩

theorem takeNumber_number (s : Chars) (digits : (takeNumber s).1.whole.isEmpty = false) :
    ∃ number, IsNumber number ∧ s = number ++ (takeNumber s).2 := by
  obtain ⟨negative, sign, t, rfl, signed, same⟩ := takeNumber_sign s
  have same := same [] nofun
  rw [List.append_nil, List.append_nil] at same
  rw [same] at digits ⊢
  obtain ⟨whole, body, all, split, shape⟩ := takeUnsigned_body negative t digits
  refine ⟨sign ++ body, ⟨whole, body, negative, all, signed body, shape⟩, ?_⟩
  rw [List.append_assoc, ← split]

theorem IsNumber.symbolChars (h : IsNumber s) : ∀ c ∈ s, isSymbolChar c = true := by
  obtain ⟨whole, body, negative, all, signed, shape⟩ := h
  have wholeChars : ∀ c ∈ whole, isSymbolChar c = true :=
    fun c there => isSymbolChar_of_isDigit (all.2 c there)
  have bodyChars : ∀ c ∈ body, isSymbolChar c = true := by
    rcases shape with rfl | ⟨fraction, digits, rfl⟩
    · exact wholeChars
    · intro c there
      rcases List.mem_append.mp there with there | there
      · exact wholeChars c there
      rcases List.mem_cons.mp there with rfl | there
      · rfl
      · exact isSymbolChar_of_isDigit (digits.2 c there)
  cases signed with
  | unsigned => exact bodyChars
  | plus => exact List.forall_mem_cons.mpr ⟨rfl, bodyChars⟩
  | minus => exact List.forall_mem_cons.mpr ⟨rfl, bodyChars⟩

theorem readNumber_symbol (symbol : IsSymbol s) (ends : Ends rest) :
    readNumber (s ++ rest) = readSymbol (s ++ rest) := by
  unfold readNumber
  dsimp only
  refine if_pos ?_
  cases digits : (takeNumber (s ++ rest)).1.whole.isEmpty with
  | true => rfl
  | false =>
    cases goesOn : ((takeNumber (s ++ rest)).2.head?.map isSymbolChar).getD false with
    | true => rfl
    | false =>
      obtain ⟨number, isNumber, same⟩ := takeNumber_number (s ++ rest) digits
      have left : Ends (takeNumber (s ++ rest)).2 := by
        intro c first
        rw [first] at goesOn
        exact goesOn
      have whole := name_unique symbol.name.2 isNumber.symbolChars ends left same
      exact absurd (whole ▸ isNumber) symbol.noNumber

theorem IsNumber.first (h : IsNumber s) :
    ∃ c t, s = c :: t ∧ (c = '-' ∨ c = '+' ∨ isDigit c = true) := by
  obtain ⟨whole, body, negative, all, signed, shape⟩ := h
  obtain ⟨c, t, rfl, digit⟩ := all.first
  cases signed with
  | plus => exact ⟨'+', body, rfl, .inr (.inl rfl)⟩
  | minus => exact ⟨'-', body, rfl, .inl rfl⟩
  | unsigned =>
    rcases shape with rfl | ⟨fraction, -, rfl⟩
    · exact ⟨c, t, rfl, .inr (.inr digit)⟩
    · exact ⟨c, _, rfl, .inr (.inr digit)⟩

theorem IsInteger.isNumber {n : Int} (h : IsInteger n s) : IsNumber s := by
  obtain ⟨digits, negative, all, signed, -⟩ := h
  exact ⟨digits, digits, negative, all, signed, .inl rfl⟩

theorem isSymbol_word {c : Char} {t : Chars} (name : (c :: t).all isSymbolChar = true)
    (noColon : c ≠ ':') (noNumber : ¬ (c = '-' ∨ c = '+' ∨ isDigit c = true)) :
    IsSymbol (c :: t) where
  name := ⟨List.cons_ne_nil c t, List.all_eq_true.mp name⟩
  noKeyword same := noColon (Option.some.inj same)
  noNumber number := by
    obtain ⟨d, u, same, first⟩ := number.first
    cases same
    exact noNumber first

theorem readForm_symbol (list : Chars → Reader Expr) (symbol : IsSymbol s) (ends : Ends rest) :
    readForm list (s ++ rest) = .ok (symbolAtom (String.ofList s), rest) := by
  have named := readSymbol_name symbol.name ends
  have numbered := readNumber_symbol symbol ends
  cases s with
  | nil => exact absurd rfl symbol.name.1
  | cons c t =>
    have symbolic := symbol.name.2 c List.mem_cons_self
    have list : c ≠ '(' := by rintro rfl; cases symbolic
    have quote : c ≠ '"' := by rintro rfl; cases symbolic
    have colon : c ≠ ':' := by rintro rfl; exact symbol.noKeyword rfl
    rw [List.cons_append] at named numbered ⊢
    rw [readForm, skip_symbolChar _ symbolic]
    dsimp only
    rw [if_neg list, if_neg quote, if_neg colon]
    split
    · exact numbered.trans named
    · exact named

theorem readForm_integer (list : Chars → Reader Expr) {n : Int} (h : IsInteger n s)
    (ends : Ends rest) :
    (readForm list (s ++ rest)).mapError (·.fault) =
      ((Datum.integer n).read 0).map fun e => (e, rest) := by
  have read := readNumber_integer h ends
  have symbolic := h.isNumber.symbolChars
  obtain ⟨c, t, rfl, first⟩ := h.isNumber.first
  have symbolic := symbolic c List.mem_cons_self
  have list : c ≠ '(' := by rintro rfl; cases symbolic
  have quote : c ≠ '"' := by rintro rfl; cases symbolic
  have colon : c ≠ ':' := by rintro rfl; simp at first; cases first
  rw [List.cons_append] at read ⊢
  rw [readForm, skip_symbolChar _ symbolic]
  dsimp only
  rw [if_neg list, if_neg quote, if_neg colon, if_pos first]
  exact read

theorem readForm_keyword (list : Chars → Reader Expr) (name : IsName s) (ends : Ends rest) :
    readForm list (':' :: s ++ rest) = .ok (.keyword (String.ofList s), rest) := by
  rw [List.cons_append, readForm, skip_symbolChar _ rfl]
  dsimp only
  rw [if_neg (by decide), if_neg (by decide), if_pos rfl, readKeyword_name name ends]

theorem readForm_string (list : Chars → Reader Expr) {text : Chars} (h : Escaped text s)
    (rest : Chars) :
    readForm list ('"' :: (s ++ '"' :: rest)) = .ok (.string (String.ofList text), rest) := by
  rw [readForm, skip_solid _ (by decide) (by decide)]
  dsimp only
  rw [if_neg (by decide), if_pos rfl, readString, readStringChars_escaped h]
  rfl

theorem readForm_list (list : Chars → Reader Expr) (s : Chars) :
    readForm list ('(' :: s) = list s := by
  rw [readForm, skip_solid _ (by decide) (by decide)]
  rfl

end Tokens

end ResumableScript.Script
