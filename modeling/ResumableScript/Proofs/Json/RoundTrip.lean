import Mathlib.Tactic.Basic
import ResumableScript.Json.Parser
import ResumableScript.Proofs.Json.Literal
import ResumableScript.Proofs.Json.Numeral
import ResumableScript.Proofs.Lookup

/-! Written values are read back for every shape that they fit. What a reader leaves is what follows
the value up to blanks, since every reader passes over blanks before it looks. -/
namespace ResumableScript.Json

def bytes (v : Json) : Bytes := Text.utf8 v.compact

section Blanks

theorem skipSpace_cons {b : UInt8} (s : Bytes) (h : isSpace b = false) :
    skipSpace (b :: s) = b :: s := by
  simp [skipSpace, h]

theorem skipSpace_append {s t : Bytes} {b : UInt8} (r : Bytes) (h : skipSpace s = b :: t) :
    skipSpace (s ++ r) = b :: (t ++ r) := by
  unfold skipSpace at h ⊢
  induction s with
  | nil => cases h
  | cons c s ih =>
    by_cases space : isSpace c = true
    · rw [List.dropWhile_cons_of_pos space] at h
      rw [List.cons_append, List.dropWhile_cons_of_pos space]
      exact ih h
    · rw [List.dropWhile_cons_of_neg space] at h
      rw [List.cons_append, List.dropWhile_cons_of_neg space]
      cases h
      rfl

theorem skipSpace_append_nil {s : Bytes} (blank : skipSpace s = []) (r : Bytes) :
    skipSpace (s ++ r) = skipSpace r := by
  unfold skipSpace at blank ⊢
  induction s with
  | nil => rfl
  | cons b s ih =>
    by_cases space : isSpace b = true
    · rw [List.dropWhile_cons_of_pos space] at blank
      rw [List.cons_append, List.dropWhile_cons_of_pos space]
      exact ih blank
    · rw [List.dropWhile_cons_of_neg space] at blank
      cases blank

theorem skipSpace_twice (s : Bytes) : skipSpace (skipSpace s) = skipSpace s := by
  unfold skipSpace
  induction s with
  | nil => rfl
  | cons c s ih =>
    by_cases space : isSpace c = true
    · rwa [List.dropWhile_cons_of_pos space]
    · rw [List.dropWhile_cons_of_neg space, List.dropWhile_cons_of_neg space]

theorem readValue_blanks (shape : Shape) (fuel levels : Nat) {s t : Bytes}
    (same : skipSpace s = skipSpace t) :
    readValue shape (fuel + 1) levels s = readValue shape (fuel + 1) levels t := by
  rw [readValue, readValue, same]

theorem readItems_blanks (shape : Shape) (index fuel levels : Nat) {s t : Bytes}
    (same : skipSpace s = skipSpace t) :
    readItems shape index (fuel + 1) levels s = readItems shape index (fuel + 1) levels t := by
  have next first : nextItem first s = nextItem first t := by rw [nextItem, nextItem, same]
  have close : endItems s = endItems t := by rw [endItems, endItems, same]
  rw [readItems, readItems, next, close]

theorem readMembers_blanks (shape : Shape) (read : Members) (fuel levels : Nat) {s t : Bytes}
    (same : skipSpace s = skipSpace t) :
    readMembers shape read (fuel + 1) levels s = readMembers shape read (fuel + 1) levels t := by
  have next first : nextKey first s = nextKey first t := by rw [nextKey, nextKey, same]
  rw [readMembers, readMembers, next]

/-- Nothing, or a line break and blanks: what a layout puts before an item, a key or a closing
bracket. -/
structure IsBreak (s : Bytes) : Prop where
  blank : skipSpace s = []
  first : ∀ b, s.head? = some b → b = byte '\n'

theorem isBreak_nil : IsBreak [] := ⟨rfl, nofun⟩

theorem IsBreak.delimited {s r : Bytes} (h : IsBreak s) (delimited : Delimited r) :
    Delimited (s ++ r) := by
  cases s with
  | nil => exact delimited
  | cons c s =>
    intro b front
    exact .inr (.inr (.inr (h.first b front)))

end Blanks

/-- Bytes that are read as a value that nests so many levels, whatever follows them. -/
structure ReadsAs (shape : Shape) (levels : Nat) (text : Bytes) (v : Json) : Prop where
  opens : ∃ b t, skipSpace text = b :: t ∧ b ≠ byte ']'
  read : ∀ fuel extra r, 2 * text.length ≤ fuel → Delimited r →
    ∃ rest, readValue shape fuel (levels + extra) (text ++ r) = .ok (v, rest) ∧
      skipSpace rest = skipSpace r

def ReadsAsScalar (text : Bytes) (v : Json) : Prop :=
  ∃ b t, skipSpace text = b :: t ∧ b ≠ byte '[' ∧ b ≠ byte '\x7b' ∧ b ≠ byte ']' ∧
    ∀ r, Delimited r → ∃ rest, readScalar b (t ++ r) = .ok (v, rest) ∧ skipSpace rest = skipSpace r

section Shapes

variable {shape : Shape}

theorem alternatives?_of_refusal? {v : Json} (fits : shape.refusal? v = none) :
    shape.alternatives? = none := by
  cases shape with
  | oneOf known => cases v <;> simp [Shape.refusal?, Shape.expected?] at fits
  | _ => rfl

theorem alternatives?_of_takesArray (takes : shape.takesArray = true) :
    shape.alternatives? = none := by
  cases shape with
  | oneOf known => cases takes
  | _ => rfl

theorem alternatives?_of_takesObject (takes : shape.takesObject = true) :
    shape.alternatives? = none := by
  cases shape with
  | oneOf known => cases takes
  | _ => rfl

theorem shortage?_of_each {inner : Shape} (each : ∀ index, shape.item? index = some inner)
    (length : Nat) : shape.shortage? length = none := by
  fun_induction Shape.shortage? length shape with
  | case1 other ih | case2 other ih => exact ih each
  | case3 label known =>
    have last : (Shape.fields label known).item? known.length = none := by simp [Shape.item?]
    rw [each] at last
    cases last
  | case4 => rfl

end Shapes

section Scalars

theorem ReadsAsScalar.reads {text : Bytes} {v : Json} {shape : Shape} {levels : Nat}
    (h : ReadsAsScalar text v) (fits : shape.refusal? v = none) : ReadsAs shape levels text v := by
  obtain ⟨b, t, front, list, object, close, scalar⟩ := h
  refine ⟨⟨b, t, front, close⟩, fun fuel extra r enough delimited => ?_⟩
  obtain ⟨rest, read, left⟩ := scalar r delimited
  refine ⟨rest, ?_, left⟩
  cases fuel with
  | zero =>
    have none : text = [] := List.eq_nil_of_length_eq_zero (by omega)
    rw [none] at front
    cases front
  | succ fuel =>
    rw [readValue, skipSpace_append r front]
    dsimp only
    rw [alternatives?_of_refusal? fits]
    dsimp only
    rw [if_neg list, if_neg object, readFitting, read]
    dsimp only
    rw [fits]

theorem null_reads : ReadsAsScalar (bytes null) null :=
  ⟨byte 'n', [0x75, 0x6C, 0x6C], rfl, by decide, by decide, by decide, fun r _ => ⟨r, rfl, rfl⟩⟩

theorem bool_reads (flag : Bool) : ReadsAsScalar (bytes (bool flag)) (bool flag) := by
  cases flag with
  | false => exact ⟨byte 'f', [0x61, 0x6C, 0x73, 0x65], rfl, by decide, by decide, by decide,
      fun r _ => ⟨r, rfl, rfl⟩⟩
  | true => exact ⟨byte 't', [0x72, 0x75, 0x65], rfl, by decide, by decide, by decide,
      fun r _ => ⟨r, rfl, rfl⟩⟩

theorem string_reads (text : String) : ReadsAsScalar (bytes (string text)) (string text) := by
  refine ⟨byte '"', literalBytes text.toList ++ [byte '"'], ?_, by decide, by decide, by decide,
    fun r _ => ⟨r, ?_, rfl⟩⟩
  · have quoted : bytes (string text) = _ := utf8_quoted text
    rw [quoted, skipSpace_cons _ (by decide)]
  · rw [List.append_assoc]
    show (readString (literalBytes text.toList ++ byte '"' :: r)).map _ = _
    rw [readString_literal]
    rfl

theorem isDigit_ne {b c : UInt8} (digit : isDigit b = true) (other : isDigit c = false) : b ≠ c := by
  rintro rfl
  rw [digit] at other
  cases other

theorem readScalar_digit {b : UInt8} (digit : isDigit b = true) (s : Bytes) :
    readScalar b s = readNumber false (b :: s) := by
  unfold readScalar
  rw [if_neg (isDigit_ne digit (by decide)), if_neg (isDigit_ne digit (by decide)),
    if_neg (isDigit_ne digit (by decide)), if_neg (isDigit_ne digit (by decide)), if_pos digit]

theorem isDigit_space {b : UInt8} (digit : isDigit b = true) : isSpace b = false := by
  unfold isSpace
  simp [isDigit_ne digit (show isDigit 0x20 = false from by decide),
    isDigit_ne digit (show isDigit 0x0A = false from by decide),
    isDigit_ne digit (show isDigit 0x09 = false from by decide),
    isDigit_ne digit (show isDigit 0x0D = false from by decide)]

theorem integer?_digits (negative : Bool) (n : Nat) (number : Number)
    (value : Number.ofInt? (if negative then -(n : Int) else n) = some number)
    (signed : negative = true → n ≠ 0) :
    (⟨negative, digits n, none, none⟩ : NumberText).integer? = some number := by
  unfold NumberText.integer?
  simp only [digitsValue_digits, Option.isSome_none, Bool.false_eq_true, false_or]
  rw [if_neg fun zero => signed zero.1 zero.2]
  exact value

theorem ofInt?_eq {n : Int} (bounds : -9223372036854775808 ≤ n ∧ n < 18446744073709551616) :
    Number.ofInt? n = some (.integer n bounds) := dif_pos bounds

theorem integer_reads (n : Int) (bounds : -9223372036854775808 ≤ n ∧ n < 18446744073709551616) :
    ReadsAsScalar (bytes (number (.integer n bounds))) (number (.integer n bounds)) := by
  have text : bytes (number (.integer n bounds)) = Text.utf8 n.repr := rfl
  rw [text, Int.repr_eq_if]
  by_cases positive : 0 ≤ n
  · rw [if_pos positive, utf8_repr]
    obtain ⟨b, rest, front, -⟩ := digits_cons n.toNat
    have digit : isDigit b = true := isDigit_digits n.toNat b (by rw [front]; exact List.mem_cons_self)
    refine ⟨b, rest, by rw [front, skipSpace_cons _ (isDigit_space digit)],
      isDigit_ne digit (by decide), isDigit_ne digit (by decide), isDigit_ne digit (by decide),
      fun r delimited => ⟨r, ?_, rfl⟩⟩
    have whole := readNumber_digits false n.toNat (.integer n bounds) <|
      integer?_digits false n.toNat _ (by simpa [Int.toNat_of_nonneg positive] using ofInt?_eq bounds)
        nofun
    have read := readNumber_local false _ _ _ r whole delimited
    rw [front] at read
    rw [readScalar_digit digit]
    exact read
  · rw [if_neg positive, Text.utf8_append, utf8_repr]
    refine ⟨byte '-', digits (-n).toNat, rfl, by decide, by decide, by decide,
      fun r delimited => ⟨r, ?_, rfl⟩⟩
    have value : -((-n).toNat : Int) = n := by omega
    have whole := readNumber_digits true (-n).toNat (.integer n bounds) <|
      integer?_digits true (-n).toNat _ (by rw [if_pos rfl, value, ofInt?_eq bounds])
        (by omega)
    exact readNumber_local true _ _ _ r whole delimited

theorem map_ne_number {α : Type} {read : Reader α} {f : α → Json} {n : Number} {t : Bytes}
    (other : ∀ a, f a ≠ number n) :
    (read.map fun result => (f result.1, result.2)) ≠ .ok (number n, t) := by
  cases read with
  | error e => nofun
  | ok result => exact fun same => other result.1 (congrArg Prod.fst (Except.ok.inj same))

theorem word_ne_number {read : Except Failure Bytes} {v : Json} {n : Number} {t : Bytes}
    (other : v ≠ number n) : (read.map fun s => (v, s)) ≠ .ok (number n, t) := by
  cases read with
  | error e => nofun
  | ok s => exact fun same => other (congrArg Prod.fst (Except.ok.inj same))

theorem readScalar_number {b : UInt8} {s t : Bytes} {n : Number}
    (h : readScalar b s = .ok (number n, t)) :
    b = byte '-' ∧ readNumber true s = .ok (number n, t) ∨
      isDigit b = true ∧ readNumber false (b :: s) = .ok (number n, t) := by
  unfold readScalar at h
  split at h
  · exact absurd h (word_ne_number nofun)
  split at h
  · exact absurd h (word_ne_number nofun)
  split at h
  · exact absurd h (word_ne_number nofun)
  split at h
  · next minus => exact .inl ⟨minus, h⟩
  split at h
  · next digit => exact .inr ⟨digit, h⟩
  split at h
  · exact absurd h (map_ne_number nofun)
  · cases h

theorem parseBytes_ok {shape : Shape} {text : Bytes} {v : Json}
    (h : parseBytes shape text = .ok v) :
    ∃ rest, readValue shape (2 * text.length + 2) maxLevels text = .ok (v, rest) ∧
      skipSpace rest = [] := by
  unfold parseBytes readText at h
  split at h
  · cases h
  · next rest read =>
    split at h
    · next blank =>
      cases h
      exact ⟨rest, read, blank⟩
    · cases h

theorem parse_number {text : String} {n : Number} (h : parse text = .ok (number n)) :
    ∃ b s t, skipSpace (Text.utf8 text) = b :: s ∧ readScalar b s = .ok (number n, t) ∧
      skipSpace t = [] := by
  obtain ⟨t, read, blank⟩ := parseBytes_ok h
  rw [readValue] at read
  cases front : skipSpace (Text.utf8 text) with
  | nil =>
    rw [front] at read
    cases read
  | cons b s =>
    rw [front] at read
    dsimp only [Shape.alternatives?] at read
    split at read
    · exact absurd read (map_ne_number nofun)
    split at read
    · exact absurd read (map_ne_number nofun)
    refine ⟨b, s, t, rfl, ?_, blank⟩
    unfold readFitting at read
    split at read
    · cases read
    · next scalar =>
      cases read
      exact scalar

theorem float_reads {x : Float} {finite : x.isFinite = true}
    (back : parse (Decimal.floatText x) = .ok (number (.float x finite))) :
    ReadsAsScalar (bytes (number (.float x finite))) (number (.float x finite)) := by
  obtain ⟨b, s, t, front, read, blank⟩ := parse_number back
  obtain ⟨rfl, read⟩ | ⟨digit, read⟩ := readScalar_number read
  · refine ⟨byte '-', s, front, by decide, by decide, by decide, fun r delimited => ⟨t ++ r, ?_, ?_⟩⟩
    · exact readNumber_local true s _ t r read delimited
    · exact skipSpace_append_nil blank r
  · refine ⟨b, s, front, isDigit_ne digit (by decide), isDigit_ne digit (by decide),
      isDigit_ne digit (by decide), fun r delimited => ⟨t ++ r, ?_, ?_⟩⟩
    · rw [readScalar_digit digit]
      exact readNumber_local false _ _ t r read delimited
    · exact skipSpace_append_nil blank r

end Scalars

section Containers

def comma {α : Type} (rest : List α) : Bytes := if rest.isEmpty then [] else [byte ',']

theorem utf8_array (items : List Json) :
    bytes (array items) = byte '[' :: (Text.utf8 (compactItems items) ++ [byte ']']) := by
  unfold bytes
  rw [compact, Text.utf8_append, Text.utf8_append]
  rfl

theorem utf8_object (members : Members) :
    bytes (object members) =
      byte '\x7b' :: (Text.utf8 (compactMembers members) ++ [byte '\x7d']) := by
  unfold bytes
  rw [compact, Text.utf8_append, Text.utf8_append]
  rfl

theorem utf8_items (v : Json) (rest : List Json) :
    Text.utf8 (compactItems (v :: rest)) =
      bytes v ++ (comma rest ++ Text.utf8 (compactItems rest)) := by
  cases rest with
  | nil => simp [compactItems, comma, bytes, Text.utf8_eq]
  | cons next rest =>
    rw [compactItems, Text.utf8_append, Text.utf8_append, List.append_assoc]
    rfl

theorem utf8_members (key : String) (v : Json) (rest : Members) :
    Text.utf8 (compactMembers ((key, v) :: rest)) =
      byte '"' :: (literalBytes key.toList ++ byte '"' :: byte ':' ::
        (bytes v ++ (comma rest ++ Text.utf8 (compactMembers rest)))) := by
  have colon : Text.utf8 ":" = [byte ':'] := by decide
  cases rest with
  | nil =>
    have none : Text.utf8 "" = [] := rfl
    simp [compactMembers, comma, Text.utf8_append, utf8_quoted, colon, bytes, none]
  | cons next rest =>
    have comma : Text.utf8 "," = [byte ','] := by decide
    rw [compactMembers]
    simp [Text.utf8_append, utf8_quoted, colon, bytes, comma]
    rfl

section Items

variable {write : Json → Bytes} {shape inner : Shape} {levels : Nat}

/-- The items of an array from a given index on, in a layout that writes each of them so. -/
def layItems (write : Json → Bytes) (index : Nat) : List Json → Bytes
  | [] => []
  | v :: rest =>
    (if index = 0 then [] else [byte ',']) ++ (write v ++ layItems write (index + 1) rest)

theorem delimited_layItems (index : Nat) (rest : List Json) {s : Bytes} (delimited : Delimited s) :
    Delimited (layItems write (index + 1) rest ++ s) := by
  cases rest with
  | nil => exact delimited
  | cons v rest =>
    intro b front
    cases front
    exact .inl rfl

theorem ReadsAs.length_pos {text : Bytes} {v : Json} (h : ReadsAs shape levels text v) :
    0 < text.length := by
  obtain ⟨b, t, front, -⟩ := h.opens
  cases text with
  | nil => cases front
  | cons c text => exact Nat.succ_pos _

theorem nextItem_item {text : Bytes} {v : Json} (index : Nat)
    (h : ReadsAs shape levels text v) (s : Bytes) :
    nextItem (index == 0) ((if index = 0 then [] else [byte ',']) ++ (text ++ s)) =
      .ok (true, skipSpace (text ++ s)) := by
  obtain ⟨b, t, front, close⟩ := h.opens
  have front := skipSpace_append s front
  have other : byte ',' ≠ byte ']' := by decide
  unfold nextItem
  by_cases first : index = 0
  · simp [first, front, close]
  · rw [if_neg first, List.singleton_append, skipSpace_cons _ (by decide)]
    simp [first, front, close, other]

theorem nextItem_end (first : Bool) {s r : Bytes} (ends : skipSpace s = byte ']' :: r) :
    nextItem first s = .ok (false, r) := by
  rw [nextItem, ends]
  rfl

theorem readItems_each (each : ∀ index, shape.item? index = some inner) {items : List Json}
    (reads : ∀ v ∈ items, ReadsAs inner levels (write v) v) (index fuel extra : Nat) {s r : Bytes}
    (ends : skipSpace s = byte ']' :: r) (delimited : Delimited s)
    (enough : 2 * (layItems write index items).length < fuel) :
    readItems shape index fuel (levels + extra) (layItems write index items ++ s) =
      .ok (items, r) := by
  induction items generalizing index fuel with
  | nil =>
    cases fuel with
    | zero => cases enough
    | succ fuel =>
      rw [layItems, List.nil_append, readItems, each, nextItem_end _ ends]
      dsimp only
      rw [shortage?_of_each each]
  | cons v rest ih =>
    have first := reads v List.mem_cons_self
    have pos := first.length_pos
    rw [layItems] at enough ⊢
    simp only [List.length_append] at enough
    rw [List.append_assoc, List.append_assoc]
    match fuel with
    | fuel + 2 =>
      obtain ⟨left, read, blanks⟩ := first.read (fuel + 1) extra
        (layItems write (index + 1) rest ++ s) (by omega) (delimited_layItems index rest delimited)
      have more := ih (fun w member => reads w (List.mem_cons_of_mem v member)) (index + 1)
        (fuel + 1) (by omega)
      rw [readItems, each]
      dsimp only
      rw [nextItem_item index first]
      dsimp only
      rw [readValue_blanks _ _ _ (skipSpace_twice _), read]
      dsimp only
      rw [readItems_blanks _ _ _ _ blanks, more]
      rfl
    | 0 | 1 => omega

theorem layItems_reads (takes : shape.takesArray = true)
    (each : ∀ index, shape.item? index = some inner) {items : List Json}
    (reads : ∀ v ∈ items, ReadsAs inner levels (write v) v) {last : Bytes} (isBreak : IsBreak last) :
    ReadsAs shape (levels + 1) (byte '[' :: (layItems write 0 items ++ (last ++ [byte ']'])))
      (array items) := by
  refine ⟨⟨byte '[', _, skipSpace_cons _ (by decide), by decide⟩,
    fun fuel extra r enough delimited => ⟨r, ?_, rfl⟩⟩
  simp only [List.length_cons, List.length_append] at enough
  have bracket : Delimited (byte ']' :: r) := by
    intro b front
    cases front
    exact .inr (.inl rfl)
  have ends : skipSpace (last ++ byte ']' :: r) = byte ']' :: r :=
    (skipSpace_append_nil isBreak.blank _).trans (skipSpace_cons _ (by decide))
  cases fuel with
  | zero => omega
  | succ fuel =>
    rw [List.cons_append, List.append_assoc, List.append_assoc, readValue,
      skipSpace_cons _ (by decide)]
    have levels : levels + 1 + extra = levels + extra + 1 := by omega
    simp only [alternatives?_of_takesArray takes, if_true, takes, Bool.not_true, Bool.false_eq_true, if_false, levels, enter]
    rw [List.singleton_append,
      readItems_each each reads 0 fuel extra ends (isBreak.delimited bracket) (by omega)]
    rfl

theorem layItems_eq (text : List Json → Bytes) (none : text [] = [])
    (cons : ∀ v rest, text (v :: rest) = write v ++ (comma rest ++ text rest)) (items : List Json) :
    layItems write 0 items = text items := by
  have behind (index : Nat) (items : List Json) :
      layItems write (index + 1) items = comma items ++ text items := by
    induction items generalizing index with
    | nil => rw [none]; rfl
    | cons v rest ih => rw [layItems, ih, cons]; rfl
  cases items with
  | nil => exact none.symm
  | cons v rest => rw [layItems, behind, cons]; rfl

theorem array_reads (takes : shape.takesArray = true)
    (each : ∀ index, shape.item? index = some inner) {items : List Json}
    (reads : ∀ v ∈ items, ReadsAs inner levels (bytes v) v) :
    ReadsAs shape (levels + 1) (bytes (array items)) (array items) := by
  rw [utf8_array, ← layItems_eq (fun items => Text.utf8 (compactItems items)) rfl utf8_items]
  exact layItems_reads takes each reads isBreak_nil

end Items

def membersText (first : Bool) (members : Members) : Bytes :=
  (if first then [] else comma members) ++ Text.utf8 (compactMembers members)

theorem membersText_cons (first : Bool) (key : String) (v : Json) (rest : Members) :
    membersText first ((key, v) :: rest) =
      (if first then [] else [byte ',']) ++ byte '"' :: (literalBytes key.toList ++ byte '"' ::
        byte ':' :: (bytes v ++ membersText false rest)) := by
  have lead : comma ((key, v) :: rest) = [byte ','] := rfl
  simp only [membersText, utf8_members, lead, Bool.false_eq_true, if_false]

theorem membersText_nil (first : Bool) : membersText first [] = [] := by
  cases first <;> rfl

theorem membersText_append (first : Bool) (front back : Members) :
    membersText first (front ++ back) =
      membersText first front ++ membersText (first && front.isEmpty) back := by
  induction front generalizing first with
  | nil =>
    rw [membersText_nil, List.nil_append, List.nil_append, List.isEmpty_nil, Bool.and_true]
  | cons member rest ih =>
    obtain ⟨key, v⟩ := member
    rw [List.cons_append, membersText_cons, membersText_cons, ih]
    simp

theorem delimited_brace (r : Bytes) : Delimited (byte '\x7d' :: r) := by
  intro b front
  cases front
  exact .inr (.inr (.inl rfl))

section Members

variable {write : Json → Bytes} {lead : Bytes} {shape : Shape} {levels : Nat}

/-- The members of an object in a layout that puts this before each key and writes each value so. -/
def layMembers (lead : Bytes) (write : Json → Bytes) (first : Bool) : Members → Bytes
  | [] => []
  | (key, v) :: rest =>
    (if first then [] else [byte ',']) ++ (lead ++ byte '"' :: (literalBytes key.toList ++
      byte '"' :: byte ':' :: (write v ++ layMembers lead write false rest)))

theorem layMembers_eq (text : Members → Bytes) (none : text [] = [])
    (cons : ∀ key v rest, text ((key, v) :: rest) = lead ++ byte '"' :: (literalBytes key.toList ++
      byte '"' :: byte ':' :: (write v ++ (comma rest ++ text rest))))
    (first : Bool) (members : Members) :
    layMembers lead write first members = (if first then [] else comma members) ++ text members := by
  induction members generalizing first with
  | nil => cases first <;> rw [none] <;> rfl
  | cons member rest ih =>
    obtain ⟨key, v⟩ := member
    rw [layMembers, ih, cons]
    rfl

theorem layMembers_compact (first : Bool) (members : Members) :
    layMembers [] bytes first members = membersText first members :=
  layMembers_eq (fun members => Text.utf8 (compactMembers members)) rfl utf8_members first members

theorem delimited_layMembers (rest : Members) {s : Bytes} (delimited : Delimited s) :
    Delimited (layMembers lead write false rest ++ s) := by
  cases rest with
  | nil => exact delimited
  | cons member rest =>
    intro b front
    cases front
    exact .inl rfl

theorem delimited_membersText (rest : Members) {s : Bytes} (delimited : Delimited s) :
    Delimited (membersText false rest ++ s) :=
  layMembers_compact false rest ▸ delimited_layMembers rest delimited

theorem nextKey_key (isBreak : IsBreak lead) (first : Bool) (s : Bytes) :
    nextKey first ((if first then [] else [byte ',']) ++ (lead ++ byte '"' :: s)) =
      .ok (true, s) := by
  have front : skipSpace (lead ++ byte '"' :: s) = byte '"' :: s :=
    (skipSpace_append_nil isBreak.blank _).trans (skipSpace_cons _ (by decide))
  have quote : byte '"' ≠ byte '\x7d' := by decide
  have comma : byte ',' ≠ byte '\x7d' := by decide
  unfold nextKey
  cases first with
  | true => simp [front, quote]
  | false =>
    rw [if_neg (by decide), List.singleton_append, skipSpace_cons _ (by decide)]
    simp [front, comma]

theorem nextKey_end (first : Bool) {s r : Bytes} (ends : skipSpace s = byte '\x7d' :: r) :
    nextKey first s = .ok (false, r) := by
  rw [nextKey, ends]
  rfl

theorem put_fresh {key : String} (v : Json) {members : Members}
    (fresh : key ∉ members.map Prod.fst) : members.put key v = members ++ [(key, v)] := by
  induction members with
  | nil => rfl
  | cons member rest ih =>
    obtain ⟨other, value⟩ := member
    rw [List.map_cons, List.mem_cons, not_or] at fresh
    rw [Members.put, if_neg fun same => fresh.1 same.symm, ih fresh.2]
    rfl

/-- Members that come first in an object are read one after the other, whatever follows them, each
for one unit of fuel. -/
theorem readMembers_layout (isBreak : IsBreak lead) {members : Members}
    (reads : ∀ member ∈ members, ∃ inner, shape.member? member.1 = some inner ∧
      ReadsAs inner levels (write member.2) member.2)
    (before : Members) (distinct : ((before ++ members).map Prod.fst).Nodup) (fuel extra : Nat)
    (s : Bytes) (delimited : Delimited s)
    (enough : 2 * (layMembers lead write before.isEmpty members).length < fuel) :
    ∃ left, left + 1 + members.length = fuel ∧ readMembers shape before fuel (levels + extra)
        (layMembers lead write before.isEmpty members ++ s) =
      readMembers shape (before ++ members) (left + 1) (levels + extra) s := by
  induction members generalizing before fuel with
  | nil =>
    cases fuel with
    | zero => cases enough
    | succ fuel => exact ⟨fuel, rfl, by rw [layMembers, List.append_nil, List.nil_append]⟩
  | cons member rest ih =>
    obtain ⟨key, v⟩ := member
    obtain ⟨inner, known, first⟩ := reads (key, v) List.mem_cons_self
    have first : ReadsAs inner levels (write v) v := first
    have follows : (before ++ [(key, v)]).isEmpty = false := by simp
    have pos : 0 < (write v).length := first.length_pos
    have fresh : key ∉ before.map Prod.fst := by
      rw [List.map_append, List.nodup_append] at distinct
      exact fun there => distinct.2.2 key there key (List.mem_map_of_mem List.mem_cons_self) rfl
    rw [layMembers] at enough ⊢
    simp only [List.length_append, List.length_cons] at enough
    match fuel with
    | fuel + 2 =>
      obtain ⟨rest', read, blanks⟩ := first.read (fuel + 1) extra
        (layMembers lead write false rest ++ s) (by omega) (delimited_layMembers rest delimited)
      obtain ⟨left, spent, more⟩ := ih (fun other there => reads other (List.mem_cons_of_mem _ there))
        (before ++ [(key, v)]) (by simpa using distinct) (fuel + 1) (by rw [follows]; omega)
      rw [follows] at more
      refine ⟨left, congrArg (· + 1) spent, ?_⟩
      simp only [List.append_assoc, List.cons_append]
      rw [readMembers, nextKey_key isBreak]
      dsimp only
      rw [readString_literal]
      simp only [lookup_fresh fresh, Option.isSome_none, Bool.and_false, Bool.false_eq_true, if_false,
        readColon, skipSpace_cons _ (show isSpace (byte ':') = false from by decide), if_true, known]
      rw [read]
      dsimp only
      rw [put_fresh v fresh, readMembers_blanks _ _ _ _ blanks, more]
      simp
    | 0 | 1 => omega

theorem readMembers_front {members : Members}
    (reads : ∀ member ∈ members, ∃ inner, shape.member? member.1 = some inner ∧
      ReadsAs inner levels (bytes member.2) member.2)
    (before : Members) (distinct : ((before ++ members).map Prod.fst).Nodup) (fuel extra : Nat)
    (s : Bytes) (delimited : Delimited s)
    (enough : 2 * (membersText before.isEmpty members).length < fuel) :
    ∃ left, left + 1 + members.length = fuel ∧ readMembers shape before fuel (levels + extra)
        (membersText before.isEmpty members ++ s) =
      readMembers shape (before ++ members) (left + 1) (levels + extra) s := by
  rw [← layMembers_compact] at enough ⊢
  exact readMembers_layout isBreak_nil reads before distinct fuel extra s delimited enough

theorem lookup_put_ne {key other : String} (differ : key ≠ other) (v : Json) (members : Members) :
    (members.put other v).lookup key = members.lookup key := by
  have missed : (key == other) = false := by simp [differ]
  induction members with
  | nil => simp [Members.put, List.lookup_cons, missed]
  | cons member rest ih =>
    obtain ⟨name, value⟩ := member
    rw [Members.put]
    split
    · next same => simp [List.lookup_cons, same, missed]
    · simp only [List.lookup_cons, ih]

/-- A field that has been read keeps its value to the end of the object. -/
theorem readMembers_keeps {shape : Shape} {key : String} (field : shape.isField key = true) {v : Json}
    (fuel : Nat) {levels : Nat} {read result : Members} {s rest : Bytes}
    (there : read.lookup key = some v)
    (h : readMembers shape read fuel levels s = .ok (result, rest)) : result.lookup key = some v := by
  induction fuel generalizing read s with
  | zero => cases h
  | succ fuel ih =>
    rw [readMembers] at h
    split at h
    · cases h
    · split at h
      · cases h
      · cases h
        exact there
    · split at h
      · cases h
      · next other _ _ =>
        split at h
        · cases h
        · next once =>
          -- a second member of the name would have been refused
          have differ : key ≠ other := by
            rintro rfl
            simp [field, there] at once
          split at h
          · cases h
          · dsimp only at h
            split at h
            · cases h
            · refine ih ?_ h
              rw [lookup_put_ne differ]
              exact there

/-- An object with different keys, whose values are read as they are written, whatever breaks stand
before its keys and its end. -/
theorem layMembers_reads (isBreak : IsBreak lead) (takes : shape.takesObject = true)
    {members : Members} (whole : shape.lacked? members = none)
    (distinct : (members.map Prod.fst).Nodup)
    (reads : ∀ member ∈ members, ∃ inner, shape.member? member.1 = some inner ∧
      ReadsAs inner levels (write member.2) member.2) {last : Bytes} (ends : IsBreak last) :
    ReadsAs shape (levels + 1)
      (byte '\x7b' :: (layMembers lead write true members ++ (last ++ [byte '\x7d'])))
      (object members) := by
  refine ⟨⟨byte '\x7b', _, skipSpace_cons _ (by decide), by decide⟩,
    fun fuel extra r enough delimited => ⟨r, ?_, rfl⟩⟩
  simp only [List.length_cons, List.length_append] at enough
  have list : byte '\x7b' ≠ byte '[' := by decide
  have close : skipSpace (last ++ byte '\x7d' :: r) = byte '\x7d' :: r :=
    (skipSpace_append_nil ends.blank _).trans (skipSpace_cons _ (by decide))
  cases fuel with
  | zero => omega
  | succ fuel =>
    obtain ⟨left, -, same⟩ := readMembers_layout isBreak reads [] distinct fuel extra
      (last ++ byte '\x7d' :: r) (ends.delimited (delimited_brace r))
      (show 2 * (layMembers lead write true members).length < fuel by omega)
    have all : readMembers shape [] fuel (levels + extra)
        (layMembers lead write true members ++ (last ++ byte '\x7d' :: r)) = .ok (members, r) := by
      refine Eq.trans same ?_
      rw [readMembers, nextKey_end _ close]
      dsimp only
      rw [List.nil_append, whole]
    rw [List.cons_append, List.append_assoc, List.append_assoc, readValue,
      skipSpace_cons _ (by decide)]
    have levels : levels + 1 + extra = levels + extra + 1 := by omega
    simp only [alternatives?_of_takesObject takes, list, if_true, takes, Bool.not_true, Bool.false_eq_true, if_false, levels, enter]
    rw [List.singleton_append]
    exact congrArg (Except.map _) all

theorem object_reads (takes : shape.takesObject = true) {members : Members}
    (whole : shape.lacked? members = none) (distinct : (members.map Prod.fst).Nodup)
    (reads : ∀ member ∈ members, ∃ inner, shape.member? member.1 = some inner ∧
      ReadsAs inner levels (bytes member.2) member.2) :
    ReadsAs shape (levels + 1) (bytes (object members)) (object members) := by
  have text : Text.utf8 (compactMembers members) = layMembers [] bytes true members :=
    (layMembers_compact true members).symm
  rw [utf8_object, text]
  exact layMembers_reads isBreak_nil takes whole distinct reads isBreak_nil

theorem variant_reads {known : List (String × Shape)} {name : String} {inner : Shape} {v : Json}
    (there : known.lookup name = some inner) (content : ReadsAs inner levels (bytes v) v) :
    ReadsAs (.oneOf known) (levels + 1) (bytes (object [(name, v)])) (object [(name, v)]) := by
  have text : bytes (object [(name, v)]) = byte '\x7b' :: byte '"' :: (literalBytes name.toList ++
      byte '"' :: byte ':' :: (bytes v ++ [byte '\x7d'])) := by
    rw [utf8_object, utf8_members]
    simp [comma, compactMembers, Text.utf8_eq]
  rw [text]
  refine ⟨⟨byte '\x7b', _, skipSpace_cons _ (by decide), by decide⟩,
    fun fuel extra r enough delimited => ⟨r, ?_, rfl⟩⟩
  simp only [List.length_cons, List.length_append] at enough
  have pos := content.length_pos
  obtain ⟨fuel, rfl⟩ : ∃ n, fuel = n + 2 := ⟨fuel - 2, by omega⟩
  obtain ⟨rest, read, blanks⟩ := content.read fuel extra (byte '\x7d' :: r) (by omega)
    (delimited_brace r)
  have ends : skipSpace rest = byte '\x7d' :: r := blanks.trans (skipSpace_cons _ (by decide))
  have deeper : levels + 1 + extra = levels + extra + 1 := by omega
  have named : readVariant known (byte '"' :: (literalBytes name.toList ++ byte '"' :: byte ':' ::
      (bytes v ++ byte '\x7d' :: r))) = .ok (name, bytes v ++ byte '\x7d' :: r) := by
    rw [readVariant, skipSpace_cons _ (by decide)]
    dsimp only
    rw [if_pos rfl, readName, readString_literal]
    simp [there, readColon, skipSpace_cons _ (show isSpace (byte ':') = false from by decide),
      Except.map]
  have alone : readContent known (fuel + 1) (levels + extra) (byte '"' ::
      (literalBytes name.toList ++ byte '"' :: byte ':' :: (bytes v ++ byte '\x7d' :: r))) =
      .ok ([(name, v)], r) := by
    rw [readContent, named]
    dsimp only
    rw [there, Option.getD_some, read]
    dsimp only
    rw [endVariant, ends]
    rfl
  simp only [List.cons_append, List.append_assoc, List.nil_append]
  rw [readValue, skipSpace_cons _ (by decide)]
  simp only [Shape.alternatives?, if_true, deeper, enter, alone]
  rfl

end Members

end Containers

section Whole

theorem ReadsAs.parseBytes {shape : Shape} {levels : Nat} {text : Bytes} {v : Json}
    (h : ReadsAs shape levels text v) (fits : levels ≤ maxLevels) :
    Json.parseBytes shape text = .ok v := by
  obtain ⟨rest, read, blanks⟩ :=
    h.read (2 * text.length + 2) (maxLevels - levels) [] (by omega) nofun
  rw [List.append_nil, Nat.add_sub_cancel' fits] at read
  have none : skipSpace rest = [] := blanks
  have whole : readText shape maxLevels text = .ok v := by
    rw [readText, read]
    dsimp only
    rw [none]
  rw [Json.parseBytes, whole]
  rfl

/-- Values that nest at most so many levels, in which no object has a key twice and every float is
what its text says. -/
inductive Storable : Nat → Json → Prop where
  | null (levels : Nat) : Storable levels .null
  | bool (levels : Nat) (flag : Bool) : Storable levels (.bool flag)
  | string (levels : Nat) (text : String) : Storable levels (.string text)
  | integer (levels : Nat) (n : Int)
      (bounds : -9223372036854775808 ≤ n ∧ n < 18446744073709551616) :
      Storable levels (.number (.integer n bounds))
  | float (levels : Nat) (x : Float) (finite : x.isFinite = true)
      (back : parse (Decimal.floatText x) = .ok (.number (.float x finite))) :
      Storable levels (.number (.float x finite))
  | array (levels : Nat) (items : List Json) (inner : ∀ v ∈ items, Storable levels v) :
      Storable (levels + 1) (.array items)
  | object (levels : Nat) (members : Members) (distinct : (members.map Prod.fst).Nodup)
      (inner : ∀ member ∈ members, Storable levels member.2) :
      Storable (levels + 1) (.object members)

theorem Storable.reads {levels : Nat} {v : Json} (h : Storable levels v) :
    ReadsAs .any levels (bytes v) v := by
  induction h with
  | null levels => exact null_reads.reads rfl
  | bool levels flag => exact (bool_reads flag).reads rfl
  | string levels text => exact (string_reads text).reads rfl
  | integer levels n bounds => exact (integer_reads n bounds).reads rfl
  | float levels x finite back => exact (float_reads back).reads rfl
  | array levels items inner ih => exact array_reads rfl (fun _ => rfl) ih
  | object levels members distinct inner ih =>
    exact object_reads rfl rfl distinct fun member there => ⟨.any, rfl, ih member there⟩

/-- Parsing takes a printed value back. -/
theorem Storable.parse_compact {v : Json} (h : Storable maxLevels v) : parse v.compact = .ok v :=
  h.reads.parseBytes (Nat.le_refl _)

end Whole

end ResumableScript.Json
