import Mathlib.Tactic.Basic
import ResumableScript.Proofs.Script.Written

/-! Reading gives back what was written. The readers follow the data of a text one by one, and fail
where a list nests too deep or an integer is out of range, never earlier and never with another
value. -/
namespace ResumableScript

theorem Expr.nestingItems_le {es : List Expr} {levels : Nat} :
    nestingItems es ≤ levels ↔ ∀ e ∈ es, e.nesting ≤ levels := by
  induction es with
  | nil => simp [nestingItems]
  | cons e rest ih => rw [nestingItems, Nat.max_le, ih, List.forall_mem_cons]

namespace Script

section Data

theorem Datum.Written.opens {d : Datum} {s : Chars} (h : d.Written s) :
    ∃ c t, s = c :: t ∧ c ≠ ')' ∧ ∀ rest, skip false (c :: rest) = c :: rest := by
  have symbolic {c : Char} {t : Chars} (symbolic : isSymbolChar c = true) :
      ∃ c' t', c :: t = c' :: t' ∧ c' ≠ ')' ∧ ∀ rest, skip false (c' :: rest) = c' :: rest := by
    refine ⟨c, t, rfl, ?_, fun rest => skip_symbolChar rest symbolic⟩
    rintro rfl
    cases symbolic
  cases d with
  | nil =>
    cases h
    exact symbolic rfl
  | boolean flag =>
    cases flag <;> cases h <;> exact symbolic rfl
  | integer n =>
    have chars := (IsInteger.isNumber h).symbolChars
    obtain ⟨c, t, rfl, -⟩ := (IsInteger.isNumber h).first
    exact symbolic (chars c List.mem_cons_self)
  | string text =>
    obtain ⟨inner, -, rfl⟩ := h
    exact ⟨'"', _, rfl, by decide, fun rest => skip_solid rest (by decide) (by decide)⟩
  | keyword name =>
    obtain ⟨-, rfl⟩ := h
    exact symbolic rfl
  | symbol name =>
    obtain ⟨isSymbol, -, -, -, rfl⟩ := h
    have named := isSymbol.name
    cases chars : name.toList with
    | nil => exact absurd chars named.1
    | cons c t => exact symbolic (named.2 c (chars ▸ List.mem_cons_self))
  | list items =>
    obtain ⟨inner, -, rfl⟩ := h
    exact ⟨'(', _, rfl, by decide, fun rest => skip_solid rest (by decide) (by decide)⟩

theorem Datum.AllWritten.length_le {ds : List Datum} {s : Chars} (h : AllWritten ds s) :
    ds.length ≤ s.length := by
  induction ds generalizing s with
  | nil => exact Nat.zero_le _
  | cons d rest ih =>
    obtain ⟨gap, token, tail, -, written, others, -, rfl⟩ := h
    obtain ⟨c, t, rfl, -⟩ := written.opens
    have fewer := ih others
    simp only [List.length_append, List.length_cons]
    omega

theorem readExpr_eq (levels : Nat) : ∃ list, readExpr levels = readForm list := by
  cases levels with
  | zero => exact ⟨_, rfl⟩
  | succ levels => exact ⟨_, rfl⟩

/-- The fault of a reader, and its result with what is left, are those that are expected. -/
def Comes {α : Type} (got : Reader α) (expected : Except SyntaxFault α) (rest : Chars) : Prop :=
  got.mapError (·.fault) = expected.map fun a => (a, rest)

theorem Comes.cases {α : Type} {got : Reader α} {expected : Except SyntaxFault α} {rest : Chars}
    (h : Comes got expected rest) :
    (∃ a, got = .ok (a, rest) ∧ expected = .ok a) ∨
      ∃ e, got = .error e ∧ expected = .error e.fault := by
  cases got with
  | error e =>
    cases expected with
    | error fault => cases h; exact .inr ⟨e, rfl, rfl⟩
    | ok a => cases h
  | ok result =>
    cases expected with
    | error fault => cases h
    | ok a => cases h; exact .inl ⟨a, rfl, rfl⟩

theorem Comes.map {α γ : Type} {got : Reader α} {expected : Except SyntaxFault α} {rest : Chars}
    (h : Comes got expected rest) (f : α → γ) :
    Comes (got.map fun (a, s) => (f a, s)) (expected.map f) rest := by
  rcases h.cases with ⟨a, rfl, rfl⟩ | ⟨e, rfl, rfl⟩
  · rfl
  · rfl

theorem symbolAtom_symbol {name : String} (noNil : name ≠ "nil") (noTrue : name ≠ "true")
    (noFalse : name ≠ "false") : symbolAtom name = .symbol name := by
  rw [symbolAtom, if_neg noTrue, if_neg noFalse, if_neg noNil]

theorem readForm_atom (list : Chars → Reader Expr) {d : Datum} (atom : ∀ items, d ≠ .list items)
    {s : Chars} (h : d.Written s) {rest : Chars} (ends : d.IsBare → Ends rest) (levels : Nat) :
    Comes (readForm list (s ++ rest)) (d.read levels) rest := by
  cases d with
  | nil =>
    cases h
    have symbol : IsSymbol ['n', 'i', 'l'] :=
      isSymbol_word (by decide) (by decide) (by decide)
    rw [Comes, readForm_symbol list symbol (ends trivial)]
    rfl
  | boolean flag =>
    cases flag with
    | true =>
      cases h
      have symbol : IsSymbol ['t', 'r', 'u', 'e'] :=
        isSymbol_word (by decide) (by decide) (by decide)
      rw [Comes, readForm_symbol list symbol (ends trivial)]
      rfl
    | false =>
      cases h
      have symbol : IsSymbol ['f', 'a', 'l', 's', 'e'] :=
        isSymbol_word (by decide) (by decide) (by decide)
      rw [Comes, readForm_symbol list symbol (ends trivial)]
      rfl
  | integer n => exact readForm_integer list h (ends trivial)
  | string text =>
    obtain ⟨inner, escaped, rfl⟩ := h
    rw [Comes, List.cons_append, List.append_assoc, List.singleton_append,
      readForm_string list escaped, String.ofList_toList]
    rfl
  | keyword name =>
    obtain ⟨named, rfl⟩ := h
    rw [Comes, readForm_keyword list named (ends trivial), String.ofList_toList]
    rfl
  | symbol name =>
    obtain ⟨symbol, noNil, noTrue, noFalse, rfl⟩ := h
    rw [Comes, readForm_symbol list symbol (ends trivial), String.ofList_toList,
      symbolAtom_symbol noNil noTrue noFalse]
    rfl
  | list items => exact absurd rfl (atom items)

theorem Ends.append {s t : Chars} (ends : Ends s) (ends' : Ends t) : Ends (s ++ t) := by
  cases s with
  | nil => exact ends'
  | cons c s => exact ends

theorem ends_close (s : Chars) : Ends (')' :: s) := by
  rintro c ⟨⟩
  rfl

mutual

/-- A datum is read as what it spells, whatever stands behind it. -/
theorem readExpr_written : ∀ (d : Datum) (levels : Nat) (s rest : Chars), d.Written s →
    (d.IsBare → Ends rest) → Comes (readExpr levels (s ++ rest)) (d.read levels) rest
  | .list items, 0, s, rest, h, _ => by
    obtain ⟨inner, written, rfl⟩ := h
    rw [List.cons_append, readExpr, readForm_list]
    rfl
  | .list items, levels + 1, s, rest, h, _ => by
    obtain ⟨inner, written, rfl⟩ := h
    have fewer := written.length_le
    have enough : items.length < (inner ++ ')' :: rest).length + 1 := by
      rw [List.length_append]
      omega
    rw [List.cons_append, List.append_assoc, List.singleton_append, readExpr, readForm_list, readList,
      Datum.read]
    exact (readItems_written items levels inner rest written _ _ enough).map Expr.list
  | .nil, levels, s, rest, h, ends | .boolean _, levels, s, rest, h, ends
  | .integer _, levels, s, rest, h, ends | .string _, levels, s, rest, h, ends
  | .keyword _, levels, s, rest, h, ends | .symbol _, levels, s, rest, h, ends => by
    obtain ⟨list, same⟩ := readExpr_eq levels
    rw [same]
    refine readForm_atom list ?_ h ends levels
    nofun

theorem readItems_written : ∀ (ds : List Datum) (levels : Nat) (s rest : Chars),
    Datum.AllWritten ds s → ∀ (opened : Chars) (fuel : Nat), ds.length < fuel →
    Comes (readItems (readExpr levels) opened fuel (s ++ ')' :: rest)) (Datum.readAll levels ds) rest
  | _, _, _, _, _, _, 0, enough => absurd enough (Nat.not_lt_zero _)
  | [], levels, s, rest, h, opened, fuel + 1, _ => by
    rw [readItems, Gap.skip h, skip_solid _ (by decide) (by decide)]
    rfl
  | d :: more, levels, s, rest, h, opened, fuel + 1, enough => by
    obtain ⟨gap, token, tail, blank, written, others, ends, rfl⟩ := h
    have first := readExpr_written d levels token (tail ++ ')' :: rest) written
      fun bare => (ends bare).append (ends_close rest)
    have later := readItems_written more levels tail rest others opened fuel
      (Nat.lt_of_succ_lt_succ enough)
    obtain ⟨c, t, rfl, noClose, solid⟩ := written.opens
    rw [List.append_assoc, List.append_assoc, readItems, blank.skip]
    rw [List.cons_append] at first ⊢
    rw [solid]
    dsimp only
    rw [if_neg noClose]
    rcases first.cases with ⟨e, got, expected⟩ | ⟨e, got, expected⟩
    · rw [got, Datum.readAll, expected]
      exact later.map (e :: ·)
    · rw [got, Datum.readAll, expected]
      rfl

end

theorem readForms_written (ds : List Datum) {s : Chars} (h : Datum.AllWritten ds s) (fuel : Nat)
    (enough : ds.length < fuel) :
    (readForms fuel s).mapError (·.fault) = Datum.readAll maxNesting ds := by
  induction ds generalizing s fuel with
  | nil =>
    match fuel with
    | fuel + 1 =>
      have blank := Gap.skip h []
      rw [List.append_nil] at blank
      rw [readForms_succ, blank]
      rfl
  | cons d more ih =>
    match fuel with
    | fuel + 1 =>
      obtain ⟨gap, token, tail, blank, written, others, ends, rfl⟩ := h
      have first := readExpr_written d maxNesting token tail written ends
      have later := ih others fuel (Nat.lt_of_succ_lt_succ enough)
      obtain ⟨c, t, rfl, noClose, solid⟩ := written.opens
      rw [readForms_succ, blank.skip]
      rw [List.cons_append] at first ⊢
      rw [solid]
      dsimp only
      rw [if_neg noClose, Datum.readAll]
      rcases first.cases with ⟨e, got, expected⟩ | ⟨e, got, expected⟩
      · rw [got, expected, ← later]
        dsimp only
        cases readForms fuel tail <;> rfl
      · rw [got, expected]
        rfl

/-- A written script is read as its data are, up to where a fault lies. -/
theorem parse_written {ds : List Datum} {text : String} (h : Datum.AllWritten ds text.toList) :
    (parse text).mapError (·.fault) = Datum.readAll maxNesting ds := by
  have fewer := h.length_le
  rw [← readForms_written ds h (text.toList.length + 1) (by omega), parse, parseChars]
  cases readForms (text.toList.length + 1) text.toList <;> rfl

end Data

section Read

namespace Datum

mutual

theorem read_fits : ∀ (d : Datum) (levels : Nat) (e : Expr), d.expr? = some e →
    e.nesting ≤ levels → d.read levels = .ok e
  | .list items, levels, e, h, fits => by
    rw [expr?, Option.map_eq_some_iff] at h
    obtain ⟨es, spelled, rfl⟩ := h
    rw [Expr.nesting] at fits
    match levels with
    | levels + 1 =>
      rw [read, readAll_fits items levels es spelled (Nat.le_of_succ_le_succ fits)]
      rfl
  | .nil, levels, e, h, _ | .boolean _, levels, e, h, _ | .integer _, levels, e, h, _
  | .string _, levels, e, h, _ | .keyword _, levels, e, h, _ | .symbol _, levels, e, h, _ => by
    simp only [read, h]

theorem readAll_fits : ∀ (ds : List Datum) (levels : Nat) (es : List Expr), exprs? ds = some es →
    Expr.nestingItems es ≤ levels → readAll levels ds = .ok es
  | [], levels, es, h, _ => by
    cases h
    rfl
  | d :: rest, levels, es, h, fits => by
    rw [exprs?] at h
    split at h
    · cases h
    · next e first =>
      obtain ⟨others, spelled, rfl⟩ := Option.map_eq_some_iff.mp h
      rw [Expr.nestingItems, Nat.max_le] at fits
      rw [readAll, read_fits d levels e first fits.1, readAll_fits rest levels others spelled fits.2]
      rfl

end

mutual

theorem read_deep : ∀ (d : Datum) (levels : Nat) (e : Expr), d.expr? = some e →
    levels < e.nesting → d.read levels = .error .nestedTooDeep
  | .list items, levels, e, h, deep => by
    rw [expr?, Option.map_eq_some_iff] at h
    obtain ⟨es, spelled, rfl⟩ := h
    match levels with
    | 0 => rfl
    | levels + 1 =>
      rw [Expr.nesting] at deep
      rw [read, readAll_deep items levels es spelled (Nat.lt_of_succ_lt_succ deep)]
      rfl
  | .nil, levels, e, h, deep | .boolean _, levels, e, h, deep | .string _, levels, e, h, deep
  | .keyword _, levels, e, h, deep | .symbol _, levels, e, h, deep => by
    cases h
    cases deep
  | .integer n, levels, e, h, deep => by
    rw [expr?] at h
    split at h
    · cases h
      cases deep
    · cases h

theorem readAll_deep : ∀ (ds : List Datum) (levels : Nat) (es : List Expr), exprs? ds = some es →
    levels < Expr.nestingItems es → readAll levels ds = .error .nestedTooDeep
  | [], levels, es, h, deep => by
    cases h
    cases deep
  | d :: rest, levels, es, h, deep => by
    rw [exprs?] at h
    split at h
    · cases h
    · next e first =>
      obtain ⟨others, spelled, rfl⟩ := Option.map_eq_some_iff.mp h
      rw [Expr.nestingItems] at deep
      by_cases here : levels < e.nesting
      · rw [readAll, read_deep d levels e first here]
      · have there : levels < Expr.nestingItems others := by omega
        rw [readAll, read_fits d levels e first (Nat.not_lt.mp here),
          readAll_deep rest levels others spelled there]
        rfl

end

mutual

theorem read_wide : ∀ (d : Datum) (levels : Nat), d.expr? = none →
    ∃ fault, d.read levels = .error fault
  | .list items, levels, h => by
    rw [expr?, Option.map_eq_none_iff] at h
    match levels with
    | 0 => exact ⟨_, rfl⟩
    | levels + 1 =>
      obtain ⟨fault, wide⟩ := readAll_wide items levels h
      exact ⟨fault, by rw [read, wide]; rfl⟩
  | .integer n, levels, h => ⟨.invalidInteger, by simp only [read, h]⟩
  | .nil, _, h | .boolean _, _, h | .string _, _, h | .keyword _, _, h | .symbol _, _, h => by
    cases h

theorem readAll_wide : ∀ (ds : List Datum) (levels : Nat), exprs? ds = none →
    ∃ fault, readAll levels ds = .error fault
  | [], _, h => by cases h
  | d :: rest, levels, h => by
    rw [exprs?] at h
    rw [readAll]
    cases first : d.read levels with
    | error fault => exact ⟨fault, rfl⟩
    | ok e =>
      split at h
      · next none =>
        obtain ⟨fault, wide⟩ := read_wide d levels none
        rw [first] at wide
        cases wide
      · obtain ⟨fault, wide⟩ := readAll_wide rest levels (Option.map_eq_none_iff.mp h)
        exact ⟨fault, by rw [wide]; rfl⟩

end

end Datum

end Read

section Nesting

theorem symbolAtom_nesting (name : String) : (symbolAtom name).nesting = 0 := by
  unfold symbolAtom
  split
  · rfl
  split
  · rfl
  split <;> rfl

theorem readSymbol_nesting {s left : Chars} {e : Expr} (h : readSymbol s = .ok (e, left)) :
    e.nesting = 0 := by
  unfold readSymbol at h
  split at h
  · cases h
  · cases h
    exact symbolAtom_nesting _

theorem readNumber_nesting {s left : Chars} {e : Expr} (h : readNumber s = .ok (e, left)) :
    e.nesting = 0 := by
  unfold readNumber at h
  dsimp only at h
  split at h
  · exact readSymbol_nesting h
  split at h
  · cases h
    rfl
  split at h
  · cases h
    rfl
  · cases h

theorem readKeyword_nesting {s left : Chars} {e : Expr} (h : readKeyword s = .ok (e, left)) :
    e.nesting = 0 := by
  unfold readKeyword at h
  split at h
  · cases h
  · cases h
    rfl

theorem readString_nesting {s left : Chars} {e : Expr} (h : readString s = .ok (e, left)) :
    e.nesting = 0 := by
  obtain ⟨text, -, rfl⟩ := of_map (f := fun text => Expr.string (String.ofList text)) h
  rfl

theorem readForm_nesting {list : Chars → Reader Expr} {levels : Nat}
    (lists : ∀ s e left, list s = .ok (e, left) → e.nesting ≤ levels) {s left : Chars} {e : Expr}
    (h : readForm list s = .ok (e, left)) : e.nesting ≤ levels := by
  have atom {e : Expr} (flat : e.nesting = 0) : e.nesting ≤ levels := flat ▸ Nat.zero_le levels
  unfold readForm at h
  split at h
  · cases h
  split at h
  · exact lists _ _ _ h
  split at h
  · exact atom (readString_nesting h)
  split at h
  · exact atom (readKeyword_nesting h)
  split at h
  · exact atom (readNumber_nesting h)
  · exact atom (readSymbol_nesting h)

theorem readItems_nesting {item : Chars → Reader Expr} {levels : Nat}
    (items : ∀ s e left, item s = .ok (e, left) → e.nesting ≤ levels) (opened : Chars) (fuel : Nat)
    {s left : Chars} {es : List Expr} (h : readItems item opened fuel s = .ok (es, left)) :
    Expr.nestingItems es ≤ levels := by
  induction fuel generalizing s es with
  | zero => cases h
  | succ fuel ih =>
    rw [readItems] at h
    split at h
    · cases h
    split at h
    · cases h
      exact Nat.zero_le _
    split at h
    · cases h
    · next e rest first =>
      obtain ⟨others, more, rfl⟩ := of_map h
      rw [Expr.nestingItems, Nat.max_le]
      exact ⟨items _ _ _ first, ih more⟩

theorem readExpr_nesting (levels : Nat) : ∀ s e left, readExpr levels s = .ok (e, left) →
    e.nesting ≤ levels := by
  induction levels with
  | zero =>
    refine fun s e left h => readForm_nesting ?_ h
    nofun
  | succ levels ih =>
    intro s e left h
    refine readForm_nesting ?_ h
    intro s e left h
    obtain ⟨es, items, rfl⟩ := of_map h
    exact Nat.succ_le_succ (readItems_nesting ih _ _ items)

theorem readForms_nesting (fuel : Nat) {s : Chars} {es : List Expr} (h : readForms fuel s = .ok es) :
    Expr.nestingItems es ≤ maxNesting := by
  induction fuel generalizing s es with
  | zero => cases h
  | succ fuel ih =>
    rw [readForms_succ] at h
    split at h
    · cases h
      exact Nat.zero_le _
    split at h
    · cases h
    split at h
    · cases h
    · next e rest first =>
      cases later : readForms fuel rest with
      | error e =>
        rw [later] at h
        cases h
      | ok others =>
        rw [later] at h
        cases h
        rw [Expr.nestingItems, Nat.max_le]
        exact ⟨readExpr_nesting _ _ _ _ first, ih later⟩

end Nesting

def Spells (text : String) (es : List Expr) : Prop :=
  ∃ ds, Datum.exprs? ds = some es ∧ Datum.AllWritten ds text.toList

/-- Expressions that can be written down: all but floats, as long as names are read as such. -/
inductive Writable : Expr → Prop where
  | nil : Writable .nil
  | boolean (flag : Bool) : Writable (.boolean flag)
  | integer (value : Int64) : Writable (.integer value)
  | string (text : String) : Writable (.string text)
  | keyword {name : String} (named : IsName name.toList) : Writable (.keyword name)
  | symbol {name : String} (symbolic : IsSymbol name.toList) (noNil : name ≠ "nil")
      (noTrue : name ≠ "true") (noFalse : name ≠ "false") : Writable (.symbol name)
  | list {items : List Expr} (inner : ∀ e ∈ items, Writable e) : Writable (.list items)

section Writing

theorem exists_escaped (text : Chars) : ∃ s, Escaped text s := by
  induction text with
  | nil => exact ⟨[], .nil⟩
  | cons c text ih =>
    obtain ⟨s, rest⟩ := ih
    by_cases quote : c = '"'
    · exact ⟨_, .escape (show ('"', c) ∈ escapes by rw [quote]; decide) rest⟩
    by_cases backslash : c = '\\'
    · exact ⟨_, .escape (show ('\\', c) ∈ escapes by rw [backslash]; decide) rest⟩
    · exact ⟨_, .plain quote backslash rest⟩

theorem isDigits_toDigits (n : Nat) : IsDigits (Nat.toDigits 10 n) := by
  refine ⟨Nat.toDigits_ne_nil, fun c there => ?_⟩
  have digit := Nat.isDigit_of_mem_toDigits (by decide) (by decide) there
  simpa [Char.isDigit, isDigit, Char.le_def] using digit

theorem readDigits_toDigits (n : Nat) : Decimal.readDigits (Nat.toDigits 10 n) = n := by
  exact Nat.ofDigitChars_toDigits (by decide) (by decide)

theorem exists_integer (n : Int) : ∃ s, IsInteger n s := by
  by_cases negative : n < 0
  · refine ⟨_, Nat.toDigits 10 n.natAbs, true, isDigits_toDigits _, .minus, ?_⟩
    rw [readDigits_toDigits]
    simp only [if_true]
    omega
  · refine ⟨_, Nat.toDigits 10 n.natAbs, false, isDigits_toDigits _, .unsigned, ?_⟩
    rw [readDigits_toDigits]
    simp only [Bool.false_eq_true, if_false]
    omega

theorem exists_allWritten {es : List Expr}
    (each : ∀ e ∈ es, ∃ (d : Datum) (s : Chars), d.expr? = some e ∧ d.Written s) :
    ∃ ds s, Datum.exprs? ds = some es ∧ Datum.AllWritten ds s ∧ Ends s := by
  induction es with
  | nil => exact ⟨[], [], rfl, .nil, nofun⟩
  | cons e rest ih =>
    obtain ⟨d, token, spelled, written⟩ := each e List.mem_cons_self
    obtain ⟨ds, tail, others, more, ends⟩ := ih fun e there => each e (List.mem_cons_of_mem _ there)
    refine ⟨d :: ds, ' ' :: (token ++ tail), ?_,
      ⟨[' '], token, tail, .blank rfl .nil, written, more, fun _ => ends, rfl⟩, ?_⟩
    · rw [Datum.exprs?, spelled, others]
      rfl
    · rintro c ⟨⟩
      rfl

theorem Writable.written {e : Expr} (h : Writable e) :
    ∃ (d : Datum) (s : Chars), d.expr? = some e ∧ d.Written s := by
  induction h with
  | nil => exact ⟨.nil, _, rfl, rfl⟩
  | boolean flag => cases flag <;> exact ⟨.boolean _, _, rfl, rfl⟩
  | integer value =>
    obtain ⟨s, written⟩ := exists_integer value.toInt
    refine ⟨.integer value.toInt, s, ?_, written⟩
    rw [Datum.expr?, if_pos ⟨value.minValue_le_toInt, value.toInt_le⟩, Int64.ofInt_toInt]
  | string text =>
    obtain ⟨s, escaped⟩ := exists_escaped text.toList
    exact ⟨.string text, _, rfl, s, escaped, rfl⟩
  | @keyword name named => exact ⟨.keyword name, _, rfl, named, rfl⟩
  | @symbol name symbolic noNil noTrue noFalse =>
    exact ⟨.symbol name, _, rfl, symbolic, noNil, noTrue, noFalse, rfl⟩
  | list _ ih =>
    obtain ⟨ds, s, spelled, written, -⟩ := exists_allWritten ih
    refine ⟨.list ds, _, ?_, s, written, rfl⟩
    rw [Datum.expr?, spelled]
    rfl

theorem exists_spells {es : List Expr} (writable : ∀ e ∈ es, Writable e) :
    ∃ text, Spells text es := by
  obtain ⟨ds, s, spelled, written, -⟩ := exists_allWritten fun e there => (writable e there).written
  refine ⟨String.ofList s, ds, spelled, ?_⟩
  rw [String.toList_ofList]
  exact written

end Writing

theorem of_mapError {α : Type} {got : Except SyntaxError α} :
    (∀ a, got.mapError (·.fault) = .ok a → got = .ok a) ∧
    ∀ fault, got.mapError (·.fault) = .error fault → ∃ position, got = .error ⟨fault, position⟩ := by
  cases got with
  | error e =>
    refine ⟨nofun, fun fault h => ?_⟩
    cases h
    exact ⟨e.position, rfl⟩
  | ok a =>
    refine ⟨fun _ h => ?_, nofun⟩
    cases h
    rfl

end Script

open Script

/-- Every list of expressions but floats can be written. Whichever way it is, a script is read as just
what it spells, if its lists nest no deeper than they may. No script with deeper lists is read, and
one that is written with a deeper list or with an integer out of range is refused. -/
theorem parse_exact :
    (∀ es, (∀ e ∈ es, Writable e) → ∃ text, Spells text es) ∧
    (∀ text es, Spells text es → (∀ e ∈ es, e.nesting ≤ 256) → Script.parse text = .ok es) ∧
    (∀ text es, Script.parse text = .ok es → ∀ e ∈ es, e.nesting ≤ 256) ∧
    (∀ text es, Spells text es → (∃ e ∈ es, 256 < e.nesting) →
      ∃ position, Script.parse text = .error ⟨.nestedTooDeep, position⟩) ∧
    ∀ text ds, Datum.AllWritten ds text.toList → Datum.exprs? ds = none →
      ∃ e, Script.parse text = .error e := by
  refine ⟨fun es => exists_spells, ?exact, ?bounded, ?deep, ?wide⟩
  case exact =>
    rintro text es ⟨ds, spelled, written⟩ fits
    refine of_mapError.1 es ?_
    rw [parse_written written]
    exact Datum.readAll_fits ds maxNesting es spelled (Expr.nestingItems_le.mpr fits)
  case bounded =>
    intro text es parsed
    exact Expr.nestingItems_le.mp (readForms_nesting _ (parseChars_ok.mp parsed))
  case deep =>
    rintro text es ⟨ds, spelled, written⟩ ⟨e, there, deep⟩
    refine of_mapError.2 .nestedTooDeep ?_
    rw [parse_written written]
    -- all of them would nest no deeper than they may, this one included
    refine Datum.readAll_deep ds maxNesting es spelled (Nat.lt_of_not_le fun fits => ?_)
    exact absurd (Expr.nestingItems_le.mp fits e there) (Nat.not_le.mpr deep)
  case wide =>
    intro text ds written wide
    obtain ⟨fault, refused⟩ := Datum.readAll_wide ds maxNesting wide
    obtain ⟨position, failed⟩ := of_mapError.2 fault ((parse_written written).trans refused)
    exact ⟨_, failed⟩

theorem parse_exact_comment :
    let text := "; a\n(f :k \"x\\n\"-7)nil"
    let es := [.list [.symbol "f", .keyword "k", .string "x\n", .integer (-7)], .nil]
    Spells text es ∧ (∀ e ∈ es, e.nesting ≤ 256) ∧ Script.parse text = .ok es := by
  intro text es
  have comment : Gap [';', ' ', 'a', '\n'] :=
    .comment (show '\n' ∉ [' ', 'a'] by decide) .nil
  have space : Gap [' '] := .blank (by decide) .nil
  have ends {c : Char} {s : Chars} (delimits : isSymbolChar c = false) : Ends (c :: s) := by
    rintro _ ⟨⟩
    exact delimits
  have symbol : (Datum.symbol "f").Written ['f'] :=
    ⟨isSymbol_word (by decide) (by decide) (by decide), by decide, by decide, by decide, rfl⟩
  have keyword : (Datum.keyword "k").Written [':', 'k'] :=
    ⟨⟨by decide, List.all_eq_true.mp (by decide)⟩, rfl⟩
  have string : (Datum.string "x\n").Written ['"', 'x', '\\', 'n', '"'] :=
    ⟨['x', '\\', 'n'], .plain (by decide) (by decide) (.escape (by decide) .nil), rfl⟩
  have integer : (Datum.integer (-7)).Written ['-', '7'] :=
    ⟨['7'], true, ⟨by decide, List.all_eq_true.mp (by decide)⟩, .minus, rfl⟩
  have items : Datum.AllWritten [.symbol "f", .keyword "k", .string "x\n", .integer (-7)]
      "f :k \"x\\n\"-7".toList :=
    ⟨[], _, _, .nil, symbol,
      ⟨_, _, _, space, keyword,
        ⟨_, _, _, space, string,
          ⟨[], _, _, .nil, integer, .nil, fun _ => nofun, rfl⟩, False.elim, rfl⟩,
        fun _ => ends rfl, rfl⟩,
      fun _ => ends rfl, rfl⟩
  have spells : Spells text es :=
    ⟨[.list [.symbol "f", .keyword "k", .string "x\n", .integer (-7)], .nil], rfl,
      ⟨_, _, _, comment, ⟨_, items, rfl⟩,
        ⟨[], _, _, .nil, rfl, .nil, fun _ => nofun, rfl⟩, False.elim, by decide⟩⟩
  have fits : ∀ e ∈ es, e.nesting ≤ 256 := by
    simp [es, Expr.nesting, Expr.nestingItems]
  exact ⟨spells, fits, parse_exact.2.1 text es spells fits⟩

end ResumableScript
