import Mathlib.Tactic.Basic
import ResumableScript.Script.Parser

/-! Reading makes progress. Every reader that succeeds has taken up a character, so that the bound on
the forms of a script never matters, and neither does what is passed over before a form. -/
namespace ResumableScript.Script

def Consumes {α : Type} (read : Chars → Reader α) : Prop :=
  ∀ s a left, read s = .ok (a, left) → left.length < s.length

theorem of_map {α γ : Type} {got : Reader α} {f : α → γ} {c : γ} {left : Chars}
    (h : (got.map fun (a, s) => (f a, s)) = .ok (c, left)) : ∃ a, got = .ok (a, left) ∧ f a = c := by
  cases got with
  | error e => cases h
  | ok pair =>
    cases h
    exact ⟨pair.1, rfl, rfl⟩

theorem map_left {α γ : Type} {got : Reader α} {f : α → γ} {c : γ} {left : Chars}
    (h : (got.map fun (a, s) => (f a, s)) = .ok (c, left)) : ∃ a, got = .ok (a, left) := by
  obtain ⟨a, read, -⟩ := of_map h
  exact ⟨a, read⟩

section Atoms

theorem length_dropWhile_lt {p : Char → Bool} {s : Chars} (taken : s.takeWhile p ≠ []) :
    (s.dropWhile p).length < s.length := by
  have whole := congrArg List.length (List.takeWhile_append_dropWhile (p := p) (l := s))
  have pos := List.length_pos_iff.mpr taken
  rw [List.length_append] at whole
  omega

theorem readSymbol_consumes : Consumes readSymbol := by
  intro s a left h
  unfold readSymbol at h
  split at h
  · cases h
  · next taken =>
    cases h
    exact length_dropWhile_lt taken

theorem readKeyword_consumes : Consumes readKeyword := by
  intro s a left h
  unfold readKeyword at h
  split at h
  · cases h
  · next taken =>
    cases h
    exact length_dropWhile_lt taken

theorem readStringChars_consumes : Consumes readStringChars := by
  intro s
  induction s using readStringChars.induct with
  | case1 => nofun
  | case2 s =>
    intro text left h
    unfold readStringChars at h
    rw [if_pos rfl] at h
    cases h
    exact Nat.lt_succ_self _
  | case3 quote =>
    intro text left h
    simp only [readStringChars, quote, if_true, if_false] at h
    cases h
  | case4 e s unknown quote =>
    intro text left h
    simp only [readStringChars, quote, unknown, if_true, if_false] at h
    cases h
  | case5 e s c known quote ih =>
    intro text left h
    simp only [readStringChars, quote, known, if_true, if_false] at h
    obtain ⟨rest, read⟩ := map_left h
    have shorter := ih rest left read
    simp only [List.length_cons]
    omega
  | case6 c s quote escape ih =>
    intro text left h
    unfold readStringChars at h
    rw [if_neg quote, if_neg escape] at h
    obtain ⟨rest, read⟩ := map_left h
    exact Nat.lt_succ_of_lt (ih rest left read)

theorem readString_consumes : Consumes readString := by
  intro s a left h
  unfold readString at h
  obtain ⟨text, read⟩ := map_left (f := fun text => Expr.string (String.ofList text)) h
  exact readStringChars_consumes s text left read

/-- What a number takes up behind its sign. -/
def takeUnsigned (negative : Bool) (s : Chars) : NumberText × Chars :=
  let whole := s.takeWhile isDigit
  let rest := s.dropWhile isDigit
  match rest with
  | point :: first :: _ =>
    if !whole.isEmpty && point == '.' && isDigit first then
      (⟨negative, whole, some (rest.tail.takeWhile isDigit)⟩, rest.tail.dropWhile isDigit)
    else (⟨negative, whole, none⟩, rest)
  | _ => (⟨negative, whole, none⟩, rest)

theorem takeNumber_eq (s : Chars) :
    ∃ negative t, t.length ≤ s.length ∧ takeNumber s = takeUnsigned negative t := by
  cases s with
  | nil => exact ⟨false, [], Nat.le_refl _, rfl⟩
  | cons c t =>
    by_cases minus : c = '-'
    · subst minus
      exact ⟨true, t, Nat.le_succ _, rfl⟩
    by_cases plus : c = '+'
    · subst plus
      exact ⟨false, t, Nat.le_succ _, rfl⟩
    · refine ⟨false, c :: t, Nat.le_refl _, ?_⟩
      simp only [takeNumber, minus, plus, if_false]
      rfl

theorem takeUnsigned_spec (negative : Bool) (s : Chars) :
    (takeUnsigned negative s).1.whole = s.takeWhile isDigit ∧
      (takeUnsigned negative s).2.length ≤ (s.dropWhile isDigit).length := by
  unfold takeUnsigned
  dsimp only
  split
  · next point first more rest =>
    split
    · refine ⟨rfl, ?_⟩
      dsimp only
      rw [rest]
      exact Nat.le_succ_of_le (List.dropWhile_suffix isDigit).length_le
    · exact ⟨rfl, Nat.le_refl _⟩
  · exact ⟨rfl, Nat.le_refl _⟩

theorem length_takeNumber_lt {s : Chars} (digits : (takeNumber s).1.whole.isEmpty = false) :
    (takeNumber s).2.length < s.length := by
  obtain ⟨negative, t, shorter, same⟩ := takeNumber_eq s
  obtain ⟨whole, left⟩ := takeUnsigned_spec negative t
  rw [same] at digits ⊢
  rw [whole] at digits
  have taken : t.takeWhile isDigit ≠ [] := by
    intro none
    rw [none] at digits
    cases digits
  have fewer := length_dropWhile_lt taken
  omega

theorem readNumber_consumes : Consumes readNumber := by
  intro s a left h
  unfold readNumber at h
  dsimp only at h
  split at h
  · exact readSymbol_consumes s a left h
  · next number =>
    have digits : (takeNumber s).1.whole.isEmpty = false := by
      simp only [Bool.or_eq_true, not_or, Bool.not_eq_true] at number
      exact number.1
    have shorter := length_takeNumber_lt digits
    split at h
    · cases h
      exact shorter
    · split at h
      · cases h
        exact shorter
      · cases h

end Atoms

section Forms

theorem length_skip_le (inComment : Bool) (s : Chars) : (skip inComment s).length ≤ s.length := by
  induction s generalizing inComment with
  | nil => exact Nat.le_refl _
  | cons c s ih =>
    rw [skip]
    split
    · exact Nat.le_succ_of_le (ih _)
    split
    · exact Nat.le_succ_of_le (ih _)
    split
    · exact Nat.le_succ_of_le (ih _)
    · exact Nat.le_refl _

theorem readForm_consumes {list : Chars → Reader Expr} (consumes : Consumes list) :
    Consumes (readForm list) := by
  intro s a left h
  have shorter := length_skip_le false s
  unfold readForm at h
  split at h
  · cases h
  · next c rest front =>
    rw [front, List.length_cons] at shorter
    split at h
    · have read := consumes rest a left h
      omega
    split at h
    · have read := readString_consumes rest a left h
      omega
    split at h
    · have read := readKeyword_consumes rest a left h
      omega
    split at h
    · have read := readNumber_consumes (c :: rest) a left h
      rw [List.length_cons] at read
      omega
    · have read := readSymbol_consumes (c :: rest) a left h
      rw [List.length_cons] at read
      omega

theorem readItems_consumes {item : Chars → Reader Expr} (consumes : Consumes item) (opened : Chars)
    (fuel : Nat) : Consumes (readItems item opened fuel) := by
  induction fuel with
  | zero => nofun
  | succ fuel ih =>
    intro s items left h
    have shorter := length_skip_le false s
    rw [readItems] at h
    split at h
    · cases h
    · next c rest front =>
      rw [front, List.length_cons] at shorter
      split at h
      · cases h
        omega
      · split at h
        · cases h
        · next expr t first =>
          obtain ⟨more, read⟩ := map_left h
          have one := consumes (c :: rest) expr t first
          have others := ih t more left read
          rw [List.length_cons] at one
          omega

theorem readItems_succ (item : Chars → Reader Expr) (opened : Chars) (fuel : Nat) (s : Chars) :
    readItems item opened (fuel + 1) s =
      match skip false s with
      | [] => fail .unterminatedList opened
      | c :: rest =>
        if c = ')' then .ok ([], rest)
        else match item (c :: rest) with
          | .error e => .error e
          | .ok (expr, s) =>
            (readItems item opened fuel s).map fun (items, s) => (expr :: items, s) := by
  rfl

theorem readItems_fuel {item : Chars → Reader Expr} (consumes : Consumes item) (opened : Chars)
    (fuel more : Nat) (s : Chars) (enough : s.length < fuel) (enough' : s.length < more) :
    readItems item opened fuel s = readItems item opened more s := by
  induction fuel generalizing more s with
  | zero => cases enough
  | succ fuel ih =>
    cases more with
    | zero => cases enough'
    | succ more =>
      have shorter := length_skip_le false s
      rw [readItems_succ, readItems_succ]
      split
      · rfl
      · next c rest front =>
        rw [front] at shorter
        split
        · rfl
        · split
          · rfl
          · next expr t first =>
            have read := consumes (c :: rest) expr t first
            rw [ih more t (by omega) (by omega)]

theorem readList_consumes {item : Chars → Reader Expr} (consumes : Consumes item) :
    Consumes (readList item) := by
  intro s a left h
  obtain ⟨items, read⟩ := map_left h
  exact readItems_consumes consumes _ _ s items left read

theorem readExpr_consumes (levels : Nat) : Consumes (readExpr levels) := by
  induction levels with
  | zero => exact readForm_consumes nofun
  | succ levels ih => exact readForm_consumes (readList_consumes ih)

end Forms

section Scripts

theorem readForms_succ (fuel : Nat) (s : Chars) :
    readForms (fuel + 1) s =
      match skip false s with
      | [] => .ok []
      | c :: rest =>
        if c = ')' then fail .strayClose (c :: rest)
        else match readExpr maxNesting (c :: rest) with
          | .error e => .error e
          | .ok (expr, s) => (readForms fuel s).map (expr :: ·) := by
  rfl

theorem readForms_fuel (fuel more : Nat) (s : Chars) (enough : s.length < fuel)
    (enough' : s.length < more) : readForms fuel s = readForms more s := by
  induction fuel generalizing more s with
  | zero => cases enough
  | succ fuel ih =>
    cases more with
    | zero => cases enough'
    | succ more =>
      have shorter := length_skip_le false s
      rw [readForms_succ, readForms_succ]
      split
      · rfl
      · next c rest front =>
        rw [front] at shorter
        split
        · rfl
        · split
          · rfl
          · next expr t first =>
            have read := readExpr_consumes maxNesting (c :: rest) expr t first
            rw [ih more t (by omega) (by omega)]

theorem readForms_skip (fuel : Nat) {s t : Chars} (same : skip false s = skip false t) :
    readForms (fuel + 1) s = readForms (fuel + 1) t := by
  rw [readForms_succ, readForms_succ, same]

theorem parseChars_ok {s : Chars} {forms : List Expr} :
    parseChars s = .ok forms ↔ readForms (s.length + 1) s = .ok forms := by
  unfold parseChars
  cases readForms (s.length + 1) s with
  | error e => exact ⟨nofun, nofun⟩
  | ok read => constructor <;> rintro ⟨⟩ <;> rfl

/-- Only what is left behind blanks and comments matters to what a script's forms are. -/
theorem parseChars_skip {s t : Chars} (same : skip false s = skip false t) (forms : List Expr) :
    parseChars s = .ok forms ↔ parseChars t = .ok forms := by
  have one := readForms_fuel (s.length + 1) (s.length + t.length + 1) s (by omega) (by omega)
  have other := readForms_fuel (t.length + 1) (s.length + t.length + 1) t (by omega) (by omega)
  rw [parseChars_ok, parseChars_ok, one, other, readForms_skip _ same]

end Scripts

section Comments

theorem skip_comment {line : Chars} (oneLine : '\n' ∉ line) : skip true line = [] := by
  induction line with
  | nil => rfl
  | cons c line ih =>
    rw [List.mem_cons, not_or] at oneLine
    have inside : (c != '\n') = true := by simp [Ne.symm oneLine.1]
    rw [skip, if_pos rfl, inside]
    exact ih oneLine.2

theorem skip_newline {inComment : Bool} {s : Chars} (blank : skip inComment s = []) (rest : Chars) :
    skip inComment (s ++ '\n' :: rest) = skip false rest := by
  induction s generalizing inComment with
  | nil => cases inComment <;> rfl
  | cons c s ih =>
    rw [skip] at blank
    rw [List.cons_append, skip]
    split at blank
    · next comment => rw [if_pos comment, ih blank]
    · next code =>
      rw [if_neg code]
      split at blank
      · next space => rw [if_pos space, ih blank]
      · next solid =>
        rw [if_neg solid]
        split at blank
        · next semicolon => rw [if_pos semicolon, ih blank]
        · cases blank

theorem skip_prefix {inComment : Bool} {s t : Chars} (blank : skip inComment (s ++ t) = []) :
    skip inComment s = [] := by
  induction s generalizing inComment with
  | nil => rfl
  | cons c s ih =>
    rw [List.cons_append, skip] at blank
    rw [skip]
    split at blank
    · next comment => rw [if_pos comment, ih blank]
    · next code =>
      rw [if_neg code]
      split at blank
      · next space => rw [if_pos space, ih blank]
      · next solid =>
        rw [if_neg solid]
        split at blank
        · next semicolon => rw [if_pos semicolon, ih blank]
        · cases blank

theorem skip_dropWhile (s : Chars) : skip false (s.dropWhile Text.isBlank) = skip false s := by
  induction s with
  | nil => rfl
  | cons c s ih =>
    by_cases blank : Text.isBlank c = true
    · rw [List.dropWhile_cons_of_pos blank, ih, skip, if_neg (by decide), if_pos blank]
    · rw [List.dropWhile_cons_of_neg blank]

theorem skip_trim {s : Chars} (blank : skip false s = []) : skip false (Text.trim s) = [] := by
  rw [← skip_dropWhile] at blank
  obtain ⟨rest, whole⟩ := Text.trimRight_prefix (s.dropWhile Text.isBlank)
  rw [← whole] at blank
  exact skip_prefix blank

theorem skip_lines {lines : List Chars} (blank : ∀ line ∈ lines, skip false line = []) :
    skip false (['\n'].intercalate lines) = [] := by
  induction lines with
  | nil => rfl
  | cons line rest ih =>
    have first := blank line List.mem_cons_self
    have others := ih fun other there => blank other (List.mem_cons_of_mem _ there)
    cases rest with
    | nil => simpa using first
    | cons next rest =>
      rw [List.intercalate_cons_cons, List.append_assoc, List.singleton_append, skip_newline first]
      exact others

end Comments

end ResumableScript.Script
