import Mathlib.Tactic.Basic
import ResumableScript.Proofs.Script.Position

/-! Scripts in a row. A form that is read does not depend on what stands behind it, as long as no name
goes on there, so that two scripts on lines of their own are read one after the other. -/
namespace ResumableScript.Script

section Gaps

def Blank (s : Chars) : Prop := ∀ c ∈ s, Text.isBlank c = true

theorem Blank.nil : Blank [] := List.forall_mem_nil _

theorem Blank.ends {s : Chars} (blank : Blank s) : Ends s := by
  intro c first
  simp [isSymbolChar, blank c (List.mem_of_mem_head? first)]

theorem Blank.skip {gap : Chars} (blank : Blank gap) (inComment : Bool) :
    skip inComment gap = [] := by
  induction gap generalizing inComment with
  | nil => rfl
  | cons c gap ih =>
    obtain ⟨space, rest⟩ := List.forall_mem_cons.mp blank
    rw [Script.skip, ih rest, ih rest]
    simp [space]

theorem skip_before {inComment : Bool} {s t : Chars} {c : Char} (front : skip inComment s = c :: t)
    (rest : Chars) : skip inComment (s ++ rest) = c :: (t ++ rest) := by
  induction s generalizing inComment with
  | nil => cases front
  | cons d s ih =>
    rw [List.cons_append, skip]
    rw [skip] at front
    split at front
    · next comment => rw [if_pos comment, ih front]
    · next code =>
      rw [if_neg code]
      split at front
      · next space => rw [if_pos space, ih front]
      · next solid =>
        rw [if_neg solid]
        split at front
        · next semicolon => rw [if_pos semicolon, ih front]
        · next form =>
          cases front
          rw [if_neg form]

theorem skip_gap {inComment : Bool} {s gap : Chars} (blank : Blank gap)
    (nothing : skip inComment s = []) : skip inComment (s ++ gap) = [] := by
  induction s generalizing inComment with
  | nil => exact blank.skip inComment
  | cons c s ih =>
    rw [List.cons_append, skip]
    rw [skip] at nothing
    split at nothing
    · next comment => rw [if_pos comment, ih nothing]
    · next code =>
      rw [if_neg code]
      split at nothing
      · next space => rw [if_pos space, ih nothing]
      · next solid =>
        rw [if_neg solid]
        split at nothing
        · next semicolon => rw [if_pos semicolon, ih nothing]
        · cases nothing

end Gaps

section Readers

/-- A reader that succeeds before a gap leaves the gap, and reads the same before anything else that
ends a name. -/
def IsLocal {α : Type} (read : Chars → Reader α) : Prop :=
  ∀ s gap a left, Blank gap → read (s ++ gap) = .ok (a, left) →
    ∃ inner, left = inner ++ gap ∧ ∀ rest, Ends rest → read (s ++ rest) = .ok (a, inner ++ rest)

theorem IsLocal.map {α γ : Type} {read : Chars → Reader α} (h : IsLocal read) (f : α → γ) :
    IsLocal fun s => (read s).map fun (a, t) => (f a, t) := by
  intro s gap c left blank done
  obtain ⟨a, first, rfl⟩ := of_map (f := f) done
  obtain ⟨inner, rfl, alike⟩ := h s gap a left blank first
  refine ⟨inner, rfl, fun rest ends => ?_⟩
  simp only [alike rest ends]
  rfl

/-- Where a reader stops in a text that more is put behind. -/
def before {α : Type} (rest : Chars) : Reader α → Reader α
  | .ok (a, s) => .ok (a, s ++ rest)
  | .error e => .error { e with left := e.left ++ rest }

theorem isLocal_of_before {α : Type} {read : Chars → Reader α}
    (h : ∀ s rest, Ends rest → read (s ++ rest) = before rest (read s)) : IsLocal read := by
  intro s gap a left blank done
  rw [h s gap blank.ends] at done
  cases alone : read s with
  | error e =>
    rw [alone] at done
    cases done
  | ok result =>
    rw [alone] at done
    cases done
    refine ⟨result.2, rfl, fun rest ends => ?_⟩
    rw [h s rest ends, alone]
    rfl

theorem readSymbol_before (s rest : Chars) (ends : Ends rest) :
    readSymbol (s ++ rest) = before rest (readSymbol s) := by
  obtain ⟨taken, left⟩ := takeWhile_before s ends
  unfold readSymbol
  rw [taken, left]
  cases s.takeWhile isSymbolChar <;> rfl

theorem readKeyword_before (s rest : Chars) (ends : Ends rest) :
    readKeyword (s ++ rest) = before rest (readKeyword s) := by
  obtain ⟨taken, left⟩ := takeWhile_before s ends
  unfold readKeyword
  rw [taken, left]
  cases s.takeWhile isSymbolChar <;> rfl

theorem takeNumber_before (s rest : Chars) (ends : Ends rest) :
    takeNumber (s ++ rest) = ((takeNumber s).1, (takeNumber s).2 ++ rest) := by
  obtain ⟨negative, sign, body, -, -, same⟩ := takeNumber_sign s
  have alone := same [] nofun
  rw [List.append_nil, List.append_nil] at alone
  rw [same rest ends, alone, takeUnsigned_before negative body ends]

theorem readNumber_before (s rest : Chars) (ends : Ends rest) :
    readNumber (s ++ rest) = before rest (readNumber s) := by
  have goesOn (t : Chars) : ((t ++ rest).head?.map isSymbolChar).getD false =
      (t.head?.map isSymbolChar).getD false := by
    cases t with
    | cons c t => rfl
    | nil =>
      cases rest with
      | nil => rfl
      | cons c rest => exact ends c rfl
  unfold readNumber
  rw [takeNumber_before s rest ends]
  dsimp only
  rw [goesOn]
  split
  · exact readSymbol_before s rest ends
  split
  · rfl
  split
  · rfl
  · rfl

theorem readStringChars_gap {gap text left : Chars} (blank : Blank gap) :
    readStringChars gap ≠ .ok (text, left) := by
  induction gap generalizing text left with
  | nil => nofun
  | cons c gap ih =>
    obtain ⟨space, rest⟩ := List.forall_mem_cons.mp blank
    have quote : c ≠ '"' := by rintro rfl; cases space
    have escape : c ≠ '\\' := by rintro rfl; cases space
    intro done
    unfold readStringChars at done
    rw [if_neg quote, if_neg escape] at done
    obtain ⟨inner, more⟩ := map_left done
    exact ih rest more

theorem escaped?_blank {c : Char} (space : Text.isBlank c = true) : escaped? c = none := by
  have other {d : Char} (solid : Text.isBlank d = false) : c ≠ d := by
    rintro rfl
    cases space.symm.trans solid
  rw [escaped?, if_neg (by simp [other (d := '"') rfl, other (d := '\\') rfl]),
    if_neg (other rfl), if_neg (other rfl), if_neg (other rfl)]

theorem readStringChars_local : IsLocal readStringChars := by
  intro s gap text left blank
  induction s using readStringChars.induct generalizing text left with
  | case1 =>
    intro done
    exact absurd done (readStringChars_gap blank)
  | case2 s =>
    intro done
    rw [List.cons_append] at done
    unfold readStringChars at done
    cases done
    refine ⟨s, rfl, fun rest _ => ?_⟩
    rw [List.cons_append]
    unfold readStringChars
    rfl
  | case3 quote =>
    intro done
    cases gap with
    | nil =>
      unfold readStringChars at done
      cases done
    | cons c gap =>
      have unknown := escaped?_blank (blank c List.mem_cons_self)
      simp only [List.cons_append, List.nil_append, readStringChars, quote, unknown, if_true,
        if_false] at done
      cases done
  | case4 e s unknown quote =>
    intro done
    simp only [List.cons_append, readStringChars, quote, unknown, if_true, if_false] at done
    cases done
  | case5 e s c known quote ih =>
    intro done
    simp only [List.cons_append, readStringChars, quote, known, if_true, if_false] at done ⊢
    obtain ⟨inner, more, rfl⟩ := of_map done
    obtain ⟨behind, rfl, alike⟩ := ih inner left more
    refine ⟨behind, rfl, fun rest ends => ?_⟩
    rw [alike rest ends]
    rfl
  | case6 c s quote escape ih =>
    intro done
    rw [List.cons_append] at done
    unfold readStringChars at done
    rw [if_neg quote, if_neg escape] at done
    obtain ⟨inner, more, rfl⟩ := of_map done
    obtain ⟨behind, rfl, alike⟩ := ih inner left more
    refine ⟨behind, rfl, fun rest ends => ?_⟩
    rw [List.cons_append]
    unfold readStringChars
    rw [if_neg quote, if_neg escape, alike rest ends]
    rfl

theorem readString_local : IsLocal readString :=
  readStringChars_local.map fun text => Expr.string (String.ofList text)

theorem readForm_local {list : Chars → Reader Expr} (lists : IsLocal list) :
    IsLocal (readForm list) := by
  intro s gap e left blank done
  cases front : skip false s with
  | nil =>
    rw [readForm, skip_gap blank front] at done
    cases done
  | cons c t =>
    have numbers := isLocal_of_before readNumber_before
    have symbols := isLocal_of_before readSymbol_before
    have keywords := isLocal_of_before readKeyword_before
    rw [readForm, skip_before front gap] at done
    simp only [readForm, skip_before front]
    by_cases opens : c = '('
    · simp only [if_pos opens] at done ⊢
      exact lists t gap e left blank done
    by_cases quote : c = '"'
    · simp only [if_neg opens, if_pos quote] at done ⊢
      exact readString_local t gap e left blank done
    by_cases colon : c = ':'
    · simp only [if_neg opens, if_neg quote, if_pos colon] at done ⊢
      exact keywords t gap e left blank done
    by_cases number : c = '-' ∨ c = '+' ∨ isDigit c
    · simp only [if_neg opens, if_neg quote, if_neg colon, if_pos number] at done ⊢
      exact numbers (c :: t) gap e left blank done
    · simp only [if_neg opens, if_neg quote, if_neg colon, if_neg number] at done ⊢
      exact symbols (c :: t) gap e left blank done

/-- Which bound on the items and which opening are given does not matter to a list that is closed. -/
theorem readItems_local {item : Chars → Reader Expr} (items : IsLocal item)
    (consumes : Consumes item) {opened : Chars} {fuel : Nat} {s gap left : Chars} {es : List Expr}
    (blank : Blank gap) (done : readItems item opened fuel (s ++ gap) = .ok (es, left)) :
    ∃ inner, left = inner ++ gap ∧ ∀ rest, Ends rest → ∀ opened' fuel', (s ++ rest).length < fuel' →
      readItems item opened' fuel' (s ++ rest) = .ok (es, inner ++ rest) := by
  induction fuel generalizing s es with
  | zero => cases done
  | succ fuel ih =>
    have shorter := length_skip_le false s
    cases front : skip false s with
    | nil =>
      rw [readItems, skip_gap blank front] at done
      cases done
    | cons c t =>
      rw [front, List.length_cons] at shorter
      rw [readItems, skip_before front gap] at done
      dsimp only at done
      split at done
      · next closes =>
        cases done
        refine ⟨t, rfl, fun rest ends opened' fuel' enough => ?_⟩
        cases fuel' with
        | zero => exact absurd enough (Nat.not_lt_zero _)
        | succ fuel' =>
          rw [readItems, skip_before front rest]
          exact if_pos closes
      · next opens =>
        split at done
        · cases done
        · next e behind first =>
          obtain ⟨others, more, rfl⟩ := of_map done
          have fewer := consumes _ e behind first
          obtain ⟨inner, rfl, alike⟩ := items (c :: t) gap e behind blank first
          obtain ⟨last, rfl, later⟩ := ih more
          refine ⟨last, rfl, fun rest ends opened' fuel' enough => ?_⟩
          simp only [List.length_append, List.length_cons] at fewer enough
          cases fuel' with
          | zero => exact absurd enough (Nat.not_lt_zero _)
          | succ fuel' =>
            have one := alike rest ends
            have rest_read := later rest ends opened' fuel' (by rw [List.length_append]; omega)
            rw [readItems, skip_before front rest]
            rw [List.cons_append] at one
            dsimp only
            rw [if_neg opens, one]
            dsimp only
            rw [rest_read]
            rfl

theorem readList_local {item : Chars → Reader Expr} (items : IsLocal item)
    (consumes : Consumes item) : IsLocal (readList item) := by
  intro s gap e left blank done
  obtain ⟨es, inside, rfl⟩ := of_map done
  obtain ⟨inner, rfl, alike⟩ := readItems_local items consumes blank inside
  refine ⟨inner, rfl, fun rest ends => ?_⟩
  rw [readList, alike rest ends _ _ (Nat.lt_succ_self _)]
  rfl

theorem readExpr_local (levels : Nat) : IsLocal (readExpr levels) := by
  induction levels with
  | zero =>
    refine readForm_local ?_
    intro s gap e left blank done
    cases done
  | succ levels ih => exact readForm_local (readList_local ih (readExpr_consumes levels))

end Readers

section Scripts

/-- Nothing, or a line break: neither a name nor a comment goes on here. -/
def StartsLine (s : Chars) : Prop := ∀ c, s.head? = some c → c = '\n'

theorem StartsLine.nil : StartsLine [] := by
  rintro c ⟨⟩

theorem StartsLine.ends {s : Chars} (h : StartsLine s) : Ends s := by
  intro c first
  rw [h c first]
  rfl

theorem StartsLine.skip {rest : Chars} (h : StartsLine rest) {inComment : Bool} {s : Chars}
    (nothing : skip inComment s = []) : skip inComment (s ++ rest) = Script.skip false rest := by
  cases rest with
  | nil => simp [nothing, Script.skip]
  | cons c rest =>
    cases h c rfl
    exact skip_newline nothing rest

/-- Behind a script and on a line of its own, a script is read as if it stood alone. -/
theorem readForms_behind {fuel : Nat} {s gap : Chars} {forms : List Expr} (blank : Blank gap)
    (done : readForms fuel (s ++ gap) = .ok forms) {rest : Chars} (line : StartsLine rest)
    {fuel' : Nat} (enough : (s ++ rest).length < fuel') :
    readForms fuel' (s ++ rest) = (readForms (rest.length + 1) rest).map (forms ++ ·) := by
  induction fuel generalizing s forms fuel' with
  | zero => cases done
  | succ fuel ih =>
    match fuel' with
    | fuel' + 1 =>
      have shorter := length_skip_le false s
      rw [List.length_append] at enough
      cases front : skip false s with
      | nil =>
        -- nothing but the gap is left, and the line behind it begins a script of its own
        rw [readForms_succ, skip_gap blank front] at done
        cases done
        rw [readForms_skip fuel' (line.skip front),
          readForms_fuel (fuel' + 1) (rest.length + 1) rest (by omega) (by omega)]
        cases readForms (rest.length + 1) rest <;> rfl
      | cons c t =>
        rw [front, List.length_cons] at shorter
        rw [readForms_succ, skip_before front gap] at done
        rw [readForms_succ, skip_before front]
        dsimp only at done ⊢
        split at done
        · cases done
        · next opens =>
          rw [if_neg opens]
          split at done
          · cases done
          · next e left first =>
            have fewer := readExpr_consumes maxNesting _ e left first
            obtain ⟨inner, rfl, alike⟩ := readExpr_local maxNesting (c :: t) gap e left blank first
            have one := alike rest line.ends
            rw [List.cons_append] at one
            rw [one]
            simp only [List.length_append, List.length_cons] at fewer
            cases others : readForms fuel (inner ++ gap) with
            | error e =>
              rw [others] at done
              cases done
            | ok more =>
              rw [others] at done
              cases done
              dsimp only
              rw [ih others (by rw [List.length_append]; omega)]
              cases readForms (rest.length + 1) rest <;> rfl

/-- What reading comes to behind these forms, which take up so many bytes. -/
def readBehind (forms : List Expr) (bytes : Nat) :
    Except SyntaxError (List Expr) → Except SyntaxError (List Expr)
  | .ok more => .ok (forms ++ more)
  | .error e => .error { e with position := bytes + e.position }

theorem readBehind_readBehind (forms more : List Expr) (bytes others : Nat)
    (read : Except SyntaxError (List Expr)) :
    readBehind forms bytes (readBehind more others read) =
      readBehind (forms ++ more) (bytes + others) read := by
  cases read <;> simp [readBehind, Nat.add_assoc]

theorem readBehind_nothing (read : Except SyntaxError (List Expr)) : readBehind [] 0 read = read := by
  cases read <;> simp [readBehind]

theorem parseChars_append {s rest : Chars} {forms : List Expr}
    (same : readForms ((s ++ rest).length + 1) (s ++ rest) =
      (readForms (rest.length + 1) rest).map (forms ++ ·)) :
    parseChars (s ++ rest) = readBehind forms (byteLength s) (parseChars rest) := by
  unfold parseChars
  rw [same]
  cases failed : readForms (rest.length + 1) rest with
  | ok more => rfl
  | error e =>
    have inside := byteLength_le (readForms_stop failed)
    simp only [Except.map, Except.mapError, readBehind, byteLength_append]
    rw [Nat.add_sub_assoc inside]

theorem parseChars_behind {s gap : Chars} {forms : List Expr} (blank : Blank gap)
    (done : parseChars (s ++ gap) = .ok forms) {rest : Chars} (line : StartsLine rest) :
    parseChars (s ++ rest) = readBehind forms (byteLength s) (parseChars rest) :=
  parseChars_append (readForms_behind blank (parseChars_ok.mp done) line (Nat.lt_succ_self _))

theorem parseChars_nil : parseChars [] = .ok [] := rfl

theorem parseChars_break (s : Chars) : parseChars ('\n' :: s) = readBehind [] 1 (parseChars s) := by
  have passed : skip false ('\n' :: s) = skip false s := rfl
  have same : readForms (('\n' :: s).length + 1) ('\n' :: s) =
      (readForms (s.length + 1) s).map ([] ++ ·) := by
    have longer : s.length < ('\n' :: s).length + 1 := Nat.lt_succ_of_lt (Nat.lt_succ_self _)
    rw [readForms_skip _ passed, readForms_fuel _ _ s longer (Nat.lt_succ_self _)]
    cases readForms (s.length + 1) s <;> rfl
  exact parseChars_append (s := ['\n']) same

theorem parseChars_newline {s gap : Chars} {forms : List Expr} (blank : Blank gap)
    (done : parseChars (s ++ gap) = .ok forms) (rest : Chars) :
    parseChars (s ++ '\n' :: rest) = readBehind forms (byteLength s + 1) (parseChars rest) := by
  have line : StartsLine ('\n' :: rest) := by rintro c ⟨⟩; rfl
  rw [parseChars_behind blank done line, parseChars_break, readBehind_readBehind, List.append_nil]

end Scripts

end ResumableScript.Script
