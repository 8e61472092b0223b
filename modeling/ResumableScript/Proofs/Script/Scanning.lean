import Mathlib.Tactic.Basic
import ResumableScript.Proofs.Script.Place
import ResumableScript.Proofs.Script.Sequence

/-! The scanner is safe. It stands between characters at all times, so that it gets every slice that
it asks for; it comes to an end, as each round of a loop takes up a character; and it reads what the
readers of characters read. -/
namespace ResumableScript.Script
open Scan

variable {sheet : Sheet} {depth : Nat} {s : Chars} {place : Cursor}

section Gaps

variable (enough : sheet.source.length < sheet.rounds)

def afterLine : Chars → Chars
  | [] => []
  | c :: s => if c = '\n' then s else afterLine s

theorem skip_afterLine (s : Chars) : skip true s = skip false (afterLine s) := by
  induction s with
  | nil => rfl
  | cons c s ih =>
    rw [skip, if_pos rfl, afterLine]
    by_cases line : c = '\n'
    · rw [if_pos line, line]
      rfl
    · rw [if_neg line, bne_iff_ne.mpr line, ih]

theorem length_afterLine_le (s : Chars) : (afterLine s).length ≤ s.length := by
  induction s with
  | nil => exact Nat.le_refl _
  | cons c s ih =>
    rw [afterLine]
    split
    · exact Nat.le_succ _
    · exact Nat.le_succ_of_le ih

theorem passOne_round (p : Char → Bool) (s : Chars) (passed : Bool) :
    ∃ step, Follows sheet depth (passOne p passed) s step ∧
      Round (fun s passed => .ok (passed || !(s.takeWhile p).isEmpty, s.dropWhile p)) s passed step := by
  cases s with
  | nil => exact ⟨_, follows_current.bind (follows_pure _), by simp [Round]⟩
  | cons c s =>
    by_cases kind : p c = true
    · refine ⟨.ok (.inl true, s), follows_current.bind ?_, ?_⟩
      · simp only [List.head?_cons, kind, if_true]
        exact (follows_advance c).bind (follows_pure _)
      · simp [Round, kind]
    · refine ⟨.ok (.inr passed, c :: s), follows_current.bind ?_, ?_⟩
      · simp only [List.head?_cons, kind]
        exact follows_pure _
      · simp [Round, kind]

theorem commentRound_round (s : Chars) (u : Unit) :
    ∃ step, Follows sheet depth (commentRound u) s step ∧
      Round (fun s _ => .ok ((), afterLine s)) s u step := by
  cases s with
  | nil => exact ⟨_, follows_current.bind (follows_pure _), rfl⟩
  | cons c s =>
    by_cases line : c = '\n'
    · refine ⟨.ok (.inr (), s), follows_current.bind ?_, ?_⟩
      · simp only [List.head?_cons, line, if_true]
        exact (follows_advance _).bind (follows_pure _)
      · simp [Round, afterLine, line]
    · refine ⟨.ok (.inl (), s), follows_current.bind ?_, ?_⟩
      · simp only [List.head?_cons, line, if_false]
        exact (follows_advance c).bind (follows_pure _)
      · simp [Round, afterLine, line]

include enough

theorem follows_passWhile (p : Char → Bool) (s : Chars) :
    Follows sheet depth (passWhile p) s (.ok (!(s.takeWhile p).isEmpty, s.dropWhile p)) :=
  follows_loop enough (fun s passed _ => passOne_round p s passed) s false (Nat.lt_succ_self _)

theorem follows_passComment (s : Chars) :
    Follows sheet depth passComment s (.ok ((), afterLine s)) :=
  follows_loop enough (fun s u _ => commentRound_round s u) s () (Nat.lt_succ_self _)

theorem gapRound_round (s : Chars) (u : Unit) :
    ∃ step, Follows sheet depth (gapRound u) s step ∧
      Round (fun s _ => .ok ((), skip false s)) s u step := by
  have blanks : Follows sheet depth (passWhile Text.isBlank) s _ := follows_passWhile enough Text.isBlank s
  have solid := List.head?_dropWhile_not Text.isBlank s
  have shorter : (s.dropWhile Text.isBlank).length ≤ s.length := (List.dropWhile_suffix _).length_le
  have same := skip_dropWhile s
  generalize s.dropWhile Text.isBlank = t at blanks solid shorter same
  by_cases comment : t.head? = some ';'
  -- Behind a comment the gap goes on with the next line, as what is skipped does.
  · refine ⟨.ok (.inl (), afterLine t), blanks.bind (follows_current.bind ?_), ?_⟩
    · rw [if_pos comment]
      exact (follows_passComment enough t).bind (follows_pure _)
    · obtain ⟨rest, rfl⟩ := List.head?_eq_some_iff.mp comment
      have passed : afterLine (';' :: rest) = afterLine rest := rfl
      have behind := length_afterLine_le rest
      refine ⟨?_, ?_⟩
      · rw [passed]
        rw [List.length_cons] at shorter
        omega
      · show Except.ok ((), skip false s) = Except.ok ((), skip false (afterLine (';' :: rest)))
        rw [passed, ← same, ← skip_afterLine]
        rfl
  · refine ⟨.ok (.inr (), t), blanks.bind (follows_current.bind ?_), ?_⟩
    · rw [if_neg comment]
      exact follows_pure _
    · show Except.ok ((), skip false s) = Except.ok ((), t)
      rw [← same]
      cases t with
      | nil => rfl
      | cons c t =>
        rw [skip_solid t solid (by simpa using comment)]

theorem follows_passGap (s : Chars) : Follows sheet depth passGap s (.ok ((), skip false s)) :=
  follows_loop enough (fun s u _ => gapRound_round enough s u) s () (Nat.lt_succ_self _)

end Gaps

section Atoms

theorem follows_scanEscape (e : Char) (s : Chars) :
    Follows sheet depth scanEscape (e :: s) (match escaped? e with
      | some c => .ok (c, s)
      | none => fail (.unknownEscape e) s) := by
  refine follows_current.bind ((follows_advance e).bind ?_)
  cases escaped? e with
  | none => exact follows_fault _
  | some c => exact follows_pure c

theorem readStringChars_quote (s : Chars) : readStringChars ('"' :: s) = .ok ([], s) := by
  rw [readStringChars.eq_def]
  rfl

theorem readStringChars_plain {c : Char} (quote : c ≠ '"') (escape : c ≠ '\\') (s : Chars) :
    readStringChars (c :: s) = (readStringChars s).map fun (text, s) => (c :: text, s) := by
  rw [readStringChars.eq_def]
  dsimp only
  rw [if_neg quote, if_neg escape]

def restOfString (s text : Chars) : Reader Expr :=
  (readStringChars s).map fun (more, left) => (.string (String.ofList (text ++ more)), left)

theorem restOfString_push {s t : Chars} {c : Char}
    (same : readStringChars s = (readStringChars t).map fun (more, left) => (c :: more, left))
    (text : Chars) : restOfString s text = restOfString t (text ++ [c]) := by
  unfold restOfString
  rw [same]
  cases readStringChars t with
  | error e => rfl
  | ok pair => simp [Except.map]

theorem stringRound_round (s text : Chars) :
    ∃ step, Follows sheet depth (stringRound text) s step ∧ Round restOfString s text step := by
  cases s with
  | nil => exact ⟨_, follows_current.bind (follows_fault _), rfl⟩
  | cons c s =>
    by_cases quote : c = '"'
    · refine ⟨.ok (.inr (.string (String.ofList text)), s),
        follows_current.bind ((follows_advance c).bind ?_), ?_⟩
      · rw [if_pos quote]
        exact follows_pure _
      · simp [Round, restOfString, quote, readStringChars_quote, Except.map]
    by_cases escape : c = '\\'
    · have going {got : Reader (Chars ⊕ Expr)}
          (h : Follows sheet depth (scanEscape >>= fun c => pure (.inl (text ++ [c]))) s got) :
          Follows sheet depth (stringRound text) (c :: s) got := by
        refine follows_current.bind ((follows_advance c).bind ?_)
        rw [if_neg quote, if_pos escape]
        exact h
      cases s with
      | nil =>
        refine ⟨fail .incompleteEscape [],
          going (follows_current.bind (follows_fault _)).refused, ?_⟩
        simp [Round, restOfString, readStringChars, escape, fail, Except.map]
      | cons e s =>
        have unescaped : Follows sheet depth scanEscape (e :: s) _ := follows_scanEscape e s
        cases known : escaped? e with
        | none =>
          rw [known] at unescaped
          refine ⟨fail (.unknownEscape e) s, going unescaped.refused, ?_⟩
          simp [Round, restOfString, readStringChars, escape, known, fail, Except.map]
        | some d =>
          rw [known] at unescaped
          refine ⟨_, going (unescaped.bind (follows_pure _)), ?_, restOfString_push ?_ text⟩
          · simp only [List.length_cons]
            omega
          · simp only [readStringChars, escape, known, if_true]
            rfl
    · refine ⟨.ok (.inl (text ++ [c]), s), follows_current.bind ((follows_advance c).bind ?_),
        Nat.lt_succ_self _, restOfString_push (readStringChars_plain quote escape s) text⟩
      rw [if_neg quote, if_neg escape]
      exact follows_pure _

variable (enough : sheet.source.length < sheet.rounds)
include enough

theorem follows_takeSymbol (s : Chars) :
    Follows sheet depth takeSymbol s (.ok (s.takeWhile isSymbolChar, s.dropWhile isSymbolChar)) := by
  refine follows_cursor fun start here => (follows_passWhile enough isSymbolChar s).bind ?_
  rw [← List.takeWhile_append_dropWhile (p := isSymbolChar) (l := s)] at here
  exact follows_textFrom here

theorem follows_scanName (missing : SyntaxFault) (atom : String → Expr) (s : Chars) :
    Follows sheet depth (scanName missing atom) s (match s.takeWhile isSymbolChar with
      | [] => fail missing s
      | name => .ok (atom (String.ofList name), s.dropWhile isSymbolChar)) := by
  have whole := List.takeWhile_append_dropWhile (p := isSymbolChar) (l := s)
  refine (follows_takeSymbol enough s).bind ?_
  cases name : s.takeWhile isSymbolChar with
  | nil =>
    rw [name, List.nil_append] at whole
    rw [whole]
    exact follows_fault _
  | cons c name => exact follows_pure _

theorem follows_scanSymbol (s : Chars) : Follows sheet depth scanSymbol s (readSymbol s) :=
  follows_scanName enough _ _ s

theorem follows_scanKeyword (c : Char) (s : Chars) :
    Follows sheet depth scanKeyword (c :: s) (readKeyword s) :=
  (follows_advance c).bind (follows_scanName enough _ _ s)

theorem follows_scanString (c : Char) (s : Chars) :
    Follows sheet depth scanString (c :: s) (readString s) :=
  (follows_advance c).bind
    (follows_loop enough (fun s text _ => stringRound_round s text) s [] (Nat.lt_succ_self _))

end Atoms

section Numbers

theorem follows_passSign (s : Chars) : ∃ negative body,
    Follows sheet depth passSign s (.ok ((), body)) ∧ takeNumber s = takeUnsigned negative body := by
  cases s with
  | nil => exact ⟨false, [], follows_current.bind (follows_pure _), rfl⟩
  | cons c t =>
    by_cases minus : c = '-'
    · subst minus
      exact ⟨true, t, follows_current.bind (follows_advance _), rfl⟩
    by_cases plus : c = '+'
    · subst plus
      exact ⟨false, t, follows_current.bind (follows_advance _), rfl⟩
    · refine ⟨false, c :: t, follows_current.bind ?_, ?_⟩
      · rw [if_neg (by simp [minus, plus])]
        exact follows_pure _
      · simp only [takeNumber, minus, plus, if_false]
        rfl

theorem follows_numeral (number : NumberText) (s : Chars) :
    Follows sheet depth (numeral number.fraction.isSome number) s (match number.fraction with
      | some fraction => .ok (.float (Decimal.readFixed number.negative number.whole fraction), s)
      | none => match number.int64? with
        | some value => .ok (.integer value, s)
        | none => fail .invalidInteger s) := by
  unfold numeral
  cases number.fraction with
  | some fraction => exact follows_pure _
  | none =>
    rw [if_neg (by simp)]
    cases number.int64? with
    | some value => exact follows_pure _
    | none => exact follows_fault _

variable (enough : sheet.source.length < sheet.rounds)
include enough

theorem follows_passFraction (negative : Bool) (body : Chars) :
    Follows sheet depth (passFraction (!(body.takeWhile isDigit).isEmpty)) (body.dropWhile isDigit)
      (.ok ((takeUnsigned negative body).1.fraction.isSome, (takeUnsigned negative body).2)) := by
  unfold takeUnsigned
  dsimp only
  generalize body.takeWhile isDigit = whole
  generalize body.dropWhile isDigit = rest
  cases whole.isEmpty with
  | true => split <;> exact follows_pure _
  | false =>
    rcases rest with _ | ⟨point, _ | ⟨first, more⟩⟩
    · exact follows_current.bind (follows_pure _)
    · refine follows_current.bind ?_
      split
      · exact follows_next.bind (follows_pure _)
      · exact follows_pure _
    · refine follows_current.bind ?_
      by_cases dot : point = '.'
      · have dotted : (point :: first :: more).head? = some '.' := congrArg some dot
        rw [if_pos dotted]
        refine follows_next.bind ?_
        by_cases digit : isDigit first = true
        · have given : (!false && point == '.' && isDigit first) = true := by simp [dot, digit]
          have ahead : ((point :: first :: more).tail.head?.map isDigit).getD false = true := digit
          rw [if_pos ahead]
          simp only [given, if_true]
          exact (follows_advance point).bind
            ((follows_passWhile enough isDigit (first :: more)).bind (follows_pure _))
        · have missing : ¬ (!false && point == '.' && isDigit first) = true := by simp [digit]
          have ahead : ¬ ((point :: first :: more).tail.head?.map isDigit).getD false = true := digit
          rw [if_neg ahead]
          simp only [missing]
          exact follows_pure _
      · have undotted : ¬ (point :: first :: more).head? = some '.' := mt Option.some.inj dot
        have missing : ¬ (!false && point == '.' && isDigit first) = true := by simp [dot]
        rw [if_neg undotted]
        simp only [missing]
        exact follows_pure _

theorem follows_scanNumber (s : Chars) : Follows sheet depth scanNumber s (readNumber s) := by
  refine follows_cursor fun start here => ?_
  obtain ⟨negative, body, sign, same⟩ : ∃ negative body, Follows sheet depth passSign s _ ∧ _ :=
    follows_passSign s
  refine sign.bind ((follows_passWhile enough isDigit body).bind
    ((follows_passFraction enough negative body).bind (follows_current.bind ?_)))
  have digits := (takeUnsigned_spec negative body).1
  unfold readNumber
  dsimp only
  rw [← digits, ← same, Bool.not_not]
  split
  · exact (follows_backTo here).bind (follows_scanSymbol enough s)
  · next number =>
    -- The text in front of the cursor is read alone as it is before what follows it.
    obtain ⟨taken, whole⟩ := takeNumber_suffix s
    have ends : Ends (takeNumber s).2 := by
      intro c first
      simp only [first, Bool.or_eq_true, not_or, Bool.not_eq_true] at number
      exact number.2
    have alone := takeNumber_before taken _ ends
    rw [whole] at alone
    rw [← whole] at here
    refine (follows_textFrom here).bind ?_
    have spelled : (takeNumber taken).1 = (takeNumber s).1 := (congrArg Prod.fst alone).symm
    rw [spelled]
    exact follows_numeral _ _

end Numbers

section Lists

def restOfList (item : Chars → Reader Expr) (opened s : Chars) (items : List Expr) : Reader Expr :=
  (readItems item opened (s.length + 1) s).map fun (more, left) => (.list (items ++ more), left)

theorem restOfList_next {item : Chars → Reader Expr} (consumes : Consumes item) (opened s : Chars)
    (items : List Expr) :
    restOfList item opened s items =
      match skip false s with
      | [] => fail .unterminatedList opened
      | c :: rest =>
        if c = ')' then .ok (.list items, rest)
        else (item (c :: rest)).bind fun taken =>
          restOfList item opened taken.2 (items ++ [taken.1]) := by
  have shorter := length_skip_le false s
  unfold restOfList
  rw [readItems_succ]
  cases front : skip false s with
  | nil => rfl
  | cons c rest =>
    rw [front] at shorter
    dsimp only
    split
    · simp [Except.map]
    cases first : item (c :: rest) with
    | error e => rfl
    | ok taken =>
      -- Both bounds are beyond what is left, and so are as good as each other.
      have fewer := consumes (c :: rest) taken.1 taken.2 first
      dsimp only [Except.bind]
      rw [readItems_fuel consumes opened s.length (taken.2.length + 1) taken.2 (by omega) (by omega)]
      cases readItems item opened (taken.2.length + 1) taken.2 with
      | error e => rfl
      | ok pair => simp [Except.map]

theorem readExpr_depth (depth : Nat) :
    readExpr (maxNesting - depth) = readForm fun s =>
      if maxNesting ≤ depth then fail .nestedTooDeep ('(' :: s)
      else readList (readExpr (maxNesting - (depth + 1))) s := by
  by_cases full : maxNesting ≤ depth
  · rw [Nat.sub_eq_zero_of_le full]
    simp only [full, if_true]
    rfl
  · obtain ⟨levels, room⟩ := Nat.exists_eq_add_of_lt (Nat.lt_of_not_le full)
    have here : maxNesting - depth = levels + 1 := by omega
    have inner : maxNesting - (depth + 1) = levels := by omega
    rw [here, inner]
    simp only [full, if_false]
    rfl

variable (enough : sheet.source.length < sheet.rounds)
include enough

theorem itemsRound_round {item : Scan Expr} {read : Chars → Reader Expr} {opened : Chars}
    {bound : Nat} (consumes : Consumes read) (opens : place.At sheet depth opened)
    (items : ∀ s, s.length < bound → Follows sheet depth item s (read s)) (s : Chars)
    (front : List Expr) (short : s.length < bound) :
    ∃ step, Follows sheet depth (itemsRound item place.index front) s step ∧
      Round (restOfList read opened) s front step := by
  have gap : Follows sheet depth passGap s _ := follows_passGap enough s
  have shorter := length_skip_le false s
  have next := restOfList_next consumes opened s front
  cases same : skip false s with
  | nil =>
    rw [same] at gap next
    exact ⟨_, gap.bind (follows_current.bind (follows_faultAt _ opens)), next⟩
  | cons c rest =>
    rw [same] at gap shorter next
    dsimp only at next
    by_cases closes : c = ')'
    · rw [if_pos closes] at next
      refine ⟨.ok (.inr (.list front), rest), gap.bind (follows_current.bind ?_), next⟩
      simp only [List.head?_cons, closes, if_true]
      exact (follows_advance _).bind (follows_pure _)
    · rw [if_neg closes] at next
      obtain ⟨step, pushed, round⟩ :=
        follows_push consumes (items (c :: rest) (by omega)) shorter next
      refine ⟨step, gap.bind (follows_current.bind ?_), round⟩
      simp only [List.head?_cons, closes, if_false]
      exact pushed

theorem follows_scanItems {item : Scan Expr} {read : Chars → Reader Expr} {bound : Nat}
    (consumes : Consumes read)
    (items : ∀ s, s.length < bound → Follows sheet depth item s (read s)) (s : Chars)
    (short : s.length < bound) : Follows sheet depth (scanItems item) ('(' :: s) (readList read s) :=
  follows_cursor fun _ opens => (follows_advance _).bind
    (follows_loop enough (itemsRound_round enough consumes opens items) s [] short)

theorem follows_scanList {item : Scan Expr} {read : Chars → Reader Expr} {bound : Nat}
    (consumes : Consumes read)
    (items : depth < maxNesting →
      ∀ s, s.length < bound → Follows sheet (depth + 1) item s (read s))
    (s : Chars) (short : s.length < bound) :
    Follows sheet depth (scanList item) ('(' :: s)
      (if maxNesting ≤ depth then fail .nestedTooDeep ('(' :: s) else readList read s) := by
  refine follows_cursor fun place here => ?_
  rw [here.depth_eq]
  split
  · exact follows_fault _
  · next room =>
    exact follows_inside
      (follows_scanItems enough consumes (items (Nat.lt_of_not_le room)) s short)

theorem follows_scanForm {list : Scan Expr} {read : Chars → Reader Expr} (s : Chars)
    (lists : ∀ rest, rest.length < s.length →
      Follows sheet depth list ('(' :: rest) (read rest)) :
    Follows sheet depth (scanForm list) s (readForm read s) := by
  have gap : Follows sheet depth passGap s _ := follows_passGap enough s
  have shorter := length_skip_le false s
  unfold readForm
  cases same : skip false s with
  | nil =>
    rw [same] at gap
    exact gap.bind (follows_current.bind (follows_fault _))
  | cons c rest =>
    rw [same] at gap shorter
    refine gap.bind (follows_current.bind ?_)
    dsimp only [List.head?_cons]
    split
    · next opens =>
      rw [opens]
      exact lists rest shorter
    split
    · exact follows_scanString enough c rest
    split
    · exact follows_scanKeyword enough c rest
    split
    · exact follows_scanNumber enough (c :: rest)
    · exact follows_scanSymbol enough (c :: rest)

theorem follows_scanExpr (levels depth : Nat) (s : Chars) (short : s.length < levels) :
    Follows sheet depth (scanExpr levels) s (readExpr (maxNesting - depth) s) := by
  induction levels generalizing depth s with
  | zero => cases short
  | succ levels ih =>
    refine follows_noted_expression ?_ (readExpr_consumes _ s)
    rw [readExpr_depth]
    refine follows_scanForm enough s fun rest shorter => follows_noted_list ?_
    exact follows_scanList enough (readExpr_consumes _)
      (fun _ s fewer => ih (depth + 1) s fewer) rest (by omega)

end Lists

section Scripts

def restOfScript (s : Chars) (forms : List Expr) : Reader (List Expr) :=
  (readForms (s.length + 1) s).map fun more => (forms ++ more, [])

theorem restOfScript_next (s : Chars) (forms : List Expr) :
    restOfScript s forms =
      match skip false s with
      | [] => .ok (forms, [])
      | c :: rest =>
        if c = ')' then fail .strayClose (c :: rest)
        else (readExpr maxNesting (c :: rest)).bind fun taken =>
          restOfScript taken.2 (forms ++ [taken.1]) := by
  have shorter := length_skip_le false s
  unfold restOfScript
  rw [readForms_succ]
  cases front : skip false s with
  | nil => simp [Except.map]
  | cons c rest =>
    rw [front] at shorter
    dsimp only
    split
    · rfl
    cases first : readExpr maxNesting (c :: rest) with
    | error e => rfl
    | ok taken =>
      have fewer := readExpr_consumes maxNesting (c :: rest) taken.1 taken.2 first
      dsimp only [Except.bind]
      rw [readForms_fuel s.length (taken.2.length + 1) taken.2 (by omega) (by omega)]
      cases readForms (taken.2.length + 1) taken.2 with
      | error e => rfl
      | ok more => simp [Except.map]

variable (enough : sheet.source.length < sheet.rounds)
include enough

theorem formsRound_round (levels : Nat) (s : Chars) (front : List Expr) (short : s.length < levels) :
    ∃ step, Follows sheet 0 (formsRound levels front) s step ∧ Round restOfScript s front step := by
  have gap : Follows sheet 0 passGap s _ := follows_passGap enough s
  have shorter := length_skip_le false s
  have next := restOfScript_next s front
  cases same : skip false s with
  | nil =>
    rw [same] at gap next
    exact ⟨_, gap.bind (follows_atEnd.bind (follows_pure _)), next⟩
  | cons c rest =>
    rw [same] at gap shorter next
    dsimp only at next
    by_cases closes : c = ')'
    · rw [if_pos closes] at next
      refine ⟨fail .strayClose (c :: rest),
        gap.bind (follows_atEnd.bind (follows_current.bind ?_)), next⟩
      simp only [List.head?_cons, closes, if_true]
      exact follows_fault _
    · rw [if_neg closes] at next
      obtain ⟨step, pushed, round⟩ := follows_push (readExpr_consumes maxNesting)
        (follows_scanExpr enough levels 0 (c :: rest) (by omega)) shorter next
      refine ⟨step, gap.bind (follows_atEnd.bind (follows_current.bind ?_)), round⟩
      rw [if_neg (by simpa using closes)]
      exact pushed

theorem follows_scanForms (s : Chars) (short : s.length < sheet.rounds) :
    Follows sheet 0 scanForms s ((readForms (s.length + 1) s).map fun forms => (forms, [])) := by
  have looped : Follows sheet 0 scanForms s (restOfScript s []) :=
    follows_loop enough (formsRound_round enough sheet.rounds) s [] short
  exact looped

end Scripts

/-- The scanner reads what the reader reads, and needs no more rounds of a loop and levels of a
recursion than the source has characters and one. Wherever it sets its cursor there is a boundary
between characters, so that no slice fails; an expression takes up a byte, and behind each list,
read or refused, the counter is what it was before. In the end it stands inside of no list, and a
script that is read has been passed as a whole. What a fault points at is a boundary, too. -/
theorem scan_safe (source : String) (rounds : Nat) (enough : source.length < rounds) :
    (scan rounds source).result = (parse source).mapError Halt.fault ∧
    (∀ event ∈ (scan rounds source).events, event.Safe source) ∧
    (scan rounds source).cursor.depth = 0 ∧
    (∀ forms, parse source = .ok forms → (scan rounds source).cursor.index = source.utf8ByteSize) ∧
    ∀ e, parse source = .error e →
      e.position ≤ source.utf8ByteSize ∧ String.Pos.Raw.IsValid source ⟨e.position⟩ := by
  have start : Cursor.At ⟨source, rounds⟩ 0 source.toList {} := ⟨rfl, [], rfl, rfl⟩
  have short : source.toList.length < rounds := by
    rw [String.length_toList]
    exact enough
  have run : Follows ⟨source, rounds⟩ 0 (do put {}; scanForms) source.toList _ :=
    (follows_put start).bind (follows_scanForms enough source.toList short)
  obtain ⟨safe, agrees⟩ := run {} start
  have outside := agrees.depth_eq
  unfold parse parseChars
  cases read : readForms (source.toList.length + 1) source.toList with
  | ok forms =>
    rw [read] at agrees
    obtain ⟨result, there⟩ := agrees
    have whole := there.index_eq
    rw [← utf8ByteSize_ofList, String.ofList_toList] at whole
    exact ⟨result, safe, outside, fun _ _ => whole, nofun⟩
  | error e =>
    rw [read] at agrees
    obtain ⟨-, place, there, result⟩ := agrees
    -- The reader counts back from the end; that is where the scanner stands.
    have position := there.index_eq
    refine ⟨?_, safe, outside, nofun, ?_⟩
    · rw [position] at result
      exact result
    · rintro _ ⟨⟩
      have valid := there.valid
      rw [position] at valid
      exact valid

/-- A list with an unknown escape, behind a character of two bytes. -/
theorem scan_safe_escape :
    let source := "(é \"\\é\")"
    source.length < 9 ∧ parse source = .error ⟨.unknownEscape 'é', 8⟩ ∧
      (scan 9 source).result = .error (.fault ⟨.unknownEscape 'é', 8⟩) ∧
      (∀ event ∈ (scan 9 source).events, event.Safe source) ∧ (scan 9 source).cursor.depth = 0 ∧
      (8 ≤ source.utf8ByteSize ∧ String.Pos.Raw.IsValid source ⟨8⟩) := by
  intro source
  have short : source.length < 9 := by decide +kernel
  have told : (parse source).map (fun _ => ()) = .error ⟨.unknownEscape 'é', 8⟩ := by decide +kernel
  have refused : parse source = .error ⟨.unknownEscape 'é', 8⟩ := by
    cases read : parse source with
    | ok forms =>
      rw [read] at told
      cases told
    | error e =>
      rw [read] at told
      cases told
      rfl
  obtain ⟨result, safe, outside, -, boundary⟩ := scan_safe source 9 short
  rw [refused] at result
  exact ⟨short, refused, result, safe, outside, boundary _ refused⟩

/-- The end of the source inside of a list, behind a symbol of two bytes. -/
example : (scan 4 "(é").events =
    [.moved ⟨0, 0⟩, .moved ⟨0, 1⟩, .moved ⟨1, 1⟩, .moved ⟨3, 1⟩, .expression ⟨1, 1⟩ ⟨3, 1⟩ true,
      .moved ⟨3, 0⟩, .list ⟨0, 0⟩ ⟨3, 0⟩ false, .expression ⟨0, 0⟩ ⟨3, 0⟩ false] := by
  decide +kernel

end ResumableScript.Script
