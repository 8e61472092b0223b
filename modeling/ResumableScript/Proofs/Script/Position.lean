import Mathlib.Tactic.Basic
import ResumableScript.Proofs.Script.Written

/-! Where readers stop. What a reader leaves, and what is behind a fault, is an end of the text that it
was given, so that the bytes in front of a fault can be counted from any point before it. -/
namespace ResumableScript.Script

/-- The characters behind the place where a reader has stopped. -/
def stop {α : Type} : Reader α → Chars
  | .ok (_, s) => s
  | .error e => e.left

theorem stop_map {α γ : Type} (got : Reader α) (f : α → γ) :
    stop (got.map fun (a, s) => (f a, s)) = stop got := by
  cases got <;> rfl

section Atoms

theorem readSymbol_stop (s : Chars) : stop (readSymbol s) <:+ s := by
  unfold readSymbol
  split
  · exact List.suffix_rfl
  · exact List.dropWhile_suffix _

theorem readKeyword_stop (s : Chars) : stop (readKeyword s) <:+ s := by
  unfold readKeyword
  split
  · exact List.suffix_rfl
  · exact List.dropWhile_suffix _

theorem readStringChars_stop (s : Chars) : stop (readStringChars s) <:+ s := by
  induction s using readStringChars.induct with
  | case1 => exact List.suffix_rfl
  | case2 s =>
    unfold readStringChars
    simp [stop]
  | case3 quote =>
    simp [readStringChars, stop, fail, quote]
  | case4 e s unknown quote =>
    have behind : s <:+ '\\' :: e :: s := ⟨['\\', e], rfl⟩
    simpa [readStringChars, stop, fail, quote, unknown] using behind
  | case5 e s c known quote ih =>
    have behind : s <:+ '\\' :: e :: s := ⟨['\\', e], rfl⟩
    have stopped := stop_map (readStringChars s) (c :: ·)
    simp only [readStringChars, quote, known, if_true, if_false]
    rw [stopped]
    exact ih.trans behind
  | case6 c s quote escape ih =>
    have stopped := stop_map (readStringChars s) (c :: ·)
    unfold readStringChars
    rw [if_neg quote, if_neg escape, stopped]
    exact ih.trans (List.suffix_cons c s)

theorem readString_stop (s : Chars) : stop (readString s) <:+ s := by
  have stopped := stop_map (readStringChars s) fun text => Expr.string (String.ofList text)
  rw [readString, stopped]
  exact readStringChars_stop s

theorem takeUnsigned_suffix (negative : Bool) (s : Chars) : (takeUnsigned negative s).2 <:+ s := by
  have digits : s.dropWhile isDigit <:+ s := List.dropWhile_suffix _
  unfold takeUnsigned
  dsimp only
  split
  · split
    · exact ((List.dropWhile_suffix _).trans (List.tail_suffix _)).trans digits
    · exact digits
  · exact digits

theorem takeNumber_suffix (s : Chars) : (takeNumber s).2 <:+ s := by
  obtain ⟨negative, sign, body, rfl, -, same⟩ := takeNumber_sign s
  have same := same [] nofun
  rw [List.append_nil, List.append_nil] at same
  rw [same]
  exact (takeUnsigned_suffix negative body).trans (List.suffix_append sign body)

theorem readNumber_stop (s : Chars) : stop (readNumber s) <:+ s := by
  unfold readNumber
  dsimp only
  split
  · exact readSymbol_stop s
  split
  · exact takeNumber_suffix s
  split
  · exact takeNumber_suffix s
  · exact takeNumber_suffix s

end Atoms

section Forms

theorem skip_suffix (inComment : Bool) (s : Chars) : skip inComment s <:+ s := by
  induction s generalizing inComment with
  | nil => exact List.suffix_rfl
  | cons c s ih =>
    have behind {t : Chars} (inner : t <:+ s) : t <:+ c :: s := inner.trans (List.suffix_cons c s)
    rw [skip]
    split
    · exact behind (ih _)
    split
    · exact behind (ih _)
    split
    · exact behind (ih _)
    · exact List.suffix_rfl

/-- A reader of lists is given what is behind the parenthesis, and may point at the parenthesis. -/
theorem readForm_stop {list : Chars → Reader Expr} (lists : ∀ s, stop (list s) <:+ '(' :: s)
    (s : Chars) : stop (readForm list s) <:+ s := by
  have front := skip_suffix false s
  unfold readForm
  split
  · exact List.nil_suffix
  · next c rest same =>
    rw [same] at front
    have behind : rest <:+ s := (List.suffix_cons c rest).trans front
    split
    · next opens =>
      subst opens
      exact (lists rest).trans front
    split
    · exact (readString_stop rest).trans behind
    split
    · exact (readKeyword_stop rest).trans behind
    split
    · exact (readNumber_stop (c :: rest)).trans front
    · exact (readSymbol_stop (c :: rest)).trans front

theorem readItems_stop {item : Chars → Reader Expr} (items : ∀ s, stop (item s) <:+ s)
    (opened : Chars) (fuel : Nat) (s : Chars) (inside : s <:+ opened) :
    stop (readItems item opened fuel s) <:+ opened := by
  induction fuel generalizing s with
  | zero => exact List.suffix_rfl
  | succ fuel ih =>
    have front := (skip_suffix false s).trans inside
    rw [readItems]
    split
    · exact List.suffix_rfl
    · next c rest same =>
      rw [same] at front
      split
      · exact (List.suffix_cons c rest).trans front
      · have one := (items (c :: rest)).trans front
        split
        · next e failed =>
          rw [failed] at one
          exact one
        · next expr t first =>
          rw [first] at one
          have stopped := stop_map (readItems item opened fuel t) (expr :: ·)
          rw [stopped]
          exact ih t one

theorem readList_stop {item : Chars → Reader Expr} (items : ∀ s, stop (item s) <:+ s) (s : Chars) :
    stop (readList item s) <:+ '(' :: s := by
  have stopped := stop_map (readItems item ('(' :: s) (s.length + 1) s) Expr.list
  rw [readList, stopped]
  exact readItems_stop items _ _ s (List.suffix_cons _ s)

theorem readExpr_stop (levels : Nat) (s : Chars) : stop (readExpr levels s) <:+ s := by
  induction levels generalizing s with
  | zero => exact readForm_stop (fun s => List.suffix_rfl) s
  | succ levels ih => exact readForm_stop (readList_stop ih) s

theorem readForms_stop {fuel : Nat} {s : Chars} {e : Failure} (failed : readForms fuel s = .error e) :
    e.left <:+ s := by
  induction fuel generalizing s with
  | zero =>
    cases failed
    exact List.suffix_rfl
  | succ fuel ih =>
    have front := skip_suffix false s
    rw [readForms_succ] at failed
    split at failed
    · cases failed
    · next c rest same =>
      rw [same] at front
      split at failed
      · cases failed
        exact front
      · have one := (readExpr_stop maxNesting (c :: rest)).trans front
        split at failed
        · next e' first =>
          rw [first] at one
          cases failed
          exact one
        · next expr t first =>
          rw [first] at one
          cases rest : readForms fuel t with
          | ok forms =>
            rw [rest] at failed
            cases failed
          | error e' =>
            rw [rest] at failed
            cases failed
            exact (ih rest).trans one

end Forms

section Bytes

theorem byteLength_append (s t : Chars) : byteLength (s ++ t) = byteLength s + byteLength t := by
  induction s with
  | nil => simp [byteLength]
  | cons c s ih =>
    simp only [byteLength, List.cons_append, List.foldr_cons] at ih ⊢
    omega

theorem byteLength_pos {s : Chars} (filled : s ≠ []) : 0 < byteLength s := by
  cases s with
  | nil => exact absurd rfl filled
  | cons c s =>
    have whole : byteLength (c :: s) = c.utf8Size + byteLength s := rfl
    have := c.utf8Size_pos
    omega

theorem byteLength_le {s t : Chars} (suffix : s <:+ t) : byteLength s ≤ byteLength t := by
  obtain ⟨front, rfl⟩ := suffix
  rw [byteLength_append]
  exact Nat.le_add_left _ _

theorem utf8ByteSize_ofList (s : Chars) : (String.ofList s).utf8ByteSize = byteLength s := by
  induction s with
  | nil => rfl
  | cons c s ih =>
    rw [String.ofList_cons, String.utf8ByteSize_append, String.utf8ByteSize_singleton, ih]
    rfl

end Bytes

end ResumableScript.Script
