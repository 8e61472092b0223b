import Mathlib.Tactic.Basic
import ResumableScript.Proofs.Script.Cursor
import ResumableScript.Proofs.Script.Position

/-! The scanner's place in its source. A slice is there exactly where there is a boundary between
characters, and the cursor stands at one in front of what a reader has yet to read: what a scan does
to the cursor and comes to is told by the reader, operation by operation. -/
namespace ResumableScript.Script
open Scan

section Slices

theorem sliceFrom?_split {s left : Chars} {index : Nat} (there : sliceFrom? s index = some left) :
    ∃ front, s = front ++ left ∧ byteLength front = index := by
  induction s, index using sliceFrom?.induct with
  | case1 s =>
    rw [sliceFrom?] at there
    cases there
    exact ⟨[], rfl, rfl⟩
  | case2 index =>
    rw [sliceFrom?] at there
    cases there
  | case3 c s index room ih =>
    rw [sliceFrom?, if_pos room] at there
    obtain ⟨front, rfl, bytes⟩ := ih there
    have whole : byteLength (c :: front) = c.utf8Size + byteLength front := rfl
    exact ⟨c :: front, rfl, by omega⟩
  | case4 c s index room =>
    rw [sliceFrom?, if_neg room] at there
    cases there

theorem sliceFrom?_front (front s : Chars) : sliceFrom? (front ++ s) (byteLength front) = some s := by
  induction front with
  | nil =>
    cases s <;> rfl
  | cons c front ih =>
    have whole : byteLength (c :: front) = c.utf8Size + byteLength front := rfl
    have positive : byteLength (c :: front) ≠ 0 := by
      have := c.utf8Size_pos
      omega
    obtain ⟨index, step⟩ := Nat.exists_eq_succ_of_ne_zero positive
    have left : index + 1 - c.utf8Size = byteLength front := by omega
    rw [step, List.cons_append, sliceFrom?, if_pos (by omega), left, ih]

theorem slice?_middle (front taken s : Chars) :
    slice? (front ++ taken ++ s) (byteLength front) (byteLength (front ++ taken)) = some taken := by
  have before : (front ++ taken ++ s).take ((front ++ taken ++ s).length - s.length) =
      front ++ taken := by
    rw [List.length_append, Nat.add_sub_cancel]
    exact List.take_left
  rw [slice?, sliceFrom?_front, Option.bind_some, before]
  exact sliceFrom?_front front taken

theorem sliceFrom?_eq_some_iff {s left : Chars} {index : Nat} :
    sliceFrom? s index = some left ↔ ∃ front, s = front ++ left ∧ byteLength front = index := by
  refine ⟨sliceFrom?_split, ?_⟩
  rintro ⟨front, rfl, rfl⟩
  exact sliceFrom?_front front left

theorem sliceFrom?_isSome_iff (source : String) (index : Nat) :
    (sliceFrom? source.toList index).isSome ↔ String.Pos.Raw.IsValid source ⟨index⟩ := by
  rw [Option.isSome_iff_exists, String.Pos.Raw.isValid_iff_exists_append]
  constructor
  · rintro ⟨left, there⟩
    obtain ⟨front, whole, bytes⟩ := sliceFrom?_split there
    refine ⟨String.ofList front, String.ofList left, ?_, ?_⟩
    · rw [← String.ofList_append, ← whole, String.ofList_toList]
    · rw [← bytes, ← utf8ByteSize_ofList]
      rfl
  · rintro ⟨front, left, rfl, bytes⟩
    refine ⟨left.toList, sliceFrom?_eq_some_iff.mpr ⟨front.toList, String.toList_append, ?_⟩⟩
    rw [← utf8ByteSize_ofList, String.ofList_toList]
    exact (congrArg String.Pos.Raw.byteIdx bytes).symm

end Slices

/-- The cursor stands before these characters of the source, inside of so many lists. -/
structure Cursor.At (sheet : Sheet) (depth : Nat) (s : Chars) (c : Cursor) : Prop where
  depth_eq : c.depth = depth
  split : ∃ front, sheet.source.toList = front ++ s ∧ c.index = byteLength front

/-- A cursor is set to a place between characters of the source only, an expression that is read takes
up a byte, and behind a list as many lists stand around the cursor as before it. -/
def Event.Safe (source : String) : Event → Prop
  | moved c => c.index ≤ source.utf8ByteSize ∧ String.Pos.Raw.IsValid source ⟨c.index⟩
  | expression before after read => read = true → before.index < after.index
  | list before after _ => after.depth = before.depth

/-- A result is that of a reader, and the cursor stands where the reader has stopped. -/
def Agrees {α : Type} (sheet : Sheet) (depth : Nat) :
    Reader α → Except Halt α → Cursor → Prop
  | .ok (a, left), result, c => result = .ok a ∧ c.At sheet depth left
  | .error e, result, c => (∃ s, c.At sheet depth s) ∧
      ∃ place : Cursor, place.At sheet depth e.left ∧ result = .error (.fault ⟨e.fault, place.index⟩)

/-- Before these characters a scan comes to what a reader comes to, and is safe all along. -/
def Follows {α : Type} (sheet : Sheet) (depth : Nat) (x : Scan α) (s : Chars) (got : Reader α) : Prop :=
  ∀ c, c.At sheet depth s →
    (∀ event ∈ (x sheet c).events, event.Safe sheet.source) ∧
      Agrees sheet depth got (x sheet c).result (x sheet c).cursor

variable {α γ : Type} {sheet : Sheet} {depth : Nat} {s t : Chars} {place : Cursor}

section Places

theorem Cursor.At.rest (here : place.At sheet depth s) :
    sliceFrom? sheet.source.toList place.index = some s := by
  obtain ⟨front, whole, index⟩ := here.split
  exact sliceFrom?_eq_some_iff.mpr ⟨front, whole, index.symm⟩

theorem Cursor.At.valid (here : place.At sheet depth s) :
    place.index ≤ sheet.source.utf8ByteSize ∧ String.Pos.Raw.IsValid sheet.source ⟨place.index⟩ := by
  have valid : String.Pos.Raw.IsValid sheet.source ⟨place.index⟩ :=
    (sliceFrom?_isSome_iff _ _).mp (by rw [here.rest]; rfl)
  exact ⟨valid.le_rawEndPos, valid⟩

theorem Cursor.At.index_eq (here : place.At sheet depth s) :
    place.index = byteLength sheet.source.toList - byteLength s := by
  obtain ⟨front, whole, index⟩ := here.split
  rw [whole, byteLength_append, Nat.add_sub_cancel, index]

theorem Cursor.At.length_le (here : place.At sheet depth s) : s.length ≤ sheet.source.length := by
  obtain ⟨front, whole, -⟩ := here.split
  rw [← String.length_toList, whole, List.length_append]
  omega

theorem Cursor.At.index_lt {there : Cursor} (here : place.At sheet depth s)
    (behind : there.At sheet depth t) (shorter : t.length < s.length) : place.index < there.index := by
  obtain ⟨front, whole, index⟩ := here.split
  obtain ⟨front', whole', index'⟩ := behind.split
  have suffix : t <:+ s :=
    List.suffix_of_suffix_length_le ⟨front', whole'.symm⟩ ⟨front, whole.symm⟩ (Nat.le_of_lt shorter)
  obtain ⟨taken, rfl⟩ := suffix
  have same : front' = front ++ taken :=
    List.append_cancel_right (whole'.symm.trans (whole.trans (List.append_assoc _ _ _).symm))
  have filled : taken ≠ [] := by
    rintro rfl
    exact Nat.lt_irrefl _ shorter
  have := byteLength_pos filled
  rw [index, index', same, byteLength_append]
  omega

theorem Cursor.At.behind {c : Char} (here : place.At sheet depth (c :: s)) :
    Cursor.At sheet depth s { place with index := place.index + c.utf8Size } := by
  obtain ⟨front, whole, index⟩ := here.split
  refine ⟨here.depth_eq, front ++ [c], ?_, ?_⟩
  · rw [whole, List.append_assoc, List.singleton_append]
  · rw [byteLength_append, index]
    rfl

theorem Cursor.At.taken {there : Cursor} {taken : Chars} (here : place.At sheet depth (taken ++ s))
    (behind : there.At sheet depth s) :
    slice? sheet.source.toList place.index there.index = some taken := by
  obtain ⟨front, whole, index⟩ := here.split
  obtain ⟨front', whole', index'⟩ := behind.split
  rw [← List.append_assoc] at whole
  have same : front' = front ++ taken := List.append_cancel_right (whole'.symm.trans whole)
  rw [whole, index, index', same, slice?_middle]

theorem Cursor.At.atEnd (here : place.At sheet depth s) :
    decide (sheet.source.utf8ByteSize ≤ place.index) = s.isEmpty := by
  obtain ⟨front, whole, index⟩ := here.split
  have bytes := utf8ByteSize_ofList sheet.source.toList
  rw [String.ofList_toList, whole, byteLength_append] at bytes
  cases s with
  | nil =>
    have nothing : byteLength [] = 0 := rfl
    exact decide_eq_true (by omega)
  | cons c s =>
    have := byteLength_pos (List.cons_ne_nil c s)
    exact decide_eq_false (by omega)

theorem Cursor.At.deeper (here : place.At sheet depth s) :
    Cursor.At sheet (depth + 1) s { place with depth := place.depth + 1 } :=
  ⟨congrArg (· + 1) here.depth_eq, here.split⟩

theorem Cursor.At.shallower (here : place.At sheet (depth + 1) s) :
    Cursor.At sheet depth s { place with depth := place.depth - 1 } :=
  ⟨congrArg (· - 1) here.depth_eq, here.split⟩

end Places

section Rules

theorem bind_apply (x : Scan α) (f : α → Scan γ) (c : Cursor) :
    (x >>= f) sheet c =
      match (x sheet c).result with
      | .ok a =>
        let rest := f a sheet (x sheet c).cursor
        { rest with events := (x sheet c).events ++ rest.events }
      | .error halt => ⟨(x sheet c).events, (x sheet c).cursor, .error halt⟩ := rfl

theorem Follows.andThen {x : Scan α} {f : α → Scan γ} {first : Reader α} {got : Reader γ}
    (h : Follows sheet depth x s first)
    (ok : ∀ a t, first = .ok (a, t) → Follows sheet depth (f a) t got)
    (error : ∀ e, first = .error e → got = .error e) : Follows sheet depth (x >>= f) s got := by
  intro c here
  obtain ⟨safe, agrees⟩ := h c here
  rw [bind_apply]
  cases first with
  | ok pair =>
    obtain ⟨a, t⟩ := pair
    obtain ⟨result, there⟩ := agrees
    obtain ⟨safe', agrees'⟩ := ok a t rfl _ there
    rw [result]
    exact ⟨List.forall_mem_append.mpr ⟨safe, safe'⟩, agrees'⟩
  | error e =>
    rw [error e rfl]
    obtain ⟨stands, place, there, result⟩ := agrees
    rw [result]
    exact ⟨safe, stands, place, there, rfl⟩

theorem Follows.bind {x : Scan α} {f : α → Scan γ} {a : α} {got : Reader γ}
    (first : Follows sheet depth x s (.ok (a, t))) (next : Follows sheet depth (f a) t got) :
    Follows sheet depth (x >>= f) s got := by
  refine first.andThen ?_ nofun
  rintro _ _ ⟨⟩
  exact next

theorem Follows.refused {x : Scan α} {f : α → Scan γ} {fault : SyntaxFault}
    (h : Follows sheet depth x s (fail fault t)) : Follows sheet depth (x >>= f) s (fail fault t) := by
  refine h.andThen nofun ?_
  rintro _ ⟨⟩
  rfl

theorem follows_pure (a : α) : Follows sheet depth (pure a) s (.ok (a, s)) :=
  fun _ here => ⟨List.forall_mem_nil _, rfl, here⟩

theorem follows_cursor {f : Cursor → Scan α} {got : Reader α}
    (next : ∀ place, place.At sheet depth s → Follows sheet depth (f place) s got) :
    Follows sheet depth (cursor >>= f) s got :=
  fun c here => next c here c here

theorem follows_put (there : place.At sheet depth t) :
    Follows sheet depth (put place) s (.ok ((), t)) :=
  fun _ _ => ⟨List.forall_mem_singleton.mpr there.valid, rfl, there⟩

theorem follows_faultAt (fault : SyntaxFault) (there : place.At sheet depth t) :
    Follows sheet depth (faultAt fault place.index : Scan α) s (fail fault t) :=
  fun _ here => ⟨List.forall_mem_nil _, ⟨s, here⟩, place, there, rfl⟩

theorem follows_fault (fault : SyntaxFault) :
    Follows sheet depth (Scan.fault fault : Scan α) s (fail fault s) :=
  follows_cursor fun _ here => follows_faultAt fault here

theorem follows_rest : Follows sheet depth rest s (.ok (s, s)) := by
  intro c here
  unfold rest
  rw [here.rest]
  exact ⟨List.forall_mem_nil _, rfl, here⟩

theorem follows_textFrom {taken : Chars} (start : place.At sheet depth (taken ++ s)) :
    Follows sheet depth (textFrom place.index) s (.ok (taken, s)) := by
  intro c here
  unfold textFrom
  rw [start.taken here]
  exact ⟨List.forall_mem_nil _, rfl, here⟩

theorem follows_atEnd : Follows sheet depth atEnd s (.ok (s.isEmpty, s)) := by
  intro c here
  refine ⟨List.forall_mem_nil _, ?_, here⟩
  rw [← here.atEnd]
  rfl

theorem follows_current : Follows sheet depth current s (.ok (s.head?, s)) :=
  follows_rest.bind (follows_pure _)

theorem follows_next : Follows sheet depth next s (.ok (s.tail.head?, s)) :=
  follows_rest.bind (follows_pure _)

theorem follows_advance (c : Char) : Follows sheet depth advance (c :: s) (.ok ((), s)) :=
  follows_current.bind (follows_cursor fun _ here => follows_put here.behind)

theorem follows_backTo (start : place.At sheet depth s) :
    Follows sheet depth (backTo place.index) t (.ok ((), s)) :=
  follows_cursor fun _ here => follows_put ⟨here.depth_eq, start.split⟩

end Rules

section Depth

theorem attempt_ok {x : Scan α} {c : Cursor} {a : α} (result : (x sheet c).result = .ok a) :
    attempt x sheet c = ⟨(x sheet c).events, (x sheet c).cursor, .ok (.ok a)⟩ := by
  unfold attempt
  dsimp only
  rw [result]

theorem attempt_fault {x : Scan α} {c : Cursor} {e : SyntaxError}
    (result : (x sheet c).result = .error (.fault e)) :
    attempt x sheet c = ⟨(x sheet c).events, (x sheet c).cursor, .ok (.error e)⟩ := by
  unfold attempt
  dsimp only
  rw [result]

theorem follows_inside {x : Scan Expr} {got : Reader Expr}
    (inner : Follows sheet (depth + 1) x s got) : Follows sheet depth (inside x) s got := by
  intro c here
  obtain ⟨safe, agrees⟩ := inner _ here.deeper
  -- The settings on the way in and out are safe, too, wherever the inner scan has stopped.
  have framed {t : Chars} {after : Cursor} (there : after.At sheet (depth + 1) t) :
      ∀ event ∈ Event.moved { c with depth := c.depth + 1 } ::
        ((x sheet { c with depth := c.depth + 1 }).events ++
          [.moved { after with depth := after.depth - 1 }]), event.Safe sheet.source :=
    List.forall_mem_cons.mpr ⟨here.deeper.valid, List.forall_mem_append.mpr
      ⟨safe, List.forall_mem_singleton.mpr there.shallower.valid⟩⟩
  cases got with
  | ok pair =>
    obtain ⟨result, there⟩ := agrees
    have whole := attempt_ok result
    simp only [inside, bind_apply, cursor, put, whole, List.nil_append, List.singleton_append]
    exact ⟨framed there, rfl, there.shallower⟩
  | error e =>
    obtain ⟨⟨t, there⟩, place, fault, result⟩ := agrees
    have whole := attempt_fault result
    simp only [inside, bind_apply, cursor, put, whole, List.nil_append, List.singleton_append]
    -- The place of the fault is kept; only the count of lists around it is another.
    exact ⟨framed there, ⟨t, there.shallower⟩, { place with depth := place.depth - 1 },
      fault.shallower, rfl⟩

end Depth

section Notes

theorem Agrees.depth_eq {got : Reader α} {result : Except Halt α}
    (agrees : Agrees sheet depth got result place) : place.depth = depth := by
  cases got with
  | ok pair => exact agrees.2.depth_eq
  | error e =>
    obtain ⟨⟨_, there⟩, -⟩ := agrees
    exact there.depth_eq

theorem follows_noted {event : Cursor → Cursor → Bool → Event} {x : Scan α} {got : Reader α}
    (h : Follows sheet depth x s got)
    (note : ∀ before result after, Cursor.At sheet depth s before →
      Agrees sheet depth got result after → (event before after result.isOk).Safe sheet.source) :
    Follows sheet depth (noted event x) s got := by
  intro c here
  obtain ⟨safe, agrees⟩ := h c here
  have last := note c _ _ here agrees
  exact ⟨List.forall_mem_append.mpr ⟨safe, List.forall_mem_singleton.mpr last⟩, agrees⟩

theorem follows_noted_list {x : Scan α} {got : Reader α} (h : Follows sheet depth x s got) :
    Follows sheet depth (noted .list x) s got :=
  follows_noted h fun _ _ _ here agrees => agrees.depth_eq.trans here.depth_eq.symm

theorem follows_noted_expression {x : Scan α} {got : Reader α} (h : Follows sheet depth x s got)
    (consumed : ∀ a t, got = .ok (a, t) → t.length < s.length) :
    Follows sheet depth (noted .expression x) s got := by
  refine follows_noted h fun before result after here agrees read => ?_
  cases got with
  | ok pair => exact here.index_lt agrees.2 (consumed pair.1 pair.2 rfl)
  | error e =>
    obtain ⟨-, _, -, refused⟩ := agrees
    rw [refused] at read
    cases read

end Notes

section Loops

/-- What a round of a loop comes to, which for the whole loop is `got`: less of the source with the
same reading before it, the end of the loop, or a fault. -/
def Round (got : Chars → α → Reader γ) (s : Chars) (a : α) : Reader (α ⊕ γ) → Prop
  | .ok (.inl a', t) => t.length < s.length ∧ got s a = got t a'
  | .ok (.inr c, t) => got s a = .ok (c, t)
  | .error e => got s a = .error e

theorem follows_iterate {body : α → Scan (α ⊕ γ)} {got : Chars → α → Reader γ} {bound : Nat}
    (rounds : ∀ s a, s.length < bound →
      ∃ step, Follows sheet depth (body a) s step ∧ Round got s a step)
    (fuel : Nat) (s : Chars) (a : α) (short : s.length < bound) (enough : s.length < fuel) :
    Follows sheet depth (iterate body fuel a) s (got s a) := by
  -- Each round uses one up and leaves fewer characters, so that the rounds outlast them.
  induction fuel generalizing s a with
  | zero => cases enough
  | succ fuel ih =>
    obtain ⟨step, first, round⟩ := rounds s a short
    refine first.andThen ?_ ?_
    · rintro (a' | c) t rfl
      · obtain ⟨shorter, same⟩ := round
        rw [same]
        exact ih t a' (by omega) (by omega)
      · have done : got s a = .ok (c, t) := round
        rw [done]
        exact follows_pure c
    · rintro e rfl
      exact round

/-- A loop whose rounds take up characters needs no more rounds than there are characters. -/
theorem follows_loop (enough : sheet.source.length < sheet.rounds) {body : α → Scan (α ⊕ γ)}
    {got : Chars → α → Reader γ} {bound : Nat}
    (rounds : ∀ s a, s.length < bound →
      ∃ step, Follows sheet depth (body a) s step ∧ Round got s a step)
    (s : Chars) (a : α) (short : s.length < bound) :
    Follows sheet depth (loop body a) s (got s a) := fun c here =>
  follows_iterate rounds sheet.rounds s a short (Nat.lt_of_le_of_lt here.length_le enough) c here

theorem follows_push {item : Scan Expr} {read : Chars → Reader Expr} (consumes : Consumes read)
    {got : Chars → List Expr → Reader γ} {front : List Expr}
    (one : Follows sheet depth item t (read t)) (near : t.length ≤ s.length)
    (next : got s front = (read t).bind fun taken => got taken.2 (front ++ [taken.1])) :
    ∃ step, Follows sheet depth (item >>= fun expr => pure (.inl (front ++ [expr]))) t step ∧
      Round got s front step := by
  cases first : read t with
  | error e =>
    rw [first] at one next
    exact ⟨fail e.fault e.left, one.refused, next⟩
  | ok taken =>
    have fewer := consumes t taken.1 taken.2 first
    rw [first] at one next
    exact ⟨_, one.bind (follows_pure _), Nat.lt_of_lt_of_le fewer near, next⟩

end Loops

end ResumableScript.Script
