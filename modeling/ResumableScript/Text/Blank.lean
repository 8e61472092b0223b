/-! White space as Unicode's property White_Space gives it, and trimming by it. Zero-width space
and the byte-order mark are not in it. -/
namespace ResumableScript.Text

/-- The 25 characters of White_Space. -/
def isBlank (c : Char) : Bool :=
  let n := c.toNat
  (9 ≤ n && n ≤ 13) || n == 0x20 || n == 0x85 || n == 0xA0 || n == 0x1680 ||
    (0x2000 ≤ n && n ≤ 0x200A) || n == 0x2028 || n == 0x2029 || n == 0x202F || n == 0x205F ||
    n == 0x3000

def trimRight : List Char → List Char
  | [] => []
  | c :: s =>
    match trimRight s with
    | [] => if isBlank c then [] else [c]
    | d :: t => c :: d :: t

def trim (s : List Char) : List Char :=
  trimRight (s.dropWhile isBlank)

def trimmed (s : String) : String :=
  String.ofList (trim s.toList)

def isAllBlank (s : String) : Bool :=
  s.toList.all isBlank

theorem trimRight_prefix (s : List Char) : trimRight s <+: s := by
  induction s with
  | nil => exact List.prefix_rfl
  | cons c s ih =>
    rw [trimRight]
    split
    · split
      · exact List.nil_prefix
      · exact ⟨s, rfl⟩
    · next d t same =>
      rw [same] at ih
      exact List.cons_prefix_cons.mpr ⟨rfl, ih⟩

theorem exists_trimRight (s : List Char) :
    ∃ gap, s = trimRight s ++ gap ∧ ∀ c ∈ gap, isBlank c = true := by
  induction s with
  | nil => exact ⟨[], rfl, nofun⟩
  | cons c s ih =>
    obtain ⟨gap, same, blank⟩ := ih
    rw [trimRight]
    split
    · next nothing =>
      rw [nothing, List.nil_append] at same
      subst same
      split
      · next space => exact ⟨c :: s, rfl, List.forall_mem_cons.mpr ⟨space, blank⟩⟩
      · exact ⟨s, rfl, blank⟩
    · next d t kept =>
      rw [kept] at same
      exact ⟨gap, congrArg (c :: ·) same, blank⟩

theorem trimRight_eq_nil_iff (s : List Char) : trimRight s = [] ↔ ∀ c ∈ s, isBlank c = true := by
  induction s with
  | nil => simp [trimRight]
  | cons c s ih =>
    rw [trimRight]
    split <;> rename_i h
    · have rest := ih.mp h
      by_cases hc : isBlank c = true
      · simp only [hc, if_true, true_iff]
        intro d hd
        rcases List.mem_cons.mp hd with rfl | hd
        · exact hc
        · exact rest d hd
      · simp [hc]
    · simp only [reduceCtorEq, false_iff]
      intro all
      have := ih.mpr fun d hd => all d (List.mem_cons_of_mem _ hd)
      simp [this] at h

theorem trimRight_eq_self {s : List Char} (bare : ∀ c ∈ s, isBlank c = false) : trimRight s = s := by
  induction s with
  | nil => rfl
  | cons c s ih =>
    have rest := ih fun d hd => bare d (List.mem_cons_of_mem c hd)
    rw [trimRight, rest]
    cases s with
    | nil => simp [bare c]
    | cons d t => rfl

theorem trim_eq_self {s : List Char} (bare : ∀ c ∈ s, isBlank c = false) : trim s = s := by
  cases s with
  | nil => rfl
  | cons c s =>
    rw [trim, List.dropWhile_cons_of_neg (by simp [bare c])]
    exact trimRight_eq_self bare

theorem trimRight_append {after : List Char} (blank : ∀ c ∈ after, isBlank c = true) (s : List Char) :
    trimRight (s ++ after) = trimRight s := by
  induction s with
  | nil => exact (trimRight_eq_nil_iff after).mpr blank
  | cons c s ih => rw [List.cons_append, trimRight, trimRight, ih]

theorem trim_framed {before after : List Char} (front : ∀ c ∈ before, isBlank c = true)
    (back : ∀ c ∈ after, isBlank c = true) (s : List Char) : trim (before ++ s ++ after) = trim s := by
  rw [List.append_assoc, trim, List.dropWhile_append_of_pos front, trim]
  induction s with
  | nil =>
    have nothing : (after ++ []).dropWhile isBlank = [] := List.dropWhile_append_of_pos back
    rw [List.append_nil] at nothing
    rw [List.nil_append, nothing, List.dropWhile_nil]
  | cons c s ih =>
    by_cases blank : isBlank c = true
    · rw [List.cons_append, List.dropWhile_cons_of_pos blank, List.dropWhile_cons_of_pos blank]
      exact ih
    · rw [List.cons_append, List.dropWhile_cons_of_neg blank, List.dropWhile_cons_of_neg blank]
      exact trimRight_append back (c :: s)

theorem exists_trim (s : List Char) :
    ∃ before after, s = before ++ trim s ++ after ∧ (∀ c ∈ before, isBlank c = true) ∧
      ∀ c ∈ after, isBlank c = true := by
  obtain ⟨after, same, blank⟩ := exists_trimRight (s.dropWhile isBlank)
  refine ⟨s.takeWhile isBlank, after, ?_, List.all_eq_true.mp List.all_takeWhile, blank⟩
  rw [List.append_assoc, trim, ← same, List.takeWhile_append_dropWhile]

theorem trim_eq_nil_iff (s : List Char) : trim s = [] ↔ ∀ c ∈ s, isBlank c = true := by
  constructor
  · intro nothing
    obtain ⟨before, after, same, front, back⟩ := exists_trim s
    rw [nothing, List.append_nil] at same
    rw [same]
    exact List.forall_mem_append.mpr ⟨front, back⟩
  · intro blank
    have framed := trim_framed blank (List.forall_mem_nil _) []
    rwa [List.append_nil, List.append_nil] at framed

section Packed

theorem isAllBlank_iff {s : String} : isAllBlank s = true ↔ ∀ c ∈ s.toList, isBlank c = true :=
  List.all_eq_true

theorem trimmed_framed {before after : String} (front : isAllBlank before = true)
    (back : isAllBlank after = true) (s : String) : trimmed (before ++ s ++ after) = trimmed s := by
  rw [trimmed, String.toList_append, String.toList_append,
    trim_framed (isAllBlank_iff.mp front) (isAllBlank_iff.mp back), trimmed]

theorem exists_trimmed (s : String) :
    ∃ before after, s = before ++ trimmed s ++ after ∧ isAllBlank before = true ∧
      isAllBlank after = true := by
  obtain ⟨before, after, same, front, back⟩ := exists_trim s.toList
  refine ⟨String.ofList before, String.ofList after, ?_, ?_, ?_⟩
  · rw [trimmed, ← String.ofList_append, ← String.ofList_append, ← same, String.ofList_toList]
  · rw [isAllBlank_iff, String.toList_ofList]
    exact front
  · rw [isAllBlank_iff, String.toList_ofList]
    exact back

theorem trimmed_eq_empty_iff {s : String} : trimmed s = "" ↔ isAllBlank s = true := by
  rw [isAllBlank_iff, ← trim_eq_nil_iff, trimmed]
  exact String.ofList_eq_empty_iff

end Packed

end ResumableScript.Text
