import ResumableScript.Proofs.Double.Integers
import ResumableScript.Script.Builtin

/-! Comparisons of integers. Each goes over the neighbours and gives a truth value. Equality is that of
integers; order is that of the doubles which they are rounded to, and so that of integers as far as
neighbours that differ become doubles that do. -/
namespace ResumableScript.Builtin

open Double

inductive Orders : Builtin → (Int → Int → Prop) → Prop where
  | less : Orders less (· < ·)
  | greater : Orders greater (· > ·)
  | lessOrEqual : Orders lessOrEqual (· ≤ ·)
  | greaterOrEqual : Orders greaterOrEqual (· ≥ ·)

def Tests (self : Builtin) (numbers : List Int64) (p : Prop) : Prop :=
  ∃ answer : Bool, apply self (numbers.map .int) [] = .ok (.value (.bool answer)) ∧ (answer = true ↔ p)

def Holds (self : Builtin) (a b : Int64) : Prop :=
  apply self [.int a, .int b] [] = .ok (.value (.bool true))

def ExactlyOne (p q r : Prop) : Prop := p ∧ ¬ q ∧ ¬ r ∨ ¬ p ∧ q ∧ ¬ r ∨ ¬ p ∧ ¬ q ∧ r

/-- Integers that are told apart by their doubles, if they differ at all. -/
def Apart (a b : Int64) : Prop := rounded a.toInt = rounded b.toInt → a = b

theorem apart_exact {a b : Int64} (left : a.toInt.natAbs ≤ 2 ^ 53) (right : b.toInt.natAbs ≤ 2 ^ 53) :
    Apart a b := by
  intro same
  rw [rounded_exact left, rounded_exact right] at same
  exact Int64.toInt_inj.mp same

section Neighbours

variable {test : Value → Value → Result Bool} {related : Int64 → Int64 → Prop}

theorem allNeighbours_integers
    (each : ∀ a b, ∃ answer, test (.int a) (.int b) = .ok answer ∧ (answer = true ↔ related a b))
    (numbers : List Int64) :
    ∃ answer, allNeighbours test (numbers.map .int) = .ok answer ∧
      (answer = true ↔ numbers.IsChain related) := by
  induction numbers with
  | nil => exact ⟨true, rfl, by simp⟩
  | cons a rest ih =>
    cases rest with
    | nil => exact ⟨true, rfl, by simp⟩
    | cons b rest =>
      obtain ⟨first, tested, holds⟩ := each a b
      obtain ⟨later, others, chain⟩ := ih
      refine ⟨first && later, ?_, by simp [holds, chain]⟩
      simp only [List.map_cons] at others ⊢
      rw [allNeighbours, tested]
      cases first
      · rfl
      · exact others

theorem pairwise_tests {self : Builtin} {numbers : List Int64}
    (calls : apply self (numbers.map .int) [] = (pairwise test (numbers.map .int)).map .value)
    (each : ∀ a b, ∃ answer, test (.int a) (.int b) = .ok answer ∧ (answer = true ↔ related a b))
    (several : 2 ≤ numbers.length) : Tests self numbers (numbers.IsChain related) := by
  obtain ⟨answer, given, holds⟩ := allNeighbours_integers each numbers
  have enough : ¬ (numbers.map Value.int).length < 2 := by
    rw [List.length_map]
    omega
  exact ⟨answer, by rw [calls, pairwise, if_neg enough, given]; rfl, holds⟩

end Neighbours

theorem Tests.congr {self : Builtin} {numbers : List Int64} {p q : Prop} (h : Tests self numbers p)
    (same : p ↔ q) : Tests self numbers q := by
  obtain ⟨answer, given, holds⟩ := h
  exact ⟨answer, given, holds.trans same⟩

theorem Tests.holds_iff {self : Builtin} {a b : Int64} {p : Prop} (h : Tests self [a, b] p) :
    Holds self a b ↔ p := by
  obtain ⟨answer, given, holds⟩ := h
  simp only [List.map_cons, List.map_nil] at given
  rw [← holds, Holds, given]
  simp

theorem equal_tests {numbers : List Int64} (several : 2 ≤ numbers.length) :
    Tests equal numbers (numbers.IsChain (· = ·)) :=
  pairwise_tests rfl (fun a b => ⟨a == b, rfl, by simp⟩) several

/-- A comparison that converts integers to doubles compares their roundings. -/
theorem compareValues_integers {self : Builtin} {texts : String → String → Bool}
    {doubles : Float → Float → Bool} {order : Int → Int → Prop}
    (agrees : ∀ {x y : Float} {m n : Int}, Denotes x m → Denotes y n → (doubles x y = true ↔ order m n))
    (a b : Int64) :
    ∃ answer, compareValues self texts doubles (.int a) (.int b) = .ok answer ∧
      (answer = true ↔ order (rounded a.toInt) (rounded b.toInt)) :=
  ⟨_, rfl, agrees (denotes_word a) (denotes_word b)⟩

theorem order_tests {self : Builtin} {order : Int → Int → Prop} (orders : Orders self order)
    {numbers : List Int64} (several : 2 ≤ numbers.length) :
    Tests self numbers (numbers.IsChain fun a b => order (rounded a.toInt) (rounded b.toInt)) := by
  cases orders with
  | less =>
    refine pairwise_tests rfl (compareValues_integers fun hx hy => ?_) several
    rw [decide_eq_true_iff, hx.lt_iff hy]
  | greater =>
    refine pairwise_tests rfl (compareValues_integers fun hx hy => ?_) several
    rw [decide_eq_true_iff, hy.lt_iff hx]
  | lessOrEqual =>
    refine pairwise_tests rfl (compareValues_integers fun hx hy => ?_) several
    rw [decide_eq_true_iff, hx.le_iff hy]
  | greaterOrEqual =>
    refine pairwise_tests rfl (compareValues_integers fun hx hy => ?_) several
    rw [decide_eq_true_iff, hy.le_iff hx]

/-- Rounding never turns the order around, so that it is lost only where it makes integers the same. -/
theorem Apart.order_iff {a b : Int64} (apart : Apart a b) {self : Builtin} {order : Int → Int → Prop}
    (orders : Orders self order) :
    order (rounded a.toInt) (rounded b.toInt) ↔ order a.toInt b.toInt := by
  have below := @rounded_mono a.toInt b.toInt
  have above := @rounded_mono b.toInt a.toInt
  have same : rounded a.toInt = rounded b.toInt → a.toInt = b.toInt :=
    fun equal => Int64.toInt_inj.mpr (apart equal)
  cases orders <;> omega

theorem isChain_congr {α : Type} {held r s : α → α → Prop} (same : ∀ a b, held a b → (r a b ↔ s a b))
    {items : List α} (chain : items.IsChain held) : items.IsChain r ↔ items.IsChain s := by
  induction chain with
  | nil => simp
  | singleton => simp
  | cons_cons held _ ih => simp only [List.isChain_cons_cons, same _ _ held, ih]

theorem pair_tests {self : Builtin} {order : Int → Int → Prop} (orders : Orders self order) (a b : Int64) :
    Holds self a b ↔ order (rounded a.toInt) (rounded b.toInt) := by
  rw [(order_tests orders (Nat.le_refl [a, b].length)).holds_iff]
  simp

theorem pair_equal (a b : Int64) : Holds equal a b ↔ a.toInt = b.toInt := by
  rw [(equal_tests (Nat.le_refl [a, b].length)).holds_iff, Int64.toInt_inj]
  simp

theorem trichotomy_iff (a b : Int64) :
    ExactlyOne (Holds less a b) (Holds equal a b) (Holds greater a b) ↔ Apart a b := by
  have below := @rounded_mono a.toInt b.toInt
  have above := @rounded_mono b.toInt a.toInt
  simp only [ExactlyOne, pair_tests .less, pair_tests .greater, pair_equal, Apart, ← Int64.toInt_inj]
  omega

theorem lessOrEqual_iff (a b : Int64) :
    (Holds lessOrEqual a b ↔ Holds less a b ∨ Holds equal a b) ↔ Apart a b := by
  have below := @rounded_mono a.toInt b.toInt
  have above := @rounded_mono b.toInt a.toInt
  simp only [pair_tests .less, pair_tests .lessOrEqual, pair_equal, Apart, ← Int64.toInt_inj]
  omega

/-- Equality of integers is exact. The order is that of their doubles, which is the order of integers
where neighbours that differ have doubles that do. Just there one integer is less than another, equal
to it or greater, and less or equal if one of the two. Up to 53 digits all integers are such. -/
theorem integers_compared {numbers : List Int64} (several : 2 ≤ numbers.length) :
    Tests equal numbers (numbers.IsChain (· = ·)) ∧
    (∀ self order, Orders self order →
      Tests self numbers (numbers.IsChain fun a b => order (rounded a.toInt) (rounded b.toInt)) ∧
      (numbers.IsChain Apart → Tests self numbers (numbers.IsChain fun a b => order a.toInt b.toInt))) ∧
    ∀ a ∈ numbers, ∀ b ∈ numbers,
      (ExactlyOne (Holds less a b) (Holds equal a b) (Holds greater a b) ↔ Apart a b) ∧
      ((Holds lessOrEqual a b ↔ Holds less a b ∨ Holds equal a b) ↔ Apart a b) ∧
      (a.toInt.natAbs ≤ 2 ^ 53 → b.toInt.natAbs ≤ 2 ^ 53 → Apart a b) := by
  refine ⟨equal_tests several, fun self order orders => ⟨order_tests orders several, ?_⟩,
    fun a _ b _ => ⟨trichotomy_iff a b, lessOrEqual_iff a b, apart_exact⟩⟩
  exact fun chain => (order_tests orders several).congr
    (isChain_congr (fun a b apart => apart.order_iff orders) chain)

/-- Three integers in increasing order. -/
theorem integers_compared_increasing :
    2 ≤ [(-1 : Int64), 2, 3].length ∧ Orders less (· < ·) ∧ [(-1 : Int64), 2, 3].IsChain Apart ∧
      Tests less [-1, 2, 3] ([(-1 : Int64), 2, 3].IsChain fun a b => a.toInt < b.toInt) ∧
      ExactlyOne (Holds less 2 3) (Holds equal 2 3) (Holds greater 2 3) := by
  have several : 2 ≤ [(-1 : Int64), 2, 3].length := by decide
  obtain ⟨-, ordered, pairs⟩ := integers_compared several
  have first : Apart (-1) 2 := (pairs (-1) (by decide) 2 (by decide)).2.2 (by decide) (by decide)
  have second : Apart 2 3 := (pairs 2 (by decide) 3 (by decide)).2.2 (by decide) (by decide)
  have chain : [(-1 : Int64), 2, 3].IsChain Apart := by simp [first, second]
  exact ⟨several, .less, chain, (ordered less _ .less).2 chain,
    (pairs 2 (by decide) 3 (by decide)).1.mpr second⟩

/-- Behind 53 digits comes an integer that is neither less nor equal nor greater than the next, and the
next is less or equal to it. -/
theorem odd_integer_lost :
    Int64.toInt 9007199254740992 < Int64.toInt 9007199254740993 ∧
      ¬ Holds less 9007199254740992 9007199254740993 ∧
      ¬ ExactlyOne (Holds less 9007199254740992 9007199254740993)
        (Holds equal 9007199254740992 9007199254740993)
        (Holds greater 9007199254740992 9007199254740993) ∧
      Holds lessOrEqual 9007199254740993 9007199254740992 ∧
      ¬ (Holds less 9007199254740993 9007199254740992 ∨ Holds equal 9007199254740993 9007199254740992) := by
  simp only [ExactlyOne, pair_tests .less, pair_tests .greater, pair_tests .lessOrEqual, pair_equal]
  decide

end ResumableScript.Builtin
