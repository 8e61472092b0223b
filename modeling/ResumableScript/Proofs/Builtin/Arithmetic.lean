import Mathlib.Algebra.Order.Ring.Int
import Mathlib.Tactic.Basic
import ResumableScript.Script.Builtin

/-! Arithmetic on integers. A call goes from left to right and checks every result on the way, so that
it gives the exact result or raises an exception, and never one that has wrapped. A remainder needs
no check: moving it by the divisor leads towards zero and past it, not away from it. -/
namespace ResumableScript.Builtin

def Fits (n : Int) : Prop := Int64.minValue.toInt ≤ n ∧ n ≤ Int64.maxValue.toInt

def overflow : ScriptException := ⟨"OverflowError", "integer overflow"⟩

theorem fits_iff (n : Int) : Fits n ↔ -2 ^ 63 ≤ n ∧ n < 2 ^ 63 := by
  simp only [Fits, Int64.toInt_minValue, Int64.toInt_maxValue]
  omega

theorem fits_toInt (n : Int64) : Fits n.toInt := ⟨n.minValue_le_toInt, n.toInt_le⟩

theorem toInt_ofInt {n : Int} (fits : Fits n) : (Int64.ofInt n).toInt = n := by
  obtain ⟨low, high⟩ := (fits_iff n).mp fits
  exact Int64.toInt_ofInt_of_le low high

section Folds

/-- A call comes to the exact result if the results on the way fit, and to an overflow otherwise. -/
structure Exact {α : Type} (called : Result α) (given : Int64 → α) (partials : List Int)
    (exact : Int) : Prop where
  fits : (∀ n ∈ partials, Fits n) → ∃ r : Int64, called = .ok (given r) ∧ r.toInt = exact
  overflows : called = .error overflow ↔ ∃ n ∈ partials, ¬ Fits n

theorem Exact.map {α γ : Type} {called : Result α} {given : Int64 → α} {partials : List Int}
    {exact : Int} (h : Exact called given partials exact) (f : α → γ) :
    Exact (called.map f) (f ∘ given) partials exact := by
  constructor
  · intro fits
    obtain ⟨r, ok, value⟩ := h.fits fits
    exact ⟨r, by rw [ok]; rfl, value⟩
  · rw [← h.overflows]
    cases called <;> simp [Except.map]

theorem checked_fits {n : Int} (fits : Fits n) : checked n = .ok (.int (Int64.ofInt n)) := if_pos fits

theorem checked_overflow {n : Int} (wide : ¬ Fits n) : checked n = .error overflow := if_neg wide

theorem exact_checked (n : Int) : Exact (checked n) .int [n] n := by
  by_cases fits : Fits n
  · rw [checked_fits fits]
    constructor
    · exact fun _ => ⟨_, rfl, toInt_ofInt fits⟩
    · simp [fits]
  · rw [checked_overflow fits]
    constructor
    · exact fun all => absurd (all n (List.mem_singleton_self n)) fits
    · simp [fits]

/-- A fold stops where a result does not fit, and otherwise goes on with the exact one. -/
theorem exact_foldlM {step : Value → Value → Result Value} {operation : Int → Int → Int}
    (integers : ∀ x y : Int64, step (.int x) (.int y) = checked (operation x.toInt y.toInt))
    (first : Int64) (rest : List Int64) :
    Exact ((rest.map Value.int).foldlM step (.int first)) .int
      ((rest.map Int64.toInt).scanl operation first.toInt)
      ((rest.map Int64.toInt).foldl operation first.toInt) := by
  induction rest generalizing first with
  | nil =>
    constructor
    · exact fun _ => ⟨first, rfl, rfl⟩
    · simp [pure, Except.pure, fits_toInt]
  | cons next rest ih =>
    simp only [List.map_cons, List.foldlM_cons, List.foldl_cons, List.scanl_cons, integers]
    by_cases fits : Fits (operation first.toInt next.toInt)
    · have later := ih (Int64.ofInt (operation first.toInt next.toInt))
      rw [toInt_ofInt fits] at later
      rw [checked_fits fits]
      constructor
      · exact fun all => later.fits fun n there => all n (List.mem_cons_of_mem _ there)
      · simpa [fits_toInt, bind, Except.bind] using later.overflows
    · have here : operation first.toInt next.toInt ∈
          (rest.map Int64.toInt).scanl operation (operation first.toInt next.toInt) := by
        cases rest <;> simp
      rw [checked_overflow fits]
      constructor
      · exact fun all => absurd (all _ (List.mem_cons_of_mem _ here)) fits
      · exact ⟨fun _ => ⟨_, List.mem_cons_of_mem _ here, fits⟩, fun _ => rfl⟩

theorem foldl_add (rest : List Int) (first : Int) : rest.foldl (· + ·) first = (first :: rest).sum := by
  induction rest generalizing first with
  | nil => simp
  | cons next rest ih => simp [ih, Int.add_assoc]

theorem foldl_mul (rest : List Int) (first : Int) : rest.foldl (· * ·) first = (first :: rest).prod := by
  induction rest generalizing first with
  | nil => simp
  | cons next rest ih => simp [ih, Int.mul_assoc]

theorem foldl_sub (rest : List Int) (first : Int) : rest.foldl (· - ·) first = first - rest.sum := by
  induction rest generalizing first with
  | nil => simp
  | cons next rest ih =>
    simp only [List.foldl_cons, ih, List.sum_cons]
    omega

end Folds

section Remainders

/-- What is left of one number when multiples of another are taken away: smaller than that, and of its
sign. -/
structure IsRemainder (x y r : Int) : Prop where
  small : r.natAbs < y.natAbs
  sign : r = 0 ∨ (r < 0 ↔ y < 0)
  divides : y ∣ x - r

theorem IsRemainder.unique {x y r s : Int} (h : IsRemainder x y r) (h' : IsRemainder x y s) :
    s = r := by
  have apart : y ∣ r - s := by
    obtain ⟨k, whole⟩ := h.divides
    obtain ⟨l, whole'⟩ := h'.divides
    exact ⟨l - k, by rw [Int.mul_sub]; omega⟩
  have near : (r - s).natAbs < y.natAbs := by
    have := h.small
    have := h'.small
    rcases h.sign with rfl | sign <;> rcases h'.sign with rfl | sign' <;> omega
  have same := Int.eq_zero_of_dvd_of_natAbs_lt_natAbs apart near
  omega

theorem fits_between {r y : Int} (fits : Fits r) (fits' : Fits y) (apart : (r < 0) ≠ (y < 0)) :
    Fits (r + y) := by
  simp only [fits_iff, ne_eq, eq_iff_iff] at *
  omega

theorem toInt_add {a b : Int64} (fits : Fits (a.toInt + b.toInt)) :
    (a + b).toInt = a.toInt + b.toInt := by
  rw [fits_iff] at fits
  rw [Int64.toInt_add, Int.bmod_eq_of_le] <;> omega

theorem floored_isRemainder {x y : Int64} (nonzero : y ≠ 0) :
    IsRemainder x.toInt y.toInt (floored x y).toInt := by
  have divisor : y.toInt ≠ 0 := fun zero => nonzero (Int64.toInt_inj.mp zero)
  have less : (x.toInt.tmod y.toInt).natAbs < y.toInt.natAbs := by
    rw [Int.natAbs_tmod]
    exact Nat.mod_lt _ (by omega)
  have left : y.toInt ∣ x.toInt - x.toInt.tmod y.toInt := by
    have whole := Int.mul_tdiv_add_tmod x.toInt y.toInt
    exact ⟨x.toInt.tdiv y.toInt, by omega⟩
  rw [← Int64.toInt_mod] at less left
  unfold floored
  dsimp only
  simp only [Int64.lt_iff_toInt_lt, ne_eq, ← Int64.toInt_inj, Int64.toInt_zero, decide_eq_decide]
  split
  · next moved =>
    obtain ⟨nonzero, apart⟩ := moved
    -- of other signs, so that their sum lies between them and fits a word
    have fits := fits_between (fits_toInt (x % y)) (fits_toInt y) (by simpa using apart)
    rw [toInt_add fits]
    constructor
    · omega
    · omega
    · have whole := Int.dvd_sub left (Int.dvd_refl y.toInt)
      rwa [Int.sub_sub] at whole
  · next alike =>
    refine ⟨less, ?_, left⟩
    simpa [or_iff_not_imp_left] using alike

end Remainders

/-- Sums, products and differences of integers are exact as long as every result on the way fits, and
raise an overflow if and only if one does not. A remainder is the one of the divisor's sign, but for
a divisor of zero and for the least integer by minus one. -/
theorem integers_exact :
    (∀ (first : Int64) (rest : List Int64),
      let args := (first :: rest).map Value.int
      let numbers := rest.map Int64.toInt
      Exact (apply .add args []) (Outcome.value ∘ Value.int)
          (numbers.scanl (· + ·) first.toInt) (first.toInt :: numbers).sum ∧
        Exact (apply .multiply args []) (Outcome.value ∘ Value.int)
          (numbers.scanl (· * ·) first.toInt) (first.toInt :: numbers).prod ∧
        (rest ≠ [] → Exact (apply .subtract args []) (Outcome.value ∘ Value.int)
          (numbers.scanl (· - ·) first.toInt) (first.toInt - numbers.sum))) ∧
    (∀ x : Int64, Exact (apply .subtract [.int x] []) (Outcome.value ∘ Value.int)
      [-x.toInt] (-x.toInt)) ∧
    ∀ x y : Int64,
      (y = 0 → apply .modulo [.int x, .int y] [] =
        .error ⟨"ZeroDivisionError", "modulo by zero"⟩) ∧
      (x = Int64.minValue ∧ y = -1 → apply .modulo [.int x, .int y] [] = .error overflow) ∧
      (y ≠ 0 ∧ ¬ (x = Int64.minValue ∧ y = -1) → ∃ r : Int64,
        apply .modulo [.int x, .int y] [] = .ok (.value (.int r)) ∧
          IsRemainder x.toInt y.toInt r.toInt ∧
            ∀ s, IsRemainder x.toInt y.toInt s → s = r.toInt) := by
  refine ⟨fun first rest => ⟨?sums, ?products, ?differences⟩, ?negation, fun x y => ⟨?zero, ?least, ?other⟩⟩
  case sums =>
    have folded := @exact_foldlM addValues (· + ·) (fun _ _ => rfl) first rest
    rw [foldl_add] at folded
    exact folded.map Outcome.value
  case products =>
    have folded := @exact_foldlM multiplyValues (· * ·) (fun _ _ => rfl) first rest
    rw [foldl_mul] at folded
    exact folded.map Outcome.value
  case differences =>
    intro more
    have folded := @exact_foldlM subtractValues (· - ·) (fun _ _ => rfl) first rest
    rw [foldl_sub] at folded
    cases rest with
    | nil => exact absurd rfl more
    | cons next rest => exact folded.map Outcome.value
  case negation => exact fun x => (exact_checked (-x.toInt)).map Outcome.value
  case zero =>
    rintro rfl
    rfl
  case least =>
    rintro ⟨rfl, rfl⟩
    rfl
  case other =>
    rintro ⟨nonzero, inner⟩
    have given : apply .modulo [.int x, .int y] [] = .ok (.value (.int (floored x y))) := by
      simp [apply, applyPure, binary, remainder, nonzero, inner, Except.map, bind, Except.bind]
    have remains := floored_isRemainder (x := x) nonzero
    exact ⟨floored x y, given, remains, fun s => remains.unique⟩

/-- Minus seven leaves two by three, not minus one. -/
theorem integers_exact_negativeDividend :
    ((3 : Int64) ≠ 0 ∧ ¬ ((-7 : Int64) = Int64.minValue ∧ (3 : Int64) = -1)) ∧
      ∃ r : Int64, apply .modulo [.int (-7), .int 3] [] = .ok (.value (.int r)) ∧ r.toInt = 2 := by
  have divides : (3 : Int64) ≠ 0 ∧ ¬ ((-7 : Int64) = Int64.minValue ∧ (3 : Int64) = -1) := by decide
  obtain ⟨r, given, -, unique⟩ := (integers_exact.2.2 (-7) 3).2.2 divides
  have two : IsRemainder (Int64.toInt (-7)) (Int64.toInt 3) 2 :=
    ⟨by decide, by decide, by decide⟩
  exact ⟨divides, r, given, (unique 2 two).symm⟩

end ResumableScript.Builtin
