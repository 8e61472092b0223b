import Mathlib
import ResumableScript.Proofs.Double.Nearest

/-! Doubles made of integers. A full mantissa determines its exponent, which makes the order of doubles
that of exponents and then of mantissas; so two integers compare as doubles as their roundings do. -/
namespace ResumableScript.Double

open Float.Model Float.Model.UnpackedFloat

/-- A double with all 53 digits, of the value `v * 2 ^ e`. -/
def Normal (u : UnpackedFloat) (s : Sign) (v : Nat) (e : Int) : Prop :=
  ∃ (m j : Nat) (positive : 0 < m), u = .finite s m (e + j) positive ∧
    2 ^ 52 ≤ m ∧ m < 2 ^ 53 ∧ v = m * 2 ^ j

theorem Normal.scale {u : UnpackedFloat} {s : Sign} {v : Nat} {e : Int} (i : Nat)
    (h : Normal u s v (e + i)) : Normal u s (v * 2 ^ i) e := by
  obtain ⟨m, j, positive, rfl, low, high, rfl⟩ := h
  refine ⟨m, i + j, positive, ?_, low, high, ?_⟩
  · congr 1
    omega
  · rw [Nat.pow_add, Nat.mul_right_comm, Nat.mul_assoc]

section Rounding

/-- The digits of a number but for the last `k`. Of those, two bits tell how they compare with half of
a unit. -/
structure Cut (em : ExtendedMantissa) (m k : Nat) : Prop where
  leading : em.mantissa = m / 2 ^ k
  round : em.roundBit = true ↔ 2 ^ k ≤ 2 * (m % 2 ^ k)
  sticky : em.stickyBit = true ↔ m % 2 ^ k ≠ 0 ∧ 2 * (m % 2 ^ k) ≠ 2 ^ k

theorem Cut.next {em : ExtendedMantissa} {m k : Nat} (h : Cut em m k) :
    Cut em.shiftRightOne m (k + 1) := by
  have less : m % 2 ^ k < 2 ^ k := Nat.mod_lt _ (Nat.two_pow_pos k)
  have power : 2 ^ (k + 1) = 2 ^ k * 2 := Nat.pow_succ 2 k
  have remainder : m % 2 ^ (k + 1) = m % 2 ^ k + 2 ^ k * (m / 2 ^ k % 2) := by rw [power, Nat.mod_mul]
  have digit : m / 2 ^ k % 2 = 0 ∨ m / 2 ^ k % 2 = 1 := Nat.mod_two_eq_zero_or_one _
  refine ⟨?leading, ?round, ?sticky⟩
  case leading => rw [power, ← Nat.div_div_eq_div_mul, ← h.leading]; rfl
  case round =>
    rw [ExtendedMantissa.shiftRightOne, bne_iff_ne, h.leading, remainder, power]
    rcases digit with digit | digit <;> simp only [digit] <;> omega
  case sticky =>
    rw [ExtendedMantissa.shiftRightOne, Bool.or_eq_true, h.round, h.sticky, remainder, power]
    rcases digit with digit | digit <;> simp only [digit] <;> omega

theorem cut_shift (m k : Nat) : Cut (ExtendedMantissa.ofMantissaAndAccuracy m .exact >>> k) m k := by
  induction k with
  | zero => constructor <;> simp [HShiftRight.hShiftRight, Nat.repeat,
      ExtendedMantissa.ofMantissaAndAccuracy, Nat.mod_one]
  | succ k ih => exact ih.next

theorem Cut.roundedMantissa {em : ExtendedMantissa} {m k : Nat} (h : Cut em m k) :
    em.roundedMantissa = nearest m k := by
  obtain ⟨leading, round, sticky⟩ := h
  obtain ⟨q, r, s⟩ := em
  dsimp only at leading round sticky
  subst leading
  have less : m % 2 ^ k < 2 ^ k := Nat.mod_lt _ (Nat.two_pow_pos k)
  unfold nearest
  cases r <;> cases s <;>
    simp only [ExtendedMantissa.roundedMantissa, ExtendedMantissa.accuracy,
      Accuracy.roundToNearestEven] <;>
    simp only [Bool.false_eq_true, false_iff, true_iff] at round sticky <;>
    split <;> omega

theorem target_eq (m : Nat) (e : Int) :
    Format.binary64.targetExponent (totalExponent m e) = max (m.log2 + e - 52) (-1074) := by
  simp [Format.targetExponent, totalExponent, Format.mantissaBits, Format.minExponent]
  omega

theorem shift_target {m : Nat} {e : Int} {k : Nat} (digits : m.log2 = 52 + k) (range : -1074 ≤ e + k) :
    shiftToTargetExponent Format.binary64 m e .exact =
      (ExtendedMantissa.ofMantissaAndAccuracy m .exact >>> k, e + k) := by
  have amount : (max (m.log2 + e - 52) (-1074) - e).toNat = k := by omega
  simp only [shiftToTargetExponent, shiftToExponent, target_eq, amount]

theorem roundWithAccuracy_normal (s : Sign) {m : Nat} {e : Int} {k : Nat} (positive : m ≠ 0)
    (digits : m.log2 = 52 + k) (range : -1074 ≤ e + k) :
    Normal (roundWithAccuracy Format.binary64 s m e .exact) s (nearest m k) (e + k) := by
  obtain ⟨low, high⟩ := nearest_leading positive digits
  simp only [roundWithAccuracy, shift_target digits range, (cut_shift m k).roundedMantissa]
  rcases Nat.lt_or_eq_of_le high with less | carried
  · have full : (nearest m k).log2 = 52 + 0 := (Nat.log2_eq_iff (by omega)).mpr ⟨low, less⟩
    have normal : nearest m k ≠ 0 := by omega
    simp only [shift_target full (by omega : -1074 ≤ e + k + (0 : Nat)), (cut_shift _ 0).leading,
      Nat.pow_zero, Nat.div_one, normal, reduceDIte]
    exact ⟨nearest m k, 0, by omega, rfl, low, less, by simp⟩
  · -- The second shift only undoes a carry, and takes nothing but a zero away.
    have full : (2 ^ 53 : Nat).log2 = 52 + 1 := Nat.log2_two_pow
    simp only [carried, shift_target full (by omega : -1074 ≤ e + k + (1 : Nat))]
    exact ⟨2 ^ 52, 1, by decide, rfl, by decide, by decide, by decide⟩

end Rounding

section Packing

/-- The leading digit is not stored, as it is always one. -/
theorem leading_digit {m : Nat} (low : 2 ^ 52 ≤ m) (high : m < 2 ^ 53) :
    (1#1 ++ BitVec.ofNat 52 m).toNat = m := by
  rw [BitVec.toNat_append, ← Nat.shiftLeft_add_eq_or_of_lt (BitVec.isLt _), BitVec.toNat_ofNat]
  change 2 ^ 52 + m % 2 ^ 52 = m
  omega

theorem unpack_pack {s : Sign} {m : Nat} {e : Int} {positive : 0 < m} (low : 2 ^ 52 ≤ m)
    (high : m < 2 ^ 53) (least : -1074 ≤ e) (greatest : e ≤ 971) :
    (Float.Model.pack (.finite s m e positive)).unpack = .finite s m e positive := by
  have digits : m.log2 + 1 = Format.binary64.mantissaBits := by
    rw [(Nat.log2_eq_iff (by omega)).mpr ⟨low, high⟩]
    rfl
  have biased : (e + Format.binary64.exponentBias + (52 : Nat)).toNat = (e + 1075).toNat := by
    change (e + 1023 + 52).toNat = _
    omega
  have inner : ¬ 2 ^ 11 ≤ (e + 1075).toNat + 1 := by omega
  have stored : (BitVec.ofNat 11 (e + 1075).toNat).toNat = (e + 1075).toNat := by
    rw [BitVec.toNat_ofNat, Nat.mod_eq_of_lt (by omega)]
  have finite : BitVec.ofNat 11 (e + 1075).toNat ≠ -1#11 := by
    rw [ne_eq, ← BitVec.toNat_inj, stored]
    change _ ≠ 2047
    omega
  have normal : BitVec.ofNat 11 (e + 1075).toNat ≠ 0#11 := by
    rw [ne_eq, ← BitVec.toNat_inj, stored]
    change _ ≠ 0
    omega
  have packed : UnpackedFloat.pack Format.binary64 (.finite s m e positive) =
      packComponents Format.binary64 s (BitVec.ofNat 11 (e + 1075).toNat) (BitVec.ofNat 52 m) := by
    simp only [UnpackedFloat.pack, biased, if_neg inner, if_pos digits]
  change UnpackedFloat.unpack Format.binary64 (UnpackedFloat.pack Format.binary64 _) = _
  rw [packed, UnpackedFloat.unpack]
  simp only [unpackMantissa_packComponents, unpackExponent_packComponents, unpackSign_packComponents,
    Sign.ofBitVec_toBitVec, finite, normal, if_false, leading_digit low high, stored]
  congr 1
  change ((e + 1075).toNat : Int) - (1023 + 52) = e
  omega

end Packing

section Conversion

theorem round_shifted (s : Sign) {n i : Nat} (positive : n ≠ 0) (filled : 52 ≤ n.log2 + i) :
    Normal (roundWithAccuracy Format.binary64 s (n * 2 ^ i) (-i) .exact) s
      (roundedNat n * 2 ^ 52) (-52) := by
  obtain ⟨k, digits⟩ := Nat.exists_eq_add_of_le filled
  have given := roundWithAccuracy_normal s (m := n * 2 ^ i) (e := -i) (by simp [positive])
    ((log2_shifted positive i).trans digits) (by omega)
  rw [show -(i : Int) + k = -52 + n.log2 by omega] at given
  rw [← nearest_shifted digits]
  exact given.scale n.log2

theorem Normal.mul_one {u : UnpackedFloat} {s : Sign} {v : Nat} {e : Int} (h : Normal u s v e)
    (range : -1074 ≤ e) :
    Normal (UnpackedFloat.mul Format.binary64 u (.finite .positive (2 ^ 52) (-52) (by decide))) s v e := by
  obtain ⟨m, j, positive, rfl, low, high, rfl⟩ := h
  have digits : (m * 2 ^ 52).log2 = 52 + 52 := by
    rw [log2_shifted (by omega), (Nat.log2_eq_iff (by omega)).mpr ⟨low, high⟩]
  have given := roundWithAccuracy_normal s (m := m * 2 ^ 52) (e := e + j + -52) (by omega) digits
    (by omega)
  rw [nearest_exact, show e + j + -52 + (52 : Nat) = e + j by omega] at given
  have sign : s * .positive = s := by cases s <;> rfl
  rw [UnpackedFloat.mul, sign]
  exact given.scale j

theorem Normal.unpack_pack {u : UnpackedFloat} {s : Sign} {v : Nat}
    (h : Normal u s (v * 2 ^ 52) (-52)) (fits : v ≤ 2 ^ 64) : (Float.Model.pack u).unpack = u := by
  obtain ⟨m, j, positive, rfl, low, high, value⟩ := h
  have exponent : 52 + j < 117 := by
    rw [← Nat.pow_lt_pow_iff_right (a := 2) (by decide), Nat.pow_add]
    calc 2 ^ 52 * 2 ^ j ≤ m * 2 ^ j := Nat.mul_le_mul_right _ low
      _ = v * 2 ^ 52 := value.symm
      _ < 2 ^ 117 := by omega
  exact Double.unpack_pack low high (by omega) (by omega)

inductive Denotes (x : Float) : Int → Prop where
  | zero {s : Sign} (h : x.toModel.unpack = .zero s) : Denotes x 0
  | normal {s : Sign} {v : Nat} (h : Normal x.toModel.unpack s (v * 2 ^ 52) (-52)) : Denotes x (s.apply v)

theorem unpack_one : Float.exactlyRepresentablePowersOfTen[0].toModel.unpack =
    .finite .positive (2 ^ 52) (-52) (by decide) := rfl

theorem ofNat_short {n : Nat} (short : n < 2 ^ 53) :
    Float.ofNat n = n.toUInt64.toFloat * Float.exactlyRepresentablePowersOfTen[0] := by
  simp only [Float.ofNat, OfScientific.ofScientific, Float.ofScientific, short]
  rfl

theorem ofNat_long {n : Nat} (long : ¬ n < 2 ^ 53) :
    (Float.ofNat n).toModel = Float.Model.pack (UnpackedFloat.ofScientific .binary64 n 0) := by
  simp only [Float.ofNat, OfScientific.ofScientific, Float.ofScientific, long, false_and, dite_false]
  rfl

theorem ofScientific_eq {n : Nat} (positive : n ≠ 0) : UnpackedFloat.ofScientific .binary64 n 0 =
    roundWithAccuracy .binary64 .positive (n * 2 ^ 53) (-(53 : Nat)) .exact := by
  have sign : Sign.positive * Sign.positive = .positive := rfl
  have bits : Format.binary64.mantissaBits = 53 := rfl
  rw [UnpackedFloat.ofScientific, dif_neg positive, if_neg (by norm_num), if_neg, if_pos (Int.le_refl 0)]
  · simp only [UnpackedFloat.mul, bits, sign, Nat.shiftLeft_eq, Int.toNat_zero, Nat.pow_zero,
      Nat.mul_one, Int.add_zero]
  · norm_num

theorem ofNat_eq {n : Nat} (positive : n ≠ 0) (short : n < 2 ^ 53) :
    UnpackedFloat.ofNat .binary64 n =
      roundWithAccuracy .binary64 .positive (n * 2 ^ (52 - n.log2)) (-(52 - n.log2 : Nat)) .exact := by
  have greater : compare (n : Int) 0 = .gt := Int.compare_eq_gt.mpr (by omega)
  have digits : n.log2 < 53 := (Nat.log2_lt positive).mpr short
  have amount : (-max ((n.log2 : Int) + 0 - 52) (-1074)).toNat = 52 - n.log2 := by omega
  simp only [UnpackedFloat.ofNat, UnpackedFloat.ofInt, UnpackedFloat.normalize, greater,
    UnpackedFloat.round, Int.toNat_natCast, target_eq, decreaseExponent, amount, Nat.shiftLeft_eq,
    Int.zero_sub]

theorem denotes_ofNat {n : Nat} (fits : n ≤ 2 ^ 64) : Denotes (Float.ofNat n) (roundedNat n) := by
  by_cases zero : n = 0
  · subst zero
    exact .zero (s := .positive) rfl
  have held := roundedNat_le fits
  refine .normal (s := .positive) ?_
  by_cases small : n < 2 ^ 53
  · have digits : n.log2 < 53 := (Nat.log2_lt zero).mpr small
    have word : n.toUInt64.toNat = n := Nat.mod_eq_of_lt (by omega)
    have converted := round_shifted .positive zero (i := 52 - n.log2) (by omega)
    rw [← ofNat_eq zero small] at converted
    have product := converted.mul_one (by decide)
    rw [ofNat_short small]
    -- The word's double is stored before it is multiplied, and the product is stored again.
    change Normal (Float.Model.pack (UnpackedFloat.mul .binary64
      (Float.Model.pack (UnpackedFloat.ofNat .binary64 n.toUInt64.toNat)).unpack
      Float.exactlyRepresentablePowersOfTen[0].toModel.unpack)).unpack _ _ _
    rw [word, unpack_one, converted.unpack_pack held, product.unpack_pack held]
    exact product
  · have result := round_shifted .positive zero (i := 53) (by omega)
    rw [← ofScientific_eq zero] at result
    rw [ofNat_long small, result.unpack_pack held]
    exact result

theorem neg_apply (s : Sign) (n : Int) : -s.apply n = (-s).apply n := by
  cases s
  · exact Int.neg_neg n
  · rfl

theorem Denotes.neg {x : Float} {a : Int} (h : Denotes x a) (fits : a.natAbs ≤ 2 ^ 64) :
    Denotes x.neg (-a) := by
  cases h with
  | @zero s h =>
    refine .zero (s := -s) ?_
    change (Float.Model.pack x.toModel.unpack.neg).unpack = _
    rw [h]
    cases s <;> rfl
  | @normal s v h =>
    have flipped : Normal x.toModel.unpack.neg (-s) (v * 2 ^ 52) (-52) := by
      obtain ⟨m, j, positive, u, rest⟩ := h
      exact ⟨m, j, positive, by rw [u]; rfl, rest⟩
    have held : v ≤ 2 ^ 64 := by
      cases s <;> simpa [Sign.apply] using fits
    rw [neg_apply]
    refine .normal ?_
    change Normal (Float.Model.pack x.toModel.unpack.neg).unpack _ _ _
    rw [flipped.unpack_pack held]
    exact flipped

theorem denotes_ofInt {n : Int} (fits : n.natAbs ≤ 2 ^ 64) : Denotes (Float.ofInt n) (rounded n) := by
  cases n with
  | ofNat n =>
    rw [Int.ofNat_eq_natCast, rounded_natCast]
    exact denotes_ofNat fits
  | negSucc n =>
    rw [Int.negSucc_eq, ← Int.natCast_succ, rounded_neg, rounded_natCast]
    exact (denotes_ofNat fits).neg (roundedNat_le fits)

theorem denotes_word (n : Int64) : Denotes (Float.ofInt n.toInt) (rounded n.toInt) := by
  have low := n.le_toInt
  have high := n.toInt_lt
  exact denotes_ofInt (by omega)

end Conversion

section Order

theorem exponents_first {m n i j : Nat} (high : m < 2 ^ 53) (low : 2 ^ 52 ≤ n) (less : i < j) :
    m * 2 ^ i < n * 2 ^ j :=
  calc m * 2 ^ i < 2 ^ 53 * 2 ^ i := Nat.mul_lt_mul_of_pos_right high (Nat.two_pow_pos i)
    _ = 2 ^ 52 * 2 ^ (i + 1) := by rw [← Nat.pow_add, ← Nat.pow_add]; congr 1; omega
    _ ≤ 2 ^ 52 * 2 ^ j := Nat.mul_le_mul_left _ (Nat.pow_le_pow_right (by decide) less)
    _ ≤ n * 2 ^ j := Nat.mul_le_mul_right _ low

theorem compare_magnitudes {m n i j : Nat} (e : Int) (first : 2 ^ 52 ≤ m ∧ m < 2 ^ 53)
    (second : 2 ^ 52 ≤ n ∧ n < 2 ^ 53) :
    (compare (e + i) (e + j)).then (compare m n) =
      compare ((m * 2 ^ i : Nat) : Int) (n * 2 ^ j : Nat) := by
  rcases Nat.lt_trichotomy i j with less | rfl | greater
  · rw [Int.compare_eq_lt.mpr (show e + i < e + j by omega),
      Int.compare_eq_lt.mpr (Int.ofNat_lt.mpr (exponents_first first.2 second.1 less))]
    rfl
  · have positive : 0 < 2 ^ i := Nat.two_pow_pos i
    rw [Int.compare_eq_eq.mpr rfl, Ordering.eq_then, Nat.compare_eq_ite_lt, Int.compare_eq_ite_lt]
    simp only [Int.ofNat_lt, Nat.mul_lt_mul_right positive]
  · rw [Int.compare_eq_gt.mpr (show e + j < e + i by omega),
      Int.compare_eq_gt.mpr (Int.ofNat_lt.mpr (exponents_first second.2 first.1 greater))]
    rfl

theorem Normal.positive {u : UnpackedFloat} {s : Sign} {v : Nat} {e : Int} (h : Normal u s v e) :
    0 < v := by
  obtain ⟨m, j, positive, -, -, -, rfl⟩ := h
  exact Nat.mul_pos positive (Nat.two_pow_pos j)

theorem Normal.compare_eq {u w : UnpackedFloat} {s t : Sign} {a b : Nat} {e : Int} (hu : Normal u s a e)
    (hw : Normal w t b e) : u.compare w = some (compare (s.apply a) (t.apply b)) := by
  have left := hu.positive
  have right := hw.positive
  obtain ⟨m, i, _, rfl, low, high, rfl⟩ := hu
  obtain ⟨n, j, _, rfl, least, greatest, rfl⟩ := hw
  have magnitudes := compare_magnitudes (i := i) (j := j) e ⟨low, high⟩ ⟨least, greatest⟩
  cases s <;> cases t <;> simp only [Sign.apply, UnpackedFloat.compare, Option.some_inj]
  · rw [magnitudes, Int.compare_swap, Int.compare_eq_ite_lt, Int.compare_eq_ite_lt]
    simp only [Int.neg_lt_neg_iff]
  · exact (Int.compare_eq_lt.mpr (by omega)).symm
  · exact (Int.compare_eq_gt.mpr (by omega)).symm
  · exact magnitudes

theorem Normal.compare_zero {u : UnpackedFloat} {s t : Sign} {v : Nat} {e : Int}
    (h : Normal u s v e) : u.compare (.zero t) = some (compare (s.apply v) 0) := by
  have positive := h.positive
  obtain ⟨m, j, _, rfl, -⟩ := h
  cases s <;> simp only [Sign.apply, UnpackedFloat.compare, Option.some_inj]
  · exact (Int.compare_eq_lt.mpr (by omega)).symm
  · exact (Int.compare_eq_gt.mpr (by omega)).symm

theorem Normal.zero_compare {u : UnpackedFloat} {s t : Sign} {v : Nat} {e : Int}
    (h : Normal u s v e) : (UnpackedFloat.zero t).compare u = some (compare 0 (s.apply v)) := by
  have positive := h.positive
  obtain ⟨m, j, _, rfl, -⟩ := h
  cases s <;> simp only [Sign.apply, UnpackedFloat.compare, Option.some_inj]
  · exact (Int.compare_eq_gt.mpr (by omega)).symm
  · exact (Int.compare_eq_lt.mpr (by omega)).symm

theorem apply_mul (s : Sign) (v i : Nat) : s.apply (v * i : Nat) = s.apply v * i := by
  cases s <;> simp [Sign.apply]

theorem compare_mul {i : Nat} (positive : 0 < i) (a b : Int) : compare (a * i) (b * i) = compare a b := by
  simp only [Int.compare_eq_ite_lt, Int.mul_lt_mul_right (Int.natCast_pos.mpr positive)]

theorem Denotes.compare_eq {x y : Float} {a b : Int} (hx : Denotes x a) (hy : Denotes y b) :
    x.toModel.unpack.compare y.toModel.unpack = some (compare a b) := by
  have unit : 0 < 2 ^ 52 := by decide
  cases hx with
  | zero hx =>
    cases hy with
    | zero hy => rw [hx, hy]; rfl
    | normal hy =>
      rw [hx, hy.zero_compare, apply_mul]
      simpa using compare_mul unit 0 _
  | normal hx =>
    cases hy with
    | zero hy =>
      rw [hy, hx.compare_zero, apply_mul]
      simpa using compare_mul unit _ 0
    | normal hy => rw [hx.compare_eq hy, apply_mul, apply_mul, compare_mul unit]

theorem Denotes.lt_iff {x y : Float} {a b : Int} (hx : Denotes x a) (hy : Denotes y b) :
    x < y ↔ a < b := by
  change decide (UnpackedFloat.lt x.toModel.unpack y.toModel.unpack = true) = true ↔ _
  simp [UnpackedFloat.lt, hx.compare_eq hy, Int.compare_eq_lt]

theorem Denotes.le_iff {x y : Float} {a b : Int} (hx : Denotes x a) (hy : Denotes y b) :
    x ≤ y ↔ a ≤ b := by
  change decide (UnpackedFloat.le x.toModel.unpack y.toModel.unpack = true) = true ↔ _
  simp [UnpackedFloat.le, hx.compare_eq hy, Int.isLE_compare]

end Order

end ResumableScript.Double
