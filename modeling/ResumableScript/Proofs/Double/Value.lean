import Mathlib
import ResumableScript.Proofs.Double.Integers

/-! The numbers that doubles stand for. Of all finite doubles, the one that a great integer becomes is
as near to it as any: those of its exponent or a greater one are multiples of the same power of two,
and all others are below it. -/
namespace ResumableScript.Double

open Float.Model Float.Model.UnpackedFloat

def value (x : Float) : ℚ :=
  match x.toModel.unpack with
  | .finite s m e _ => s.apply m * 2 ^ e
  | _ => 0

/-- The finite double for an integer: none is nearer to it, and of two that are as near it is the
even one. -/
structure Nearest (x : Float) (n : Int) : Prop where
  finite : x.isFinite = true
  rounds : value x = rounded n
  closest : ∀ y : Float, y.isFinite = true → |value x - n| ≤ |value y - n|

theorem Denotes.isFinite {x : Float} {a : Int} (h : Denotes x a) : x.isFinite = true := by
  change x.toModel.unpack.isFinite = true
  cases h with
  | zero h => rw [h]; rfl
  | normal h =>
    obtain ⟨m, j, positive, u, -⟩ := h
    rw [u]
    rfl

theorem apply_cast (s : Sign) (m : Nat) : ((s.apply m : Int) : ℚ) = (s.apply 1 : Int) * m := by
  cases s <;> simp [Sign.apply]

theorem Denotes.value_eq {x : Float} {a : Int} (h : Denotes x a) : value x = a := by
  cases h with
  | zero h => simp [value, h]
  | @normal s v h =>
    obtain ⟨m, j, positive, u, -, -, whole⟩ := h
    have moved : (m : ℚ) * 2 ^ (-52 + (j : ℤ)) = v := by
      have cast : (v : ℚ) * 2 ^ 52 = m * 2 ^ j := by exact_mod_cast whole
      rw [zpow_add₀ two_ne_zero, zpow_natCast]
      linear_combination -(2 : ℚ) ^ (-52 : ℤ) * cast
    simp only [value, u]
    rw [apply_cast, mul_assoc, moved, apply_cast s v]

/-- Between two neighbouring multiples of a unit, the one on the side of the smaller part is as near as
any multiple beyond them. -/
theorem closest_neighbour {n low part unit chosen other : Int} (split : n = low + part)
    (positive : 0 ≤ part) (less : part < unit)
    (half : chosen = low ∧ 2 * part ≤ unit ∨ chosen = low + unit ∧ unit ≤ 2 * part)
    (beyond : other ≤ low ∨ low + unit ≤ other) : |chosen - n| ≤ |other - n| := by
  rcases abs_cases (chosen - n) with ⟨left, _⟩ | ⟨left, _⟩ <;>
    rcases abs_cases (other - n) with ⟨right, _⟩ | ⟨right, _⟩ <;>
    omega

theorem nearest_closest (m k : Nat) (q : Int) :
    |(nearest m k * 2 ^ k : Int) - m| ≤ |q * 2 ^ k - m| := by
  have split : (m : Int) = (m / 2 ^ k : Nat) * 2 ^ k + (m % 2 ^ k : Nat) := by
    exact_mod_cast (Nat.div_add_mod' m (2 ^ k)).symm
  have less : ((m % 2 ^ k : Nat) : Int) < 2 ^ k := by
    exact_mod_cast Nat.mod_lt m (Nat.two_pow_pos k)
  refine closest_neighbour split (Int.natCast_nonneg _) less ?half ?beyond
  case half =>
    unfold nearest
    split
    · next down => exact .inl ⟨rfl, by exact_mod_cast (by omega : 2 * (m % 2 ^ k) ≤ 2 ^ k)⟩
    · next up =>
      refine .inr ⟨?_, by exact_mod_cast (by omega : 2 ^ k ≤ 2 * (m % 2 ^ k))⟩
      rw [Nat.cast_succ, add_mul, one_mul]
  case beyond =>
    rcases lt_or_ge ((m / 2 ^ k : Nat) : Int) q with above | below
    · exact .inr (by nlinarith)
    · exact .inl (by nlinarith)

theorem mantissa_lt {x : Float} {s : Sign} {m : Nat} {e : Int} {positive : 0 < m}
    (h : x.toModel.unpack = .finite s m e positive) : m < 2 ^ 53 := by
  change UnpackedFloat.unpack Format.binary64 x.toModel.toBits.toBitVec = _ at h
  unfold UnpackedFloat.unpack at h
  dsimp only at h
  split at h
  · split at h <;> cases h
  split at h
  · split at h
    · cases h
    · cases h
      exact Nat.lt_trans (BitVec.isLt _) (by decide)
  · injection h with _ mantissa _
    rw [← mantissa]
    exact BitVec.isLt _

/-- A number of at least 53 digits is rounded to one of its neighbours among the multiples of a power
of two. A double is such a multiple, or is less than the number and the multiple below it. -/
theorem closest_of_digits {n k : Nat} (positive : n ≠ 0) (digits : n.log2 = 52 + k) (y : Float) :
    |((nearest n k * 2 ^ k : Nat) : ℚ) - n| ≤ |value y - n| := by
  have multiple (q : Int) : |((nearest n k * 2 ^ k : Nat) : ℚ) - n| ≤ |(q : ℚ) * 2 ^ k - n| := by
    exact_mod_cast nearest_closest n k q
  have enough : ((2 ^ 52 : Int) : ℚ) * 2 ^ k ≤ n := by
    have low := ((Nat.log2_eq_iff positive).mp digits).1
    rw [Nat.pow_add] at low
    exact_mod_cast low
  have beneath (v : ℚ) (below : v ≤ (2 ^ 52 : Int) * 2 ^ k) :
      |((nearest n k * 2 ^ k : Nat) : ℚ) - n| ≤ |v - n| := by
    refine (multiple (2 ^ 52)).trans ?_
    rw [abs_of_nonpos (by linarith), abs_of_nonpos (by linarith)]
    linarith
  unfold value
  split
  · next s m e _ u =>
    rcases le_or_gt (k : Int) e with high | low
    · obtain ⟨i, rfl⟩ := Int.le.dest high
      have same : ((s.apply m : Int) : ℚ) * 2 ^ ((k : Int) + i) =
          ((s.apply m * 2 ^ i : Int) : ℚ) * 2 ^ k := by
        rw [zpow_add₀ two_ne_zero, zpow_natCast, zpow_natCast]
        push_cast
        ring
      rw [same]
      exact multiple _
    · -- a double of a smaller unit has too few digits to come up to the number
      refine beneath _ ?_
      have mantissa : ((s.apply m : Int) : ℚ) ≤ 2 ^ 53 := by
        have less := mantissa_lt u
        have upper : s.apply m ≤ 2 ^ 53 := by cases s <;> simp only [Sign.apply] <;> omega
        exact_mod_cast upper
      calc ((s.apply m : Int) : ℚ) * 2 ^ e ≤ 2 ^ 53 * 2 ^ ((k : Int) - 1) := by
            gcongr
            · norm_num
            · omega
        _ = (2 ^ 52 : Int) * 2 ^ k := by
            rw [zpow_sub_one₀ two_ne_zero, zpow_natCast]
            push_cast
            ring
  · exact beneath 0 (by positivity)

theorem nearest_ofInt {n : Int} (low : 2 ^ 63 ≤ n) (high : n < 2 ^ 64) : Nearest (Float.ofInt n) n := by
  obtain ⟨m, rfl⟩ := Int.eq_ofNat_of_zero_le (by omega : 0 ≤ n)
  have digits : m.log2 = 52 + 11 := (Nat.log2_eq_iff (by omega)).mpr ⟨by omega, by omega⟩
  have denotes : Denotes (Float.ofInt m) (rounded m) := denotes_ofInt (by omega)
  refine ⟨denotes.isFinite, denotes.value_eq, fun y _ => ?_⟩
  have unit : rounded m = (nearest m 11 * 2 ^ 11 : Nat) := by
    rw [rounded_natCast, roundedNat, excess, digits]
  rw [denotes.value_eq, unit]
  exact closest_of_digits (by omega) digits y

end ResumableScript.Double
