import Mathlib.Algebra.Order.Ring.Int
import Mathlib.Tactic.Basic

/-! The integers that doubles hold. Of a number with more than 53 binary digits the leading 53 are
kept, rounded to the nearest, and to the even one of two that are as near. -/
namespace ResumableScript.Double

/-- The quotient by `2 ^ k`, rounded to the nearest, and half of one to the even. -/
def nearest (m k : Nat) : Nat :=
  if 2 * (m % 2 ^ k) < 2 ^ k ∨ 2 * (m % 2 ^ k) = 2 ^ k ∧ m / 2 ^ k % 2 = 0 then m / 2 ^ k
  else m / 2 ^ k + 1

/-- How many of its digits a double has no place for. -/
def excess (m : Nat) : Nat := m.log2 - 52

def roundedNat (m : Nat) : Nat := nearest m (excess m) * 2 ^ excess m

/-- The integer whose double an integer becomes. -/
def rounded (n : Int) : Int := n.sign * roundedNat n.natAbs

theorem nearest_bounds (m k : Nat) : m / 2 ^ k ≤ nearest m k ∧ nearest m k ≤ m / 2 ^ k + 1 := by
  unfold nearest
  split <;> omega

theorem nearest_zero (m : Nat) : nearest m 0 = m := by
  simp [nearest, Nat.mod_one]

theorem nearest_mul (m k i : Nat) : nearest (m * 2 ^ i) (k + i) = nearest m k := by
  have positive : 0 < 2 ^ i := Nat.two_pow_pos i
  unfold nearest
  rw [Nat.pow_add, Nat.mul_div_mul_right _ _ positive, Nat.mul_mod_mul_right, ← Nat.mul_assoc]
  simp only [Nat.mul_lt_mul_right positive, Nat.mul_left_inj (Nat.ne_of_gt positive)]

theorem nearest_exact (m k : Nat) : nearest (m * 2 ^ k) k = m := by
  simpa [nearest_zero] using nearest_mul m 0 k

theorem nearest_mono {m n : Nat} (le : m ≤ n) (k : Nat) : nearest m k ≤ nearest n k := by
  have quotients : m / 2 ^ k ≤ n / 2 ^ k := Nat.div_le_div_right le
  rcases Nat.lt_or_eq_of_le quotients with less | same
  · exact (nearest_bounds m k).2.trans (Nat.le_trans less (nearest_bounds n k).1)
  · have whole := Nat.div_add_mod m (2 ^ k)
    have other := Nat.div_add_mod n (2 ^ k)
    rw [same] at whole
    unfold nearest
    rw [same]
    split <;> split <;> omega

/-- Rounded to 53 digits, a number has 53, or is the least with one more. -/
theorem nearest_leading {m k : Nat} (positive : m ≠ 0) (digits : m.log2 = 52 + k) :
    2 ^ 52 ≤ nearest m k ∧ nearest m k ≤ 2 ^ 53 := by
  obtain ⟨low, high⟩ := (Nat.log2_eq_iff positive).mp digits
  have bounds := nearest_bounds m k
  have least : 2 ^ 52 ≤ m / 2 ^ k := by
    rw [Nat.le_div_iff_mul_le (Nat.two_pow_pos k), ← Nat.pow_add]
    exact low
  have most : m / 2 ^ k < 2 ^ 53 := by
    rw [Nat.div_lt_iff_lt_mul (Nat.two_pow_pos k), ← Nat.pow_add]
    exact Nat.lt_of_lt_of_le high (Nat.pow_le_pow_right (by decide) (by omega))
  omega

theorem log2_mono {m n : Nat} (positive : m ≠ 0) (le : m ≤ n) : m.log2 ≤ n.log2 := by
  rw [Nat.le_log2 (by omega)]
  exact (Nat.log2_self_le positive).trans le

theorem roundedNat_short {m : Nat} (short : m.log2 ≤ 52) : roundedNat m = m := by
  simp [roundedNat, excess, Nat.sub_eq_zero_of_le short, nearest_zero]

theorem roundedNat_between {m : Nat} (positive : m ≠ 0) :
    2 ^ m.log2 ≤ roundedNat m ∧ roundedNat m ≤ 2 ^ (m.log2 + 1) := by
  rcases Nat.le_total m.log2 52 with short | long
  · rw [roundedNat_short short]
    exact ⟨Nat.log2_self_le positive, Nat.le_of_lt Nat.lt_log2_self⟩
  · obtain ⟨low, high⟩ := nearest_leading (k := excess m) positive (by unfold excess; omega)
    have split : 52 + excess m = m.log2 := by unfold excess; omega
    rw [← split, Nat.add_right_comm, Nat.pow_add, Nat.pow_add]
    exact ⟨Nat.mul_le_mul_right _ low, Nat.mul_le_mul_right _ high⟩

theorem roundedNat_exact {m : Nat} (le : m ≤ 2 ^ 53) : roundedNat m = m := by
  rcases Nat.lt_or_eq_of_le le with less | rfl
  · by_cases zero : m = 0
    · simp [zero, roundedNat_short]
    · exact roundedNat_short (by have := (Nat.log2_lt zero).mpr less; omega)
  · decide

theorem log2_shifted {n : Nat} (positive : n ≠ 0) (i : Nat) : (n * 2 ^ i).log2 = n.log2 + i := by
  induction i with
  | zero => simp
  | succ i ih =>
    rw [Nat.pow_succ, ← Nat.mul_assoc, Nat.mul_comm, Nat.log2_two_mul (by simp [positive]), ih,
      Nat.add_assoc]

theorem nearest_shifted {n i k : Nat} (digits : n.log2 + i = 52 + k) :
    nearest (n * 2 ^ i) k * 2 ^ n.log2 = roundedNat n * 2 ^ 52 := by
  rcases Nat.le_total n.log2 52 with short | long
  · have fewer : i = i - k + k := by omega
    rw [fewer, Nat.pow_add, ← Nat.mul_assoc, nearest_exact, roundedNat_short short, Nat.mul_assoc,
      ← Nat.pow_add]
    congr 2
    omega
  · have lost : k = excess n + i := by unfold excess; omega
    rw [lost, nearest_mul, roundedNat, Nat.mul_assoc, ← Nat.pow_add]
    congr 2
    unfold excess
    omega

theorem roundedNat_mono {m n : Nat} (le : m ≤ n) : roundedNat m ≤ roundedNat n := by
  by_cases zero : m = 0
  · simp [zero, roundedNat_short]
  have digits := log2_mono zero le
  rcases Nat.lt_or_eq_of_le digits with less | same
  · calc roundedNat m ≤ 2 ^ (m.log2 + 1) := (roundedNat_between zero).2
      _ ≤ 2 ^ n.log2 := Nat.pow_le_pow_right (by decide) less
      _ ≤ roundedNat n := (roundedNat_between (by omega)).1
  · unfold roundedNat excess
    rw [same]
    exact Nat.mul_le_mul_right _ (nearest_mono le _)

theorem roundedNat_two_pow (k : Nat) : roundedNat (2 ^ k) = 2 ^ k := by
  rcases Nat.le_total k 52 with short | long
  · exact roundedNat_short (by rwa [Nat.log2_two_pow])
  · obtain ⟨i, rfl⟩ := Nat.exists_eq_add_of_le long
    rw [roundedNat, excess, Nat.log2_two_pow, Nat.add_sub_cancel_left, Nat.pow_add, nearest_exact]

theorem roundedNat_le {n k : Nat} (le : n ≤ 2 ^ k) : roundedNat n ≤ 2 ^ k := by
  simpa [roundedNat_two_pow] using roundedNat_mono le

theorem rounded_neg (n : Int) : rounded (-n) = -rounded n := by
  simp [rounded]

theorem rounded_natCast (m : Nat) : rounded m = roundedNat m := by
  by_cases zero : m = 0
  · subst zero
    rfl
  · simp [rounded, Int.sign_natCast_of_ne_zero zero]

theorem rounded_exact {n : Int} (le : n.natAbs ≤ 2 ^ 53) : rounded n = n := by
  rw [rounded, roundedNat_exact le, Int.sign_mul_natAbs]

theorem rounded_mono {m n : Int} (le : m ≤ n) : rounded m ≤ rounded n := by
  obtain ⟨a, rfl | rfl⟩ := m.eq_nat_or_neg
  · obtain ⟨b, rfl⟩ := Int.eq_ofNat_of_zero_le (Int.le_trans (Int.natCast_nonneg a) le)
    rw [rounded_natCast, rounded_natCast]
    exact Int.ofNat_le.mpr (roundedNat_mono (Int.ofNat_le.mp le))
  · obtain ⟨b, rfl | rfl⟩ := n.eq_nat_or_neg
    · rw [rounded_neg, rounded_natCast, rounded_natCast]
      omega
    · rw [rounded_neg, rounded_neg, rounded_natCast, rounded_natCast]
      have := roundedNat_mono (m := b) (n := a) (by omega)
      omega

end ResumableScript.Double
