import Gatehouse.Number.Nearest
import Mathlib.Algebra.Order.Field.Power
import Mathlib.Algebra.Order.Floor.Ring
import Mathlib.Data.Rat.Floor
import Mathlib.Data.Rat.Cast.Order
import Mathlib.Tactic.Linarith

/-!
# Rounding keeps the order

Rounding to an integer, to a number of significant bits and toward zero never puts two numbers in
the other order.  For significant bits this is so because the unit that a number is rounded to is
that of its leading bit: a number never rounds beyond the power of two above it, and one with a
greater leading bit never rounds below that power.

Main results:

- `roundHalfEven_mono`, `roundSignificant_mono`: rounding keeps the order.
- `leadingPower_bounds`: the leading bit of a positive number.
- `roundHalfEven_intCast`: an integer stays as it is.
- `truncate_of_nonneg`, `truncate_neg`: the integer part of a number, and of its opposite.
-/

namespace Gatehouse.Number

/-! ## Integers -/

/-- Rounding to an integer moves a number by at most one half. -/
theorem roundHalfEven_close (q : ℚ) :
    (roundHalfEven q : ℚ) - q ≤ 1 / 2 ∧ q - roundHalfEven q ≤ 1 / 2 := by
  have pos : (0 : ℚ) < q.den := by exact_mod_cast q.den_pos
  have parts : q * q.den = q.num := Rat.mul_den_eq_num q
  rcases roundHalfEven_mul_den_close q with ⟨above, below⟩
  have above' : 2 * ((roundHalfEven q : ℚ) * q.den - q.num) ≤ q.den := by exact_mod_cast above
  have below' : 2 * ((q.num : ℚ) - roundHalfEven q * q.den) ≤ q.den := by exact_mod_cast below
  rw [← parts] at above' below'
  constructor
  · refine le_of_mul_le_mul_right ?_ pos
    linarith
  · refine le_of_mul_le_mul_right ?_ pos
    linarith

/-- Rounding to an integer keeps the order. -/
theorem roundHalfEven_mono {q r : ℚ} (order : q ≤ r) : roundHalfEven q ≤ roundHalfEven r := by
  by_contra crossed
  have apart : (roundHalfEven r : ℚ) + 1 ≤ roundHalfEven q := by exact_mod_cast not_le.1 crossed
  have high := (roundHalfEven_close q).1
  have low := (roundHalfEven_close r).2
  -- only one number is both half above an integer and half below the next one
  have same : q = r := le_antisymm order (by linarith)
  exact crossed (by rw [same])

/-- An integer stays as it is. -/
theorem roundHalfEven_intCast (n : Int) : roundHalfEven (n : ℚ) = n := by
  rcases roundHalfEven_close (n : ℚ) with ⟨above, below⟩
  have above' : (roundHalfEven (n : ℚ) : ℚ) < n + 1 := by linarith
  have below' : (n : ℚ) < roundHalfEven (n : ℚ) + 1 := by linarith
  exact le_antisymm (Int.lt_add_one_iff.1 (by exact_mod_cast above'))
    (Int.lt_add_one_iff.1 (by exact_mod_cast below'))

/-- The integer part of a number that is not negative. -/
theorem truncate_of_nonneg {q : ℚ} (nonneg : 0 ≤ q) : truncate q = ⌊q⌋ := by
  rw [truncate, Int.tdiv_eq_ediv_of_nonneg (Rat.num_nonneg.2 nonneg), Rat.floor_def']

/-- The integer part of the opposite of a number. -/
theorem truncate_neg (q : ℚ) : truncate (-q) = -truncate q := by
  rw [truncate, truncate, Rat.neg_num, Rat.neg_den, Int.neg_tdiv]

/-! ## Significant bits -/

/-- Scaling is multiplying by a power of two. -/
theorem scaled_one (e : Int) : scaled 1 e = (2 : ℚ) ^ e := by
  unfold scaled
  split
  · next nonneg =>
    lift e to ℕ using nonneg
    simp [zpow_natCast]
  · next negative =>
    rcases Int.eq_negSucc_of_lt_zero (not_le.1 negative) with ⟨n, rfl⟩
    rw [zpow_negSucc, Rat.mkRat_eq_div]
    simp [Int.negSucc_eq]

/-- The powers of two around a positive integer. -/
theorem log2_bounds {n : Nat} (positive : 0 < n) :
    (2 : ℚ) ^ (n.log2 : Int) ≤ n ∧ (n : ℚ) < 2 ^ ((n.log2 : Int) + 1) := by
  constructor
  · rw [zpow_natCast]
    exact_mod_cast Nat.log2_self_le positive.ne'
  · rw [← Nat.cast_succ, zpow_natCast]
    exact_mod_cast Nat.lt_log2_self

/-- The leading bit of a positive number is the greatest power of two that is not above it. -/
theorem leadingPower_bounds {q : ℚ} (positive : 0 < q) :
    (2 : ℚ) ^ leadingPower q ≤ q ∧ q < 2 ^ (leadingPower q + 1) := by
  have numerator : 0 < q.num.natAbs := Int.natAbs_pos.2 (Rat.num_pos.2 positive).ne'
  have parts : q * q.den = q.num.natAbs := by
    rw [Rat.mul_den_eq_num, ← Int.cast_natCast, Int.natAbs_of_nonneg (Rat.num_pos.2 positive).le]
  rcases log2_bounds numerator with ⟨numLow, numHigh⟩
  rcases log2_bounds q.den_pos with ⟨denLow, denHigh⟩
  unfold leadingPower
  simp only [scaled_one]
  generalize (q.num.natAbs.log2 : Int) = a at *
  generalize (q.den.log2 : Int) = b at *
  -- the quotient lies between a quarter and the double of the quotient of the leading bits
  have low : (2 : ℚ) ^ (a - b - 1) < q := by
    refine lt_of_mul_lt_mul_right ?_ (Nat.cast_nonneg q.den)
    calc (2 : ℚ) ^ (a - b - 1) * q.den
      _ < 2 ^ (a - b - 1) * 2 ^ (b + 1) := by gcongr
      _ = 2 ^ a := by rw [← zpow_add₀ two_ne_zero]; congr 1; ring
      _ ≤ q * q.den := numLow.trans_eq parts.symm
  have high : q < 2 ^ (a - b + 1) := by
    refine lt_of_mul_lt_mul_right ?_ (zpow_nonneg zero_le_two b)
    calc q * 2 ^ b
      _ ≤ q * q.den := by gcongr
      _ < 2 ^ (a + 1) := parts.trans_lt numHigh
      _ = 2 ^ (a - b + 1) * 2 ^ b := by rw [← zpow_add₀ two_ne_zero]; congr 1; ring
  split
  · next below =>
    rw [sub_add_cancel]
    exact ⟨low.le, below⟩
  · next above => exact ⟨not_lt.1 above, high⟩

/-- A number with no greater leading bit is below a number. -/
theorem leadingPower_mono {q r : ℚ} (positive : 0 < q) (order : q ≤ r) :
    leadingPower q ≤ leadingPower r := by
  have low := (leadingPower_bounds positive).1
  have high := (leadingPower_bounds (positive.trans_le order)).2
  have powers : (2 : ℚ) ^ leadingPower q < 2 ^ (leadingPower r + 1) :=
    (low.trans order).trans_lt high
  exact Int.lt_add_one_iff.1 ((zpow_lt_zpow_iff_right₀ one_lt_two).1 powers)

section Significant

variable {q r : ℚ} {bits : Nat}

/-- A positive number is rounded to an integer number of units of its last significant bit. -/
theorem roundSignificant_of_pos (positive : 0 < q) :
    roundSignificant bits q =
      roundHalfEven (q / 2 ^ (leadingPower q - ((bits : Int) - 1))) *
        2 ^ (leadingPower q - ((bits : Int) - 1)) := by
  rw [roundSignificant, if_neg positive.ne']
  simp only [inUnits, scaled_one]

/-- A positive number is rounded to a number between the powers of two around it. -/
theorem roundSignificant_bounds (positive : 0 < q) (some : 0 < bits) :
    (2 : ℚ) ^ leadingPower q ≤ roundSignificant bits q ∧
      roundSignificant bits q ≤ 2 ^ (leadingPower q + 1) := by
  rcases leadingPower_bounds positive with ⟨low, high⟩
  rw [roundSignificant_of_pos positive]
  have unit : (0 : ℚ) < 2 ^ (leadingPower q - ((bits : Int) - 1)) := zpow_pos two_pos _
  -- in units of the last bit, both powers of two are integers
  have first : (2 : ℚ) ^ leadingPower q =
      ((2 ^ (bits - 1) : Int) : ℚ) * 2 ^ (leadingPower q - ((bits : Int) - 1)) := by
    rw [Int.cast_pow, Int.cast_ofNat, ← zpow_natCast, ← zpow_add₀ two_ne_zero]
    congr 1
    omega
  have next : (2 : ℚ) ^ (leadingPower q + 1) =
      ((2 ^ bits : Int) : ℚ) * 2 ^ (leadingPower q - ((bits : Int) - 1)) := by
    rw [Int.cast_pow, Int.cast_ofNat, ← zpow_natCast, ← zpow_add₀ two_ne_zero]
    congr 1
    omega
  rw [first] at low ⊢
  rw [next] at high ⊢
  have low' := roundHalfEven_mono ((le_div_iff₀ unit).2 low)
  have high' := roundHalfEven_mono ((div_le_iff₀ unit).2 high.le)
  rw [roundHalfEven_intCast] at low' high'
  constructor
  · gcongr
  · gcongr

/-- Rounding to significant bits keeps the order. -/
theorem roundSignificant_mono (some : 0 < bits) (nonneg : 0 ≤ q) (order : q ≤ r) :
    roundSignificant bits q ≤ roundSignificant bits r := by
  rcases nonneg.eq_or_lt with rfl | positive
  · rcases order.eq_or_lt with rfl | positive
    · exact le_rfl
    · calc roundSignificant bits 0
        _ = 0 := if_pos rfl
        _ ≤ 2 ^ leadingPower r := zpow_nonneg zero_le_two _
        _ ≤ roundSignificant bits r := (roundSignificant_bounds positive some).1
  · rcases (leadingPower_mono positive order).eq_or_lt with same | further
    · -- both are rounded to the same unit
      rw [roundSignificant_of_pos positive, roundSignificant_of_pos (positive.trans_le order), same]
      have quotients := roundHalfEven_mono
        (div_le_div_of_nonneg_right order (zpow_nonneg zero_le_two _) :
          q / 2 ^ (leadingPower r - ((bits : Int) - 1)) ≤ _)
      gcongr
    · calc roundSignificant bits q
        _ ≤ 2 ^ (leadingPower q + 1) := (roundSignificant_bounds positive some).2
        _ ≤ 2 ^ leadingPower r := zpow_le_zpow_right₀ one_le_two further
        _ ≤ roundSignificant bits r :=
          (roundSignificant_bounds (positive.trans_le order) some).1

end Significant

end Gatehouse.Number
