import Gatehouse.Number.Reading
import Gatehouse.Proofs.Number.Bits

/-!
# Decimals as floating point numbers

A floating point number is made from a coefficient and a power of ten either through two numbers
that are exact, or with integers of any size.  Both ways give the binary64 number in whose interval
the decimal lies.

Main results:

- `InInterval.magnitude`: the interval of a binary64 number is within the range of the format.
- `ofScientific_eq`: the floating point number of a positive decimal.
- `toFloat_of_inInterval`: the floating point number of a decimal with a sign.
-/

namespace Gatehouse.Number

open Float.Model Float.Model.UnpackedFloat

/-! ## Magnitudes -/

/-- A power with any exponent is a quotient of two powers, one of which is one. -/
theorem zpow_eq_div (a : ℚ) (k : Int) : a ^ k = a ^ k.toNat / a ^ (-k).toNat := by
  rcases le_total 0 k with up | down
  · rw [Int.toNat_of_nonpos (by omega : -k ≤ 0), pow_zero, div_one, ← zpow_natCast,
      Int.toNat_of_nonneg up]
  · rw [Int.toNat_of_nonpos down, pow_zero, one_div, ← zpow_natCast, ← zpow_neg,
      Int.toNat_of_nonneg (by omega), neg_neg]

/-- The interval of a binary64 number is within the range of the format. -/
theorem InInterval.magnitude {v : ℚ} {m : Nat} {e : Int} (near : InInterval v m e)
    (canonical : Canonical m e) (range : e ≤ 971) :
    (2 : ℚ) ^ (-1075 : Int) ≤ v ∧ v < (2 : ℚ) ^ (1024 : Int) := by
  have power : (0 : ℚ) < 2 ^ e := zpow_pos two_pos e
  have positive : (1 : ℚ) ≤ m := by exact_mod_cast canonical.positive
  have short : (m : ℚ) + 1 ≤ 2 ^ 53 := by exact_mod_cast canonical.short
  constructor
  · refine le_trans ?_ near.low
    calc (2 : ℚ) ^ (-1075 : Int) = 1 / 2 * 2 ^ (-1074 : Int) := by
          rw [show (-1075 : Int) = -1 + -1074 by decide, zpow_add₀ two_ne_zero, zpow_neg_one,
            one_div]
      _ ≤ 1 / 2 * 2 ^ e := by
        have := zpow_le_zpow_right₀ (one_le_two (α := ℚ)) canonical.least
        linarith
      _ ≤ _ := mul_le_mul_of_nonneg_right (by split <;> linarith) power.le
  · refine near.high.trans_lt ?_
    calc ((m : ℚ) + 1 / 2) * 2 ^ e < 2 ^ 53 * 2 ^ e :=
          mul_lt_mul_of_pos_right (by linarith) power
      _ ≤ 2 ^ 53 * 2 ^ (971 : Int) := by
        have := zpow_le_zpow_right₀ (one_le_two (α := ℚ)) range
        linarith
      _ = 2 ^ (1024 : Int) := by
        rw [← zpow_natCast, ← zpow_add₀ two_ne_zero]
        rfl

/-- The powers of ten are further from one than those of two. -/
theorem zpow_two_ten (k : Int) :
    (0 ≤ k → (2 : ℚ) ^ k ≤ 10 ^ k) ∧ (k ≤ 0 → (10 : ℚ) ^ k ≤ 2 ^ k) := by
  constructor
  · intro h
    exact zpow_le_zpow_left₀ h (by norm_num) (by norm_num)
  · intro h
    rw [← neg_neg k, zpow_neg, zpow_neg 2]
    exact inv_anti₀ (zpow_pos two_pos _) (zpow_le_zpow_left₀ (by omega) (by norm_num) (by norm_num))

section Decimals

variable {c m : Nat} {k e : Int} (positive : 0 < c) (canonical : Canonical m e) (range : e ≤ 971)
  (near : InInterval (c * 10 ^ k) m e)
include positive canonical range near

/-- The power of ten of a decimal in the range of the format is not too large for the model. -/
theorem exponent_bounds : k ≤ 2048 ∧ -(2048 + (c.log2 : Int)) ≤ k := by
  obtain ⟨above, below⟩ := near.magnitude canonical range
  have least : (1 : ℚ) ≤ c := by exact_mod_cast positive
  have power : (0 : ℚ) < 10 ^ k := zpow_pos (by norm_num) k
  constructor
  · by_contra large
    have far : (2 : ℚ) ^ (1024 : Int) < 10 ^ k :=
      (zpow_lt_zpow_right₀ one_lt_two (by omega)).trans_le ((zpow_two_ten k).1 (by omega))
    have : (1 : ℚ) * 10 ^ k ≤ c * 10 ^ k := mul_le_mul_of_nonneg_right least power.le
    linarith
  · by_contra small
    have close : (10 : ℚ) ^ k ≤ 2 ^ k := (zpow_two_ten k).2 (by omega)
    have bits : (c : ℚ) < 2 ^ ((c.log2 : Int) + 1) := by
      have : (c : ℚ) < (2 ^ (c.log2 + 1) : Nat) := by exact_mod_cast Nat.lt_log2_self
      rw [← Nat.cast_succ, zpow_natCast]
      exact_mod_cast this
    have : (c : ℚ) * 10 ^ k < 2 ^ (-1075 : Int) :=
      calc (c : ℚ) * 10 ^ k < 2 ^ ((c.log2 : Int) + 1) * 10 ^ k :=
            mul_lt_mul_of_pos_right bits power
        _ ≤ 2 ^ ((c.log2 : Int) + 1) * 2 ^ k :=
          mul_le_mul_of_nonneg_left close (zpow_nonneg zero_le_two _)
        _ = 2 ^ ((c.log2 : Int) + 1 + k) := (zpow_add₀ two_ne_zero _ _).symm
        _ ≤ 2 ^ (-1075 : Int) := zpow_le_zpow_right₀ one_le_two (by omega)
    linarith

/-- With integers of any size, a decimal gives the binary64 number in whose interval it lies. -/
theorem model_ofScientific_eq :
    UnpackedFloat.ofScientific .binary64 c k = .finite .positive m e canonical.positive := by
  obtain ⟨large, small⟩ := exponent_bounds positive canonical range near
  unfold UnpackedFloat.ofScientific
  rw [dif_neg positive.ne', if_neg (by norm_num; omega), if_neg (by norm_num; omega)]
  split
  · next up =>
    refine mul_eq canonical ?_ ?_
    · rw [Nat.shiftLeft_eq]
      calc 2 ^ 52 ≤ 1 * 2 ^ 53 * 1 := by norm_num
        _ ≤ c * 2 ^ 53 * 10 ^ k.toNat :=
          Nat.mul_le_mul (Nat.mul_le_mul_right _ positive) (Nat.one_le_pow _ _ (by norm_num))
    · convert near using 1
      have exponent : (10 : ℚ) ^ k = 10 ^ k.toNat := by
        rw [← zpow_natCast, Int.toNat_of_nonneg up]
      rw [exponent, Nat.shiftLeft_eq]
      have back : (2 : ℚ) ^ (-(Format.binary64.mantissaBits : Int)) = (2 ^ 53)⁻¹ := by
        rw [zpow_neg, zpow_natCast]
        rfl
      rw [back]
      push_cast
      simp [Format.mantissaBits]
  · next down =>
    refine div_eq canonical ?_
    convert near using 1
    have exponent : (10 : ℚ) ^ k = (10 ^ (-k).toNat)⁻¹ := by
      rw [← zpow_natCast, ← zpow_neg, Int.toNat_of_nonneg (by omega), neg_neg]
    rw [exponent]
    push_cast
    simp [div_eq_mul_inv]

end Decimals

/-! ## Exact numbers -/

/-- A floating point number is a positive number with a full mantissa. -/
def IsExactly (x : Float) (v : ℚ) : Prop :=
  ∃ m e p, x.toModel.unpack = .finite .positive m e p ∧ 2 ^ 52 ≤ m ∧ (m : ℚ) * 2 ^ e = v

/-- A number lies in its own interval. -/
theorem inInterval_self (m : Nat) (e : Int) : InInterval (m * 2 ^ e) m e := by
  have power : (0 : ℚ) < 2 ^ e := zpow_pos two_pos e
  refine ⟨mul_le_mul_of_nonneg_right (by split <;> linarith) power.le,
    mul_le_mul_of_nonneg_right (by linarith) power.le, fun _ => ⟨?_, ?_⟩⟩
  · exact mul_lt_mul_of_pos_right (by linarith) power
  · exact mul_lt_mul_of_pos_right (by linarith) power

/-- A coefficient of at most fifty-three bits is a floating point number. -/
theorem isExactly_toFloat {c : Nat} (positive : 0 < c) (short : c < 2 ^ 53) :
    IsExactly c.toUInt64.toFloat c := by
  have bits : c.log2 < 53 := (Nat.log2_lt positive.ne').2 short
  have same : c.toUInt64.toNat = c := Nat.mod_eq_of_lt (by omega)
  have low : 2 ^ 52 ≤ c <<< (52 - c.log2) := by
    rw [Nat.shiftLeft_eq]
    calc 2 ^ 52 = 2 ^ c.log2 * 2 ^ (52 - c.log2) := by
          rw [← pow_add, Nat.add_sub_cancel' (by omega)]
      _ ≤ c * 2 ^ (52 - c.log2) := Nat.mul_le_mul_right _ (Nat.log2_self_le positive.ne')
  have high : c <<< (52 - c.log2) < 2 ^ 53 := by
    rw [Nat.shiftLeft_eq]
    calc c * 2 ^ (52 - c.log2) < 2 ^ (c.log2 + 1) * 2 ^ (52 - c.log2) :=
          Nat.mul_lt_mul_of_pos_right Nat.lt_log2_self (by positivity)
      _ = 2 ^ 53 := by
        rw [← pow_add]
        congr 1
        omega
  have canonical : Canonical (c <<< (52 - c.log2)) ((c.log2 : Int) - 52) :=
    ⟨by omega, high, by omega, .inl low⟩
  have rounded : UnpackedFloat.ofNat .binary64 c =
      .finite .positive (c <<< (52 - c.log2)) ((c.log2 : Int) - 52) canonical.positive := by
    have sign : compare (c : Int) 0 = .gt := Int.compare_eq_gt.2 (by omega)
    have shift : (0 - max ((c.log2 : Int) + 0 - 52) (-1074)).toNat = 52 - c.log2 := by omega
    have exponent : 0 - ((52 - c.log2 : Nat) : Int) = (c.log2 : Int) - 52 := by omega
    simp only [UnpackedFloat.ofNat, UnpackedFloat.ofInt, UnpackedFloat.normalize, sign,
      UnpackedFloat.round, decreaseExponent, Int.toNat_natCast, targetExponent_eq, shift, exponent]
    have leading : (c <<< (52 - c.log2)).log2 = 52 :=
      (Nat.log2_eq_iff canonical.positive.ne').2 ⟨low, high⟩
    exact roundWithAccuracy_eq (represents_exact _) (by omega) canonical (inInterval_self _ _)
  refine ⟨c <<< (52 - c.log2), (c.log2 : Int) - 52, canonical.positive, ?_, low, ?_⟩
  · have model : c.toUInt64.toFloat.toModel =
        Float.Model.pack (UnpackedFloat.ofNat .binary64 c.toUInt64.toNat) := rfl
    rw [model, same, rounded, unpack_pack canonical (by omega)]
  · have exponent : (c.log2 : Int) - 52 = -((52 - c.log2 : Nat) : Int) := by omega
    rw [exponent, zpow_neg, zpow_natCast, Nat.shiftLeft_eq]
    push_cast
    exact mul_inv_cancel_right₀ (pow_ne_zero _ two_ne_zero) _

/-- The listed powers of ten are exact. -/
theorem isExactly_power {j : Nat} (h : j < Float.exactlyRepresentablePowersOfTen.size) :
    IsExactly Float.exactlyRepresentablePowersOfTen[j] ((10 : ℚ) ^ j) := by
  have listed : ∀ i : Fin 23,
      (match (Float.exactlyRepresentablePowersOfTen[i.val]).toModel.unpack with
        | .finite .positive m e _ => decide (2 ^ 52 ≤ m ∧
            m * 2 ^ e.toNat = 10 ^ i.val * 2 ^ (-e).toNat)
        | _ => false) = true := by decide +kernel
  have known := listed ⟨j, h⟩
  split at known
  · next m e p found =>
    obtain ⟨long, value⟩ := of_decide_eq_true known
    refine ⟨m, e, p, found, long, ?_⟩
    rw [zpow_eq_div, mul_div_assoc', div_eq_iff (by positivity)]
    exact_mod_cast value
  · cases known

/-! ## Decimals -/

section Decimals

variable {c m : Nat} {k e : Int} (positive : 0 < c) (canonical : Canonical m e) (range : e ≤ 971)
  (near : InInterval (c * 10 ^ k) m e)
include positive canonical range near

/-- A decimal gives the binary64 number in whose interval it lies. -/
theorem ofScientific_eq :
    Float.ofScientific c (decide (k < 0)) k.natAbs =
      .ofModel (.pack (.finite .positive m e canonical.positive)) := by
  unfold Float.ofScientific
  split
  · next exact =>
    obtain ⟨m₁, e₁, p₁, first, long, coefficient⟩ := isExactly_toFloat positive exact.1
    have index : k.natAbs < Float.exactlyRepresentablePowersOfTen.size :=
      Nat.lt_succ_iff.2 exact.2
    obtain ⟨m₂, e₂, p₂, second, -, power⟩ := isExactly_power index
    have quotient (x y : Float) : x / y =
        .ofModel (.pack (UnpackedFloat.div .binary64 x.toModel.unpack y.toModel.unpack)) := rfl
    have product (x y : Float) : x * y =
        .ofModel (.pack (UnpackedFloat.mul .binary64 x.toModel.unpack y.toModel.unpack)) := rfl
    by_cases down : k < 0
    · have exponent : (10 : ℚ) ^ k = (10 ^ k.natAbs)⁻¹ := by
        rw [← zpow_natCast, ← zpow_neg]
        congr 1
        omega
      rw [exponent, ← div_eq_mul_inv, ← coefficient, ← power] at near
      simp only [down, decide_true, if_true, quotient, first, second, div_eq canonical near]
      rfl
    · have exponent : (10 : ℚ) ^ k = 10 ^ k.natAbs := by
        rw [← zpow_natCast]
        congr 1
        omega
      rw [exponent, ← coefficient, ← power] at near
      have enough : 2 ^ 52 ≤ m₁ * m₂ := long.trans (Nat.le_mul_of_pos_right _ p₂)
      simp only [down, decide_false, Bool.false_eq_true, if_false, product, first, second,
        mul_eq canonical enough near]
      rfl
  · have exponent : (if decide (k < 0) = true then Int.negOfNat k.natAbs else Int.ofNat k.natAbs) =
        k := by
      by_cases down : k < 0
      · simp only [down, decide_true, if_true, Int.negOfNat_eq, Int.ofNat_eq_natCast]
        omega
      · simp only [down, decide_false, Bool.false_eq_true, if_false, Int.ofNat_eq_natCast]
        omega
    simp only [exponent, Float.Model.ofScientific,
      model_ofScientific_eq positive canonical range near]

end Decimals

/-! ## Signs -/

/-- The sign of the negative numbers or that of the others. -/
def signFor (negative : Bool) : Sign :=
  if negative then .negative else .positive

/-- The sign that the parts of a number tell is the sign of the number. -/
theorem signFor_isNegative (s : Sign) : signFor (isNegative s) = s := by
  cases s <;> rfl

/-- A number with the sign of the negative numbers is the opposite of the one without. -/
theorem neg_finite {m : Nat} {e : Int} (canonical : Canonical m e) (range : e ≤ 971) :
    -Float.ofModel (.pack (.finite .positive m e canonical.positive)) =
      .ofModel (.pack (.finite .negative m e canonical.positive)) := by
  have opposite (f : Float.Model) : -Float.ofModel f = .ofModel (.pack f.unpack.neg) := rfl
  rw [opposite, unpack_pack canonical range]
  rfl

/-- The number of digits of a positive number is that of the least greater power of ten. -/
theorem digitCount_bounds {n : Nat} (h : 0 < n) :
    10 ^ (digitCount n - 1) ≤ n ∧ n < 10 ^ digitCount n := by
  have positive : 0 < digitCount n := Nat.length_toDigits_pos
  refine ⟨?_, (Nat.length_toDigits_le_iff (by decide) positive).1 le_rfl⟩
  by_cases one : digitCount n = 1
  · rw [one]
    exact h
  · by_contra small
    have := (Nat.length_toDigits_le_iff (b := 10) (k := digitCount n - 1) (by decide)
      (by omega)).2 (not_le.1 small)
    unfold digitCount at *
    omega

/-- The leading digit of a decimal in the range of the format stands at a moderate power of ten. -/
theorem leading_bounds {c m : Nat} {k e : Int} (positive : 0 < c) (canonical : Canonical m e)
    (range : e ≤ 971) (near : InInterval (c * 10 ^ k) m e) :
    (digitCount c : Int) + k ≤ 310 ∧ -330 ≤ (digitCount c : Int) + k := by
  obtain ⟨above, below⟩ := near.magnitude canonical range
  obtain ⟨low, high⟩ := digitCount_bounds positive
  have power : (0 : ℚ) < 10 ^ k := zpow_pos (by norm_num) _
  have counted : 0 < digitCount c := Nat.length_toDigits_pos
  generalize digitCount c = n at low high counted
  constructor
  · by_contra far
    have : (2 : ℚ) ^ (1024 : Int) < c * 10 ^ k :=
      calc (2 : ℚ) ^ (1024 : Int) < 10 ^ (310 : Int) := by
            exact_mod_cast (show 2 ^ 1024 < 10 ^ 310 by decide +kernel)
        _ ≤ 10 ^ (((n - 1 : Nat) : Int) + k) := zpow_le_zpow_right₀ (by norm_num) (by omega)
        _ = 10 ^ (n - 1) * 10 ^ k := by rw [zpow_add₀ (by norm_num), zpow_natCast]
        _ ≤ c * 10 ^ k := mul_le_mul_of_nonneg_right (by exact_mod_cast low) power.le
    linarith
  · by_contra close
    have : (c : ℚ) * 10 ^ k < 2 ^ (-1075 : Int) :=
      calc (c : ℚ) * 10 ^ k < 10 ^ n * 10 ^ k :=
            mul_lt_mul_of_pos_right (by exact_mod_cast high) power
        _ = 10 ^ ((n : Int) + k) := by rw [zpow_add₀ (by norm_num), zpow_natCast]
        _ ≤ 10 ^ (-331 : Int) := zpow_le_zpow_right₀ (by norm_num) (by omega)
        _ < 2 ^ (-1075 : Int) := by
          rw [zpow_neg, zpow_neg, inv_lt_inv₀ (by positivity) (by positivity)]
          exact_mod_cast (show 2 ^ 1075 < 10 ^ 331 by decide +kernel)
    linarith

/-- A decimal with a sign gives the binary64 number with that sign in whose interval it lies. -/
theorem toFloat_of_inInterval {d : Decimal} {m : Nat} {e : Int} (positive : 0 < d.coefficient)
    (canonical : Canonical m e) (range : e ≤ 971)
    (near : InInterval (d.coefficient * 10 ^ d.exponent) m e) :
    d.toFloat = .ofModel (.pack (.finite (signFor d.negative) m e canonical.positive)) := by
  obtain ⟨low, high⟩ := leading_bounds positive canonical range near
  simp only [Decimal.toFloat, positive.ne', not_lt.2 low, not_lt.2 high, if_false,
    ofScientific_eq positive canonical range near]
  cases d.negative with
  | true => exact neg_finite canonical range
  | false => rfl

/-- A decimal that is zero gives the zero of its sign. -/
theorem toFloat_zero (negative : Bool) (exponent : Int) :
    Decimal.toFloat ⟨negative, 0, exponent⟩ = .ofModel (.pack (.zero (signFor negative))) := by
  simp only [Decimal.toFloat, if_true]
  cases negative <;> decide +kernel

end Gatehouse.Number
