import Mathlib

/-!
# Rounding to binary64 numbers

Floating point operations compute a mantissa with two residual bits and round it.  The mantissa
and its residual bits stand for a rational number; shifting keeps that number, and rounding goes
to the nearest integer, a half to the even one.  Hence a quotient or a product of two numbers that
lies in the interval of a binary64 number is rounded to that number.

Main results:

- `Represents`: the rational number that a mantissa with its residual bits stands for.
- `roundWithAccuracy_eq`: a number is rounded to the binary64 number in whose interval it lies.
- `div_eq`, `mul_eq`: the same of quotients and of products.
-/

namespace Gatehouse.Number

open Float.Model Float.Model.UnpackedFloat

/-! ## Mantissas with residual bits -/

/-- A mantissa with its residual bits stands for a rational number. -/
def Represents (em : ExtendedMantissa) (x : ℚ) : Prop :=
  if em.roundBit then
    if em.stickyBit then (em.mantissa : ℚ) + 1 / 2 < x ∧ x < em.mantissa + 1
    else x = em.mantissa + 1 / 2
  else
    if em.stickyBit then (em.mantissa : ℚ) < x ∧ x < em.mantissa + 1 / 2
    else x = em.mantissa

/-- A number rounds to an integer: it is at most a half away, and less if the integer is odd. -/
structure RoundsTo (x : ℚ) (r : Nat) : Prop where
  low : (r : ℚ) - 1 / 2 ≤ x
  high : x ≤ r + 1 / 2
  odd : r % 2 = 1 → (r : ℚ) - 1 / 2 < x ∧ x < r + 1 / 2

/-- A mantissa alone stands for itself. -/
theorem represents_exact (m : Nat) :
    Represents (ExtendedMantissa.ofMantissaAndAccuracy m .exact) m := by
  simp [Represents, ExtendedMantissa.ofMantissaAndAccuracy]

/-- The integer part of a quotient with the place of its fraction stands for the quotient. -/
theorem represents_quotient (n : Nat) {d : Nat} (hd : 0 < d) :
    Represents (ExtendedMantissa.ofMantissaAndAccuracy (n / d) (accuracyOfFraction (n % d) d))
      ((n : ℚ) / d) := by
  have pos : (0 : ℚ) < d := by exact_mod_cast hd
  have split : (n : ℚ) / d = (n / d : Nat) + ((n % d : Nat) : ℚ) / d := by
    rw [div_eq_iff pos.ne', add_mul, div_mul_cancel₀ _ pos.ne']
    exact_mod_cast (Nat.div_add_mod' n d).symm
  have below : ((n % d : Nat) : ℚ) / d < 1 := by
    rw [div_lt_one pos]
    exact_mod_cast Nat.mod_lt n hd
  rw [split]
  unfold accuracyOfFraction
  split
  · next zero => simp [Represents, ExtendedMantissa.ofMantissaAndAccuracy, zero]
  · next positive =>
    have above : 0 < ((n % d : Nat) : ℚ) / d :=
      div_pos (by exact_mod_cast Nat.pos_of_ne_zero positive) pos
    cases order : compare (2 * (n % d)) d with
    | lt =>
      have half : ((n % d : Nat) : ℚ) / d < 1 / 2 := by
        rw [div_lt_div_iff₀ pos two_pos]
        have := Nat.compare_eq_lt.1 order
        exact_mod_cast (by omega : n % d * 2 < 1 * d)
      simp only [Represents, ExtendedMantissa.ofMantissaAndAccuracy, Bool.false_eq_true, if_false,
        if_true]
      constructor <;> linarith
    | eq =>
      have half : ((n % d : Nat) : ℚ) / d = 1 / 2 := by
        rw [div_eq_div_iff pos.ne' two_ne_zero]
        have := Nat.compare_eq_eq.1 order
        exact_mod_cast (by omega : n % d * 2 = 1 * d)
      simp only [Represents, ExtendedMantissa.ofMantissaAndAccuracy, Bool.false_eq_true, if_false,
        if_true, half]
    | gt =>
      have half : 1 / 2 < ((n % d : Nat) : ℚ) / d := by
        rw [div_lt_div_iff₀ two_pos pos]
        have := Nat.compare_eq_gt.1 order
        exact_mod_cast (by omega : 1 * d < n % d * 2)
      simp only [Represents, ExtendedMantissa.ofMantissaAndAccuracy, if_true]
      constructor <;> linarith

namespace Represents

variable {em : ExtendedMantissa} {x : ℚ} (h : Represents em x)
include h

/-- The mantissa is the integer part. -/
theorem bounds : (em.mantissa : ℚ) ≤ x ∧ x < em.mantissa + 1 := by
  rcases em with ⟨m, r, s⟩
  cases r <;> cases s <;> simp only [Represents, Bool.false_eq_true, if_false, if_true] at h <;>
    constructor <;> linarith

/-- Shifting by one bit halves the number. -/
theorem shiftRightOne : Represents em.shiftRightOne (x / 2) := by
  rcases em with ⟨m, r, s⟩
  have whole : ((m % 2 : Nat) : ℚ) + 2 * ((m / 2 : Nat) : ℚ) = m := by
    exact_mod_cast Nat.mod_add_div m 2
  rcases Nat.mod_two_eq_zero_or_one m with bit | bit <;> rw [bit] at whole <;>
    cases r <;> cases s <;>
    simp only [Represents, ExtendedMantissa.shiftRightOne, bit, Bool.false_eq_true, if_false,
      if_true, Bool.or_false, Bool.or_true, bne_self_eq_false, Nat.cast_zero, Nat.cast_one,
      ne_eq, one_ne_zero, not_false_eq_true, bne_iff_ne] at h whole ⊢ <;>
    (try constructor) <;> linarith

/-- Shifting divides the number by a power of two. -/
theorem shiftRight (n : Nat) : Represents (em >>> n) (x / 2 ^ n) := by
  change Represents (n.repeat ExtendedMantissa.shiftRightOne em) _
  induction n with
  | zero => simpa [Nat.repeat] using h
  | succ n ih =>
    rw [Nat.repeat, pow_succ, ← div_div]
    exact ih.shiftRightOne

/-- Rounding a mantissa by its residual bits goes to the integer that the number rounds to. -/
theorem roundedMantissa {r : Nat} (near : RoundsTo x r) : em.roundedMantissa = r := by
  obtain ⟨low, high, odd⟩ := near
  have below : ∀ k : Nat, (r : ℚ) < k + 1 → r ≤ k := fun k hk =>
    Nat.lt_succ_iff.1 (by exact_mod_cast hk)
  have above : ∀ k : Nat, (k : ℚ) < r + 1 → k ≤ r := fun k hk =>
    Nat.lt_succ_iff.1 (by exact_mod_cast hk)
  rcases em with ⟨m, b, s⟩
  cases b <;> cases s <;>
    simp only [Represents, Bool.false_eq_true, if_false, if_true] at h <;>
    simp only [ExtendedMantissa.roundedMantissa, ExtendedMantissa.accuracy,
      Accuracy.roundToNearestEven]
  · exact le_antisymm (above m (by linarith)) (below m (by linarith))
  · exact le_antisymm (above m (by linarith)) (below m (by linarith))
  · have next : r ≤ m + 1 := below (m + 1) (by push_cast; linarith)
    have first : m ≤ r := above m (by linarith)
    rcases Nat.mod_two_eq_zero_or_one r with even | isOdd
    · omega
    · obtain ⟨strictLow, strictHigh⟩ := odd isOdd
      have : r ≤ m := below m (by linarith)
      have : m + 1 ≤ r := above (m + 1) (by push_cast; linarith)
      omega
  · refine le_antisymm (above (m + 1) ?_) (below (m + 1) ?_) <;> push_cast <;> linarith

end Represents

/-! ## Numbers of the format -/

/-- A mantissa and an exponent are those of a positive binary64 number. -/
structure Canonical (m : Nat) (e : Int) : Prop where
  positive : 0 < m
  short : m < 2 ^ 53
  least : -1074 ≤ e
  full : 2 ^ 52 ≤ m ∨ e = -1074

/-- A rational number lies in the interval of the reals that round to a binary64 number. -/
structure InInterval (v : ℚ) (m : Nat) (e : Int) : Prop where
  low : ((m : ℚ) - (if m = 2 ^ 52 ∧ e ≠ -1074 then 1 / 4 else 1 / 2)) * 2 ^ e ≤ v
  high : v ≤ ((m : ℚ) + 1 / 2) * 2 ^ e
  odd : m % 2 = 1 → ((m : ℚ) - 1 / 2) * 2 ^ e < v ∧ v < ((m : ℚ) + 1 / 2) * 2 ^ e

/-- The least exponent of binary64 numbers, and the exponent of a number with a leading bit. -/
theorem targetExponent_eq (m : Nat) (e : Int) :
    Format.binary64.targetExponent (totalExponent m e) = max ((m.log2 : Int) + e - 52) (-1074) := by
  simp only [Format.targetExponent, totalExponent, Format.mantissaBits, Format.minExponent]
  norm_num
  omega

/-! ## Rounding -/

/-- A short mantissa stays where it is. -/
theorem shift_of_short {m : Nat} {e : Int} (short : m < 2 ^ 53) (least : -1074 ≤ e) :
    shiftToTargetExponent .binary64 m e .exact = (⟨m, false, false⟩, e) := by
  have bits : m.log2 ≤ 52 := by
    by_cases zero : m = 0
    · simp [zero]
    · have := (Nat.log2_lt zero).2 short
      omega
  have stays : (max ((m.log2 : Int) + e - 52) (-1074) - e).toNat = 0 := by omega
  simp only [shiftToTargetExponent, shiftToExponent, targetExponent_eq, stays]
  simp [HShiftRight.hShiftRight, Nat.repeat, ExtendedMantissa.ofMantissaAndAccuracy]

/-- A mantissa that rounding has made too long is halved. -/
theorem shift_of_carry {e : Int} (least : -1074 ≤ e) :
    shiftToTargetExponent .binary64 (2 ^ 53) e .exact = (⟨2 ^ 52, false, false⟩, e + 1) := by
  have one : (max (((2 ^ 53 : Nat).log2 : Int) + e - 52) (-1074) - e).toNat = 1 := by
    rw [Nat.log2_two_pow]
    omega
  simp only [shiftToTargetExponent, shiftToExponent, targetExponent_eq, one]
  simp [HShiftRight.hShiftRight, Nat.repeat, ExtendedMantissa.ofMantissaAndAccuracy,
    ExtendedMantissa.shiftRightOne]

section Rounding

variable {s : Sign} {n m : Nat} {b e : Int} {acc : Accuracy} {em : ExtendedMantissa}

/-- A mantissa that is rounded to a short one is done. -/
theorem roundWithAccuracy_of_short (first : shiftToTargetExponent .binary64 n b acc = (em, e))
    (rounded : em.roundedMantissa = m) (canonical : Canonical m e) :
    roundWithAccuracy .binary64 s n b acc = .finite s m e canonical.positive := by
  simp only [roundWithAccuracy, first, rounded, shift_of_short canonical.short canonical.least,
    canonical.positive.ne', dite_false]

/-- A mantissa that is rounded to one that is too long is halved. -/
theorem roundWithAccuracy_of_carry
    (first : shiftToTargetExponent .binary64 n b acc = (em, e - 1))
    (rounded : em.roundedMantissa = 2 ^ 53) (least : -1074 ≤ e - 1) :
    roundWithAccuracy .binary64 s n b acc = .finite s (2 ^ 52) e (by decide) := by
  simp only [roundWithAccuracy, first, rounded, shift_of_carry least, sub_add_cancel]
  rfl

end Rounding

section Interval

variable {n m : Nat} {b e : Int} {acc : Accuracy} {x : ℚ}

/-- A number is between the powers of two around its leading bit. -/
theorem Represents.log2_bounds
    (h : Represents (ExtendedMantissa.ofMantissaAndAccuracy n acc) x) (b : Int) :
    (n ≠ 0 → (2 : ℚ) ^ ((n.log2 : Int) + b) ≤ x * 2 ^ b) ∧
      x * 2 ^ b < (2 : ℚ) ^ ((n.log2 : Int) + b + 1) := by
  have mantissa : (ExtendedMantissa.ofMantissaAndAccuracy n acc).mantissa = n := by
    unfold ExtendedMantissa.ofMantissaAndAccuracy
    split <;> rfl
  obtain ⟨low, high⟩ := h.bounds
  rw [mantissa] at low high
  have two : (2 : ℚ) ≠ 0 := two_ne_zero
  have power : (0 : ℚ) < 2 ^ b := zpow_pos two_pos b
  constructor
  · intro nonzero
    rw [zpow_add₀ two, zpow_natCast]
    have : ((2 ^ n.log2 : Nat) : ℚ) ≤ n := by exact_mod_cast Nat.log2_self_le nonzero
    push_cast at this
    exact mul_le_mul_of_nonneg_right (this.trans low) power.le
  · rw [add_right_comm, zpow_add₀ two, ← Nat.cast_succ, zpow_natCast]
    have : ((n + 1 : Nat) : ℚ) ≤ (2 ^ (n.log2 + 1) : Nat) := by exact_mod_cast Nat.lt_log2_self
    push_cast at this
    exact mul_lt_mul_of_pos_right (high.trans_le this) power

/-- The exponent that a number is shifted to is that of the binary64 number in whose interval it
lies, or the one below if that number is a power of two. -/
theorem exponent_cases (canonical : Canonical m e) {v : ℚ} (near : InInterval v m e) {t : Int}
    (least : -1074 ≤ t) (low : t ≠ -1074 → (2 : ℚ) ^ (t + 52) ≤ v)
    (high : v < (2 : ℚ) ^ (t + 53)) : t = e ∨ (m = 2 ^ 52 ∧ e ≠ -1074 ∧ t = e - 1) := by
  have power : (0 : ℚ) < 2 ^ e := zpow_pos two_pos e
  have scale : ∀ k : Int, (2 : ℚ) ^ (e + k) = 2 ^ k * 2 ^ e := fun k => by
    rw [zpow_add₀ two_ne_zero, mul_comm]
  have order : ∀ {i j : Int}, (2 : ℚ) ^ i < 2 ^ j → i < j :=
    fun h => (zpow_lt_zpow_iff_right₀ one_lt_two).1 h
  rcases lt_trichotomy t e with below | rfl | above
  · right
    have normal : e ≠ -1074 := by omega
    have full : 2 ^ 52 ≤ m := canonical.full.resolve_right normal
    have mantissa : (2 ^ 52 : ℚ) ≤ m := by exact_mod_cast full
    -- a number with a full mantissa is too large for an exponent further down
    have large : (2 : ℚ) ^ (e + 51) < v := by
      refine lt_of_lt_of_le ?_ near.low
      rw [scale]
      apply mul_lt_mul_of_pos_right _ power
      split <;> norm_num <;> linarith
    have next : t = e - 1 := by
      have := order (large.trans high)
      omega
    refine ⟨?_, normal, next⟩
    by_contra other
    have more : ((2 ^ 52 + 1 : Nat) : ℚ) ≤ m := by exact_mod_cast (by omega : 2 ^ 52 + 1 ≤ m)
    have beyond : (2 : ℚ) ^ (e + 52) < v := by
      refine lt_of_lt_of_le ?_ near.low
      rw [scale]
      apply mul_lt_mul_of_pos_right _ power
      rw [if_neg (fun h => other h.1)]
      push_cast at more
      norm_num
      linarith
    have := order (beyond.trans high)
    omega
  · exact .inl rfl
  · exfalso
    have short : (m : ℚ) + 1 ≤ 2 ^ 53 := by exact_mod_cast canonical.short
    have small : v < (2 : ℚ) ^ (e + 53) := by
      refine lt_of_le_of_lt near.high ?_
      rw [scale]
      apply mul_lt_mul_of_pos_right _ power
      norm_num at short ⊢
      linarith
    have least := canonical.least
    have := order ((low (by omega)).trans_lt small)
    omega

/-- A mantissa that is shifted to a larger exponent stands for the same number in units of that
exponent. -/
theorem Represents.exists_shifted {em : ExtendedMantissa} (h : Represents em x) {t : Int}
    (up : b ≤ t) : ∃ y, Represents (em >>> (t - b).toNat) y ∧ y * 2 ^ t = x * 2 ^ b := by
  refine ⟨_, h.shiftRight (t - b).toNat, ?_⟩
  have exponents : (2 : ℚ) ^ t = 2 ^ (t - b).toNat * 2 ^ b := by
    rw [← zpow_natCast, ← zpow_add₀ two_ne_zero]
    congr 1
    omega
  rw [exponents, div_mul_eq_mul_div, ← mul_assoc, mul_right_comm, mul_div_assoc,
    div_self (pow_ne_zero _ two_ne_zero), mul_one]

/-- In units of its own exponent a number rounds to the mantissa in whose interval it lies. -/
theorem InInterval.roundsTo (h : InInterval (x * 2 ^ e) m e) : RoundsTo x m := by
  have power : (0 : ℚ) < 2 ^ e := zpow_pos two_pos e
  refine ⟨?_, le_of_mul_le_mul_right h.high power, fun odd => ?_⟩
  · refine le_of_mul_le_mul_right (le_trans ?_ h.low) power
    apply mul_le_mul_of_nonneg_right _ power.le
    split <;> linarith
  · exact ⟨lt_of_mul_lt_mul_right (h.odd odd).1 power.le,
      lt_of_mul_lt_mul_right (h.odd odd).2 power.le⟩

/-- Just below a power of two a number rounds to a mantissa that is too long. -/
theorem InInterval.roundsTo_carry (h : InInterval (x * 2 ^ (e - 1)) (2 ^ 52) e)
    (normal : e ≠ -1074) (high : x * 2 ^ (e - 1) < (2 : ℚ) ^ (e - 1 + 53)) :
    RoundsTo x (2 ^ 53) := by
  have power : (0 : ℚ) < 2 ^ (e - 1) := zpow_pos two_pos _
  have double : (2 : ℚ) ^ e = 2 * 2 ^ (e - 1) := by
    rw [← zpow_one_add₀ two_ne_zero, add_sub_cancel]
  refine ⟨?_, ?_, fun odd => absurd odd (by decide)⟩
  · have low := h.low
    rw [if_pos ⟨rfl, normal⟩, double, ← mul_assoc] at low
    have := le_of_mul_le_mul_right low power
    push_cast at this ⊢
    linarith
  · rw [add_comm, zpow_add₀ two_ne_zero] at high
    have := lt_of_mul_lt_mul_right high power.le
    norm_num at this ⊢
    linarith

/-- A number that lies in the interval of a binary64 number is rounded to that number. -/
theorem roundWithAccuracy_eq {s : Sign}
    (represents : Represents (ExtendedMantissa.ofMantissaAndAccuracy n acc) x)
    (fine : b ≤ max ((n.log2 : Int) + b - 52) (-1074)) (canonical : Canonical m e)
    (near : InInterval (x * 2 ^ b) m e) :
    roundWithAccuracy .binary64 s n b acc = .finite s m e canonical.positive := by
  obtain ⟨low, high⟩ := represents.log2_bounds b
  generalize ht : max ((n.log2 : Int) + b - 52) (-1074) = t at fine
  have first : shiftToTargetExponent .binary64 n b acc =
      (ExtendedMantissa.ofMantissaAndAccuracy n acc >>> (t - b).toNat, t) := by
    simp only [shiftToTargetExponent, shiftToExponent, targetExponent_eq, ht, Prod.mk.injEq,
      true_and]
    omega
  obtain ⟨y, shifted, value⟩ := represents.exists_shifted fine
  rw [← value] at near low high
  have least : -1074 ≤ t := by omega
  have highest : y * 2 ^ t < (2 : ℚ) ^ (t + 53) :=
    high.trans_le (zpow_le_zpow_right₀ one_le_two (by omega))
  have lowest : t ≠ -1074 → (2 : ℚ) ^ (t + 52) ≤ y * 2 ^ t := by
    intro normal
    have leading : t + 52 = (n.log2 : Int) + b := by omega
    rw [leading]
    apply low
    rintro rfl
    simp only [Nat.log2_zero] at ht
    omega
  rcases exponent_cases canonical near least lowest highest with rfl | ⟨rfl, normal, rfl⟩
  · exact roundWithAccuracy_of_short first (shifted.roundedMantissa near.roundsTo) canonical
  · exact roundWithAccuracy_of_carry first
      (shifted.roundedMantissa (near.roundsTo_carry normal highest)) least

end Interval

/-! ## Quotients and products -/

section Operations

variable {s₁ s₂ : Sign} {m₁ m₂ m : Nat} {e₁ e₂ e : Int} {p₁ : 0 < m₁} {p₂ : 0 < m₂}

/-- A product with enough bits that lies in the interval of a binary64 number is that number. -/
theorem mul_eq (canonical : Canonical m e) (long : 2 ^ 52 ≤ m₁ * m₂)
    (near : InInterval ((m₁ * 2 ^ e₁) * (m₂ * 2 ^ e₂)) m e) :
    UnpackedFloat.mul .binary64 (.finite s₁ m₁ e₁ p₁) (.finite s₂ m₂ e₂ p₂) =
      .finite (s₁ * s₂) m e canonical.positive := by
  have bits : 52 ≤ (m₁ * m₂).log2 := (Nat.le_log2 (by positivity)).2 long
  refine roundWithAccuracy_eq (represents_exact _) (by omega) canonical ?_
  convert near using 1
  rw [zpow_add₀ two_ne_zero]
  push_cast
  ring

/-- A quotient that lies in the interval of a binary64 number is that number. -/
theorem div_eq (canonical : Canonical m e) (near : InInterval ((m₁ * 2 ^ e₁) / (m₂ * 2 ^ e₂)) m e) :
    UnpackedFloat.div .binary64 (.finite s₁ m₁ e₁ p₁) (.finite s₂ m₂ e₂ p₂) =
      .finite (s₁ / s₂) m e canonical.positive := by
  have target : Format.binary64.targetExponent (totalExponent m₁ e₁ - totalExponent m₂ e₂) =
      max ((m₁.log2 : Int) + e₁ - (m₂.log2 + e₂) - 53) (-1074) := by
    simp only [Format.targetExponent, totalExponent, Format.mantissaBits, Format.minExponent]
    norm_num
    omega
  simp only [UnpackedFloat.div, divCore, target, Nat.shiftLeft_eq]
  generalize ht : min (e₁ - e₂) (max ((m₁.log2 : Int) + e₁ - (m₂.log2 + e₂) - 53) (-1074)) = t
  generalize hk : (e₁ - e₂ - t).toNat = k
  refine roundWithAccuracy_eq (represents_quotient _ p₂) ?_ canonical ?_
  · by_cases least : t ≤ -1074
    · omega
    · -- the quotient has a leading bit of at least fifty-two
      have long : 2 ^ 52 ≤ m₁ * 2 ^ k / m₂ := by
        rw [Nat.le_div_iff_mul_le p₂]
        calc 2 ^ 52 * m₂ ≤ 2 ^ 52 * 2 ^ (m₂.log2 + 1) :=
              Nat.mul_le_mul_left _ Nat.lt_log2_self.le
          _ = 2 ^ (52 + (m₂.log2 + 1)) := (pow_add ..).symm
          _ ≤ 2 ^ (m₁.log2 + k) := Nat.pow_le_pow_right two_pos (by omega)
          _ = 2 ^ m₁.log2 * 2 ^ k := pow_add ..
          _ ≤ m₁ * 2 ^ k := Nat.mul_le_mul_right _ (Nat.log2_self_le p₁.ne')
      have bits : 52 ≤ (m₁ * 2 ^ k / m₂).log2 := (Nat.le_log2 (by omega)).2 long
      omega
  · convert near using 1
    have exponents : e₁ = e₂ + t + (k : Int) := by omega
    have positive : (m₂ : ℚ) ≠ 0 := by exact_mod_cast p₂.ne'
    have power : (2 : ℚ) ^ e₂ ≠ 0 := zpow_ne_zero _ two_ne_zero
    rw [exponents, zpow_add₀ two_ne_zero, zpow_add₀ two_ne_zero, zpow_natCast]
    push_cast
    field_simp

end Operations

end Gatehouse.Number
