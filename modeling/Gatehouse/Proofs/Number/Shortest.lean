import Gatehouse.Proofs.Number.Scientific

/-!
# Shortest decimals are found

The search for the shortest decimal of a number starts at a grid that is no coarser than the
number is large.  Sixteen grids further down, two neighbours on the grid are closer to each other
than the ends of the interval of the number, so that the search does not run out of grids and what
it finds lies in the interval.

Main results:

- `onGrid_ne_none`: no search fails on a grid that is fine enough.
- `onInterval_searchGrids`: what a search finds lies in the interval if it cannot fail on its last
  grid.
- `shortest_inInterval`: the shortest decimal of a number lies in its interval.
-/

namespace Gatehouse.Number

/-! ## Grids -/

/-- The ratio of a grid is that of the quarter of a unit of a mantissa to a unit of the grid. -/
theorem gridRatio_eq (e g : Int) :
    ((gridRatio e g).1 : ℚ) * 10 ^ g = (gridRatio e g).2 * 2 ^ (e - 2) ∧
      0 < (gridRatio e g).1 ∧ 0 < (gridRatio e g).2 := by
  have two := zpow_eq_div 2 (e - 2)
  have ten := zpow_eq_div 10 g
  have back : -(e - 2) = 2 - e := by omega
  rw [back] at two
  refine ⟨?_, ?_, ?_⟩
  · simp only [gridRatio, Nat.pow_eq]
    push_cast
    rw [two, ten]
    field_simp
  · simp only [gridRatio, Nat.pow_eq]
    positivity
  · simp only [gridRatio, Nat.pow_eq]
    positivity

/-- Comparing by the ratio of a grid is comparing numbers. -/
theorem gridRatio_le_iff (a b : Nat) (e g : Int) :
    (a * (gridRatio e g).1 ≤ b * (gridRatio e g).2 ↔ (a : ℚ) * 2 ^ (e - 2) ≤ b * 10 ^ g) ∧
      (b * (gridRatio e g).2 ≤ a * (gridRatio e g).1 ↔ (b : ℚ) * 10 ^ g ≤ a * 2 ^ (e - 2)) := by
  obtain ⟨ratio, -, positive⟩ := gridRatio_eq e g
  have power : (0 : ℚ) < 10 ^ g := zpow_pos (by norm_num) g
  have denominator : (0 : ℚ) < (gridRatio e g).2 := by exact_mod_cast positive
  have left : (a : ℚ) * (gridRatio e g).1 * 10 ^ g = a * 2 ^ (e - 2) * (gridRatio e g).2 := by
    rw [mul_assoc, ratio]
    ring
  have right : (b : ℚ) * (gridRatio e g).2 * 10 ^ g = b * 10 ^ g * (gridRatio e g).2 :=
    mul_right_comm ..
  constructor <;>
    rw [← Nat.cast_le (α := ℚ), ← mul_le_mul_iff_left₀ power, Nat.cast_mul, Nat.cast_mul, left,
      right, mul_le_mul_iff_left₀ denominator]

/-- The lower end of the interval of a number, in quarters of a unit. -/
theorem low_roundingInterval {m : Nat} (positive : 0 < m) (e : Int) :
    ((roundingInterval m e).low : ℚ) =
      4 * (m - (if m = 2 ^ 52 ∧ e ≠ -1074 then 1 / 4 else 1 / 2)) := by
  simp only [roundingInterval, show leadingBit = 2 ^ 52 from rfl]
  rw [Nat.cast_sub (by split <;> omega)]
  push_cast
  split <;> ring

/-- A unit of a mantissa is four quarters. -/
theorem quarters (e : Int) : (2 : ℚ) ^ e = 4 * 2 ^ (e - 2) := by
  have four : (4 : ℚ) = 2 ^ (2 : Int) := by norm_num
  rw [four, ← zpow_add₀ two_ne_zero, add_sub_cancel]

/-- A multiple of a grid that the search accepts lies in the interval of the number. -/
theorem inInterval_of_onInterval {m b : Nat} {e g : Int} (positive : 0 < m)
    (h : onInterval (roundingInterval m e) (gridRatio e g) b = true) :
    InInterval (b * 10 ^ g) m e := by
  have low := low_roundingInterval positive e
  have high : ((roundingInterval m e).high : ℚ) = 4 * (m + 1 / 2) := by
    simp only [roundingInterval]
    push_cast
    ring
  have closed : (roundingInterval m e).closed = (m % 2 == 0) := rfl
  obtain ⟨lowLe, lowGe⟩ := gridRatio_le_iff (roundingInterval m e).low b e g
  obtain ⟨highLe, highGe⟩ := gridRatio_le_iff (roundingInterval m e).high b e g
  have half (x : ℚ) : x * 2 ^ e = 4 * x * 2 ^ (e - 2) := by
    rw [quarters]
    ring
  unfold onInterval at h
  rcases Nat.mod_two_eq_zero_or_one m with even | odd
  · simp only [closed, even, beq_self_eq_true, if_true, Bool.and_eq_true, decide_eq_true_eq] at h
    refine ⟨?_, ?_, fun odd => by omega⟩
    · rw [half, ← low]
      exact lowLe.1 h.1
    · rw [half, ← high]
      exact highGe.1 h.2
  · simp only [closed, odd, show ((1 : Nat) == 0) = false from rfl, Bool.false_eq_true, if_false,
      Bool.and_eq_true, decide_eq_true_eq] at h
    have notFull : ¬ (m = 2 ^ 52 ∧ e ≠ -1074) := by omega
    have above : ((roundingInterval m e).low : ℚ) * 2 ^ (e - 2) < b * 10 ^ g :=
      not_le.1 fun le => absurd (lowGe.2 le) (not_le.2 h.1)
    have below : (b : ℚ) * 10 ^ g < (roundingInterval m e).high * 2 ^ (e - 2) :=
      not_le.1 fun le => absurd (highLe.2 le) (not_le.2 h.2)
    rw [low, ← half] at above
    rw [high, ← half] at below
    refine ⟨above.le, below.le, fun _ => ⟨?_, below⟩⟩
    rwa [if_neg notFull] at above

/-- A multiple of a grid that the search does not accept is on one side of the interval. -/
theorem le_or_le_of_not_onInterval {i : Interval} {ratio : Nat × Nat} {d : Nat}
    (h : onInterval i ratio d = false) :
    d * ratio.2 ≤ i.low * ratio.1 ∨ i.high * ratio.1 ≤ d * ratio.2 := by
  unfold onInterval at h
  split at h <;> simp only [Bool.and_eq_false_iff, decide_eq_false_iff_not] at h <;> omega

/-- If a grid has no multiple in the interval of a number, its unit is wider than the interval. -/
theorem length_le_of_onGrid_eq_none {i : Interval} {ratio : Nat × Nat} (denominator : 0 < ratio.2)
    (low : i.low ≤ i.middle) (high : i.middle * ratio.1 < i.high * ratio.1)
    (missed : onGrid i ratio = none) : i.high * ratio.1 ≤ i.low * ratio.1 + ratio.2 := by
  obtain ⟨missedDown, missedUp⟩ : onInterval i ratio (i.middle * ratio.1 / ratio.2) = false ∧
      onInterval i ratio (i.middle * ratio.1 / ratio.2 + 1) = false := by
    simp only [onGrid] at missed
    split at missed
    · cases missed
    · cases missed
    · cases missed
    · next down up => exact ⟨down, up⟩
  -- the neighbours of the number are on either side of it and one unit of the grid apart
  have below := Nat.div_mul_le_self (i.middle * ratio.1) ratio.2
  have above := Nat.lt_div_mul_add (a := i.middle * ratio.1) denominator
  have down := le_or_le_of_not_onInterval missedDown
  have up := le_or_le_of_not_onInterval missedUp
  have start := Nat.mul_le_mul_right ratio.1 low
  rw [Nat.succ_mul] at up
  omega

/-- A grid of which a number has at least sixteen digits has a multiple in the interval of the
number. -/
theorem onGrid_ne_none {m : Nat} {e g : Int} (canonical : Canonical m e)
    (fine : (10 : ℚ) ^ 16 * 10 ^ g ≤ m * 2 ^ e) :
    onGrid (roundingInterval m e) (gridRatio e g) ≠ none := by
  obtain ⟨-, numerator, denominator⟩ := gridRatio_eq e g
  have digits : 10 ^ 16 * (gridRatio e g).2 ≤ 4 * m * (gridRatio e g).1 := by
    refine (gridRatio_le_iff (4 * m) (10 ^ 16) e g).2.2 ?_
    rw [quarters e] at fine
    push_cast
    linarith
  intro missed
  have wide := length_le_of_onGrid_eq_none denominator (Nat.sub_le ..)
    (Nat.mul_lt_mul_of_pos_right (Nat.lt_add_of_pos_right two_pos) numerator) missed
  generalize (gridRatio e g) = ratio at numerator digits wide
  obtain ⟨n, d⟩ := ratio
  have short := canonical.short
  have positive := canonical.positive
  simp only [roundingInterval, show leadingBit = 2 ^ 52 from rfl] at wide numerator digits
  by_cases full : m = 2 ^ 52 ∧ e ≠ -1074
  · rw [if_pos full, full.1] at wide
    rw [full.1] at digits
    omega
  · have units : m * n < 2 ^ 53 * n := Nat.mul_lt_mul_of_pos_right short numerator
    have low : (4 * m - 2) * n + 2 * n = 4 * (m * n) := by
      rw [← Nat.add_mul, Nat.sub_add_cancel (by omega), Nat.mul_assoc]
    have high : (4 * m + 2) * n = 4 * (m * n) + 2 * n := by
      rw [Nat.add_mul, Nat.mul_assoc]
    rw [if_neg full, high] at wide
    rw [Nat.mul_assoc] at digits
    omega

/-! ## The search -/

/-- A search that cannot fail on the last of its grids finds a decimal in the interval. -/
theorem onInterval_searchGrids {i : Interval} {e : Int} (n : Nat) {g : Int}
    (last : onGrid i (gridRatio e (g - n)) ≠ none) :
    onInterval i (gridRatio e (searchGrids i e (n + 1) g).2)
      (searchGrids i e (n + 1) g).1 = true := by
  induction n generalizing g with
  | zero =>
    obtain ⟨d, found⟩ := Option.ne_none_iff_exists'.1 last
    rw [Nat.cast_zero, sub_zero] at found
    simp only [searchGrids, found]
    exact mem_of_onGrid found
  | succ n ih =>
    rw [searchGrids]
    split
    · next found => exact mem_of_onGrid found
    · refine ih ?_
      convert last using 3
      push_cast
      ring

/-- Moving zeros into the exponent keeps the number. -/
theorem stripZeros_value (fuel d : Nat) (k : Int) :
    ((stripZeros fuel d k).1 : ℚ) * 10 ^ (stripZeros fuel d k).2 = d * 10 ^ k := by
  induction fuel generalizing d k with
  | zero => rfl
  | succ fuel ih =>
    rw [stripZeros]
    split
    · next zero =>
      have whole : (d : ℚ) = (d / 10 : Nat) * 10 := by
        exact_mod_cast (Nat.div_mul_cancel (Nat.dvd_of_mod_eq_zero zero)).symm
      rw [ih, zpow_add_one₀ (by norm_num), whole]
      ring
    · rfl

/-- Comparing integers is comparing a power of ten with a number. -/
theorem tenPower_le_iff (m : Nat) (e k : Int) :
    (Nat.pow 10 k.toNat * Nat.pow 2 (-e).toNat ≤
      m * Nat.pow 2 e.toNat * Nat.pow 10 (-k).toNat) ↔ (10 : ℚ) ^ k ≤ m * 2 ^ e := by
  rw [zpow_eq_div 10 k, zpow_eq_div 2 e, mul_div_assoc', div_le_div_iff₀ (by positivity)
    (by positivity)]
  simp only [Nat.pow_eq]
  exact_mod_cast Iff.rfl

/-- The logarithm that the search estimates with is at most one off. -/
theorem estimate_le {k : Int} (low : -1074 ≤ k) (high : k ≤ 1024) :
    (10 : ℚ) ^ (k * 30103 / 100000 - 1) ≤ 2 ^ k := by
  rcases le_total 0 k with up | down
  · -- 59 / 196 is below the logarithm of two
    refine le_of_pow_le_pow_left₀ (n := 196) (by decide) (by positivity) ?_
    rw [← zpow_natCast, ← zpow_natCast, ← zpow_mul, ← zpow_mul]
    calc (10 : ℚ) ^ ((k * 30103 / 100000 - 1) * (196 : Nat)) ≤ 10 ^ (59 * k) :=
          zpow_le_zpow_right₀ (by norm_num) (by push_cast; omega)
      _ = (10 ^ (59 : Int)) ^ k := zpow_mul ..
      _ ≤ (2 ^ (196 : Int)) ^ k := zpow_le_zpow_left₀ up (by positivity) (by norm_num)
      _ = 2 ^ (k * (196 : Nat)) := by rw [← zpow_mul, mul_comm]; rfl
  · -- 28 / 93 is above it
    refine le_of_pow_le_pow_left₀ (n := 93) (by decide) (by positivity) ?_
    rw [← zpow_natCast, ← zpow_natCast, ← zpow_mul, ← zpow_mul]
    calc (10 : ℚ) ^ ((k * 30103 / 100000 - 1) * (93 : Nat)) ≤ 10 ^ (28 * k) :=
          zpow_le_zpow_right₀ (by norm_num) (by push_cast; omega)
      _ = (10 ^ (28 : Int)) ^ k := zpow_mul ..
      _ ≤ (2 ^ (93 : Int)) ^ k := by
        rw [← neg_neg k, zpow_neg, zpow_neg (2 ^ (93 : Int))]
        exact inv_anti₀ (by positivity)
          (zpow_le_zpow_left₀ (by omega) (by positivity) (by norm_num))
      _ = 2 ^ (k * (93 : Nat)) := by rw [← zpow_mul, mul_comm]; rfl

/-- The first grid of the search is not coarser than the number is large. -/
theorem leadingExponent_le {m : Nat} {e : Int} (canonical : Canonical m e) (range : e ≤ 971) :
    (10 : ℚ) ^ leadingExponent m e ≤ m * 2 ^ e := by
  have bits : m.log2 < 53 := (Nat.log2_lt canonical.positive.ne').2 canonical.short
  have least := canonical.least
  unfold leadingExponent
  simp only [decide_eq_true_eq, tenPower_le_iff]
  split
  · assumption
  · split
    · assumption
    · calc (10 : ℚ) ^ (((m.log2 : Int) + e) * 30103 / 100000 - 1) ≤ 2 ^ ((m.log2 : Int) + e) :=
            estimate_le (by omega) (by omega)
        _ = (2 ^ m.log2 : Nat) * 2 ^ e := by
          rw [zpow_add₀ two_ne_zero, zpow_natCast]
          push_cast
          rfl
        _ ≤ m * 2 ^ e := by
          refine mul_le_mul_of_nonneg_right ?_ (by positivity)
          exact_mod_cast Nat.log2_self_le canonical.positive.ne'

/-- The shortest decimal of a positive number lies in the interval of the number. -/
theorem shortest_inInterval {m : Nat} {e : Int} (canonical : Canonical m e) (range : e ≤ 971) :
    0 < (shortest m e).1 ∧ InInterval ((shortest m e).1 * 10 ^ (shortest m e).2) m e := by
  have last : onGrid (roundingInterval m e)
      (gridRatio e (leadingExponent m e - (16 : Nat))) ≠ none := by
    apply onGrid_ne_none canonical
    rw [← zpow_natCast, ← zpow_add₀ (by norm_num), add_sub_cancel]
    exact leadingExponent_le canonical range
  have near := inInterval_of_onInterval canonical.positive (onInterval_searchGrids 16 last)
  rw [← stripZeros_value 17] at near
  have same : shortest m e = stripZeros 17
      (searchGrids (roundingInterval m e) e 17 (leadingExponent m e)).1
      (searchGrids (roundingInterval m e) e 17 (leadingExponent m e)).2 := by
    rw [shortest, if_neg canonical.positive.ne']
  rw [same]
  refine ⟨Nat.pos_of_ne_zero fun zero => ?_, near⟩
  have := (near.magnitude canonical range).1
  rw [zero, Nat.cast_zero, zero_mul] at this
  exact absurd (zpow_pos two_pos _) (not_lt.2 this)

end Gatehouse.Number
