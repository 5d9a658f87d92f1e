import Gatehouse.Proofs.Json.Numbers
import Gatehouse.Proofs.Number.Shortest

/-!
# Decimals in JSON, both ways

The literal of a decimal is read as a decimal of the same magnitude, wherever its point stands and
whether or not it has an exponent part.  The literal of a floating point number is that of its
shortest decimal, which lies in the interval of the number, so that the number is read back.

Main results:

- `Denotes`: an unsigned literal is read as a decimal with a given magnitude.
- `denotes_writeDecimal`: every decimal is written as a literal that denotes it.
- `toFloat_ofFloat`: every floating point number is read back from its literal.
-/

namespace Gatehouse

namespace Number

open Gatehouse.Text

/-! ## Values of digits -/

/-- The value of digits followed by digits. -/
theorem digitsValue_append (as bs : List Char) :
    digitsValue (as ++ bs) = digitsValue as * 10 ^ bs.length + digitsValue bs := by
  have shifted : digitsValue (as ++ bs) = 10 ^ bs.length * digitsValue as + digitsValue bs :=
    (Nat.ofDigitChars_append 0).trans Nat.ofDigitChars_eq_ofDigitChars_zero
  rw [shifted, Nat.mul_comm]

/-- Zeros have no value. -/
theorem digitsValue_zeros (n : Nat) : digitsValue (List.replicate n '0') = 0 :=
  Nat.ofDigitChars_replicate_zero

/-- The digits of a number have its value. -/
theorem digitsValue_decimalList (n : Nat) : digitsValue (decimalList n) = n :=
  Nat.ofDigitChars_ten_toDigits

/-- Leading zeros do not change the value of digits. -/
theorem digitsValue_padLeft (width : Nat) (cs : List Char) :
    digitsValue (padLeft width '0' cs) = digitsValue cs := by
  rw [padLeft, digitsValue_append, digitsValue_zeros, Nat.zero_mul, Nat.zero_add]

end Number

namespace Json

open Gatehouse.Text Gatehouse.Number

/-! ## Reading the parts -/

/-- A run of digits is taken as long as it lasts. -/
theorem span_digits {ds rest : List Char} (h : AllDigits ds)
    (stop : ∀ c cs, rest = c :: cs → c.isDigit = false) :
    (ds ++ rest).takeWhile Char.isDigit = ds ∧ (ds ++ rest).dropWhile Char.isDigit = rest := by
  cases rest with
  | nil =>
    rw [List.takeWhile_append_of_pos h, List.dropWhile_append_of_pos h, List.takeWhile_nil,
      List.append_nil, List.dropWhile_nil]
    exact ⟨rfl, rfl⟩
  | cons c cs =>
    have digit := stop c cs rfl
    exact ⟨takeWhile_isDigit h digit cs, dropWhile_isDigit h digit cs⟩

/-- The sign of a literal is taken off. -/
theorem splitSign_signed (negative : Bool) {d : Char} (digit : d.isDigit = true)
    (cs : List Char) : splitSign (signed negative (d :: cs)) = (negative, d :: cs) := by
  cases negative with
  | true => rfl
  | false =>
    simp only [signed, Bool.false_eq_true, if_false]
    unfold splitSign
    split
    · next same => rw [(List.cons.inj same).1] at digit; exact absurd digit (by decide)
    · next same => rw [(List.cons.inj same).1] at digit; exact absurd digit (by decide)
    · rfl

/-- An exponent that is written is read back. -/
theorem readExponent?_written (width : Nat) (leading : Int) :
    readExponent? ('e' :: (if leading < 0 then '-' else '+') ::
      padLeft width '0' (decimalList leading.natAbs)) = some leading := by
  obtain ⟨d, ds, written, digits⟩ := exists_padLeft_decimalList width leading.natAbs
  have value := digitsValue_padLeft width (decimalList leading.natAbs)
  rw [digitsValue_decimalList, written] at value
  have all : (d :: ds).all Char.isDigit = true := List.all_eq_true.2 digits
  have read (negative : Bool) (c : Char) (sign : splitSign (c :: d :: ds) = (negative, d :: ds)) :
      readExponent? ('e' :: c :: d :: ds) =
        some (if negative then -(leading.natAbs : Int) else leading.natAbs) := by
    simp only [readExponent?, sign, all, value, List.isEmpty_cons, Bool.not_true, Bool.or_self,
      Bool.false_eq_true, beq_self_eq_true, Bool.true_or, if_true, if_false]
  rw [written]
  by_cases below : leading < 0
  · rw [if_pos below, read true '-' rfl, if_pos rfl]
    congr 1
    omega
  · rw [if_neg below, read false '+' rfl, if_neg Bool.false_ne_true]
    congr 1
    omega

/-- A literal is read by its whole part, its fraction and its exponent. -/
theorem read?_of_parts (negative : Bool) {whole fraction exponent : List Char}
    (digits : AllDigits whole) (nonempty : whole ≠ []) (hf : IsFraction fraction)
    (he : IsExponent exponent) :
    Decimal.read? (signed negative (whole ++ (fraction ++ exponent))) =
      (readExponent? exponent).map fun e =>
        ⟨negative, digitsValue (whole ++ fraction.tail), e - fraction.tail.length⟩ := by
  have stop : ∀ c cs, exponent = c :: cs → c.isDigit = false ∧ c ≠ '.' := by
    rintro c cs rfl
    rcases he with absent | ⟨_, _, _, written, _, _⟩
    · cases absent
    · rw [(List.cons.inj written).1]
      decide
  have start (rest : List Char) :
      splitSign (signed negative (whole ++ rest)) = (negative, whole ++ rest) := by
    obtain ⟨d, ds, rfl⟩ := List.exists_cons_of_ne_nil nonempty
    exact splitSign_signed negative (digits d List.mem_cons_self) (ds ++ rest)
  have present : whole.isEmpty = false := by simpa using nonempty
  rcases hf with rfl | ⟨d, ds, rfl, fractionDigits⟩
  · obtain ⟨taken, left⟩ := span_digits digits fun c cs h => (stop c cs h).1
    rw [List.nil_append, List.tail_nil, List.append_nil]
    simp only [Decimal.read?, start, taken, left]
    cases exponent with
    | nil => simp [present]
    | cons c cs =>
      have other := (stop c cs rfl).2
      split
      · next rest => exact absurd (List.cons.inj rest).1 other
      · simp [present]
  · obtain ⟨taken, left⟩ := span_digits digits
      (show ∀ c cs, '.' :: (d :: ds ++ exponent) = c :: cs → c.isDigit = false by
        rintro c cs ⟨⟩
        decide)
    obtain ⟨taken', left'⟩ := span_digits fractionDigits fun c cs h => (stop c cs h).1
    simp only [Decimal.read?, start, List.cons_append, List.tail_cons] at taken left taken' left' ⊢
    simp only [taken, left, taken', left', present, Bool.false_and, Bool.false_eq_true, if_false]

/-! ## Magnitudes of literals -/

/-- An unsigned literal is read as a decimal with a magnitude, and so it is with a sign. -/
def Denotes (cs : List Char) (v : ℚ) : Prop :=
  ∀ negative, ∃ c k, Decimal.read? (signed negative cs) = some ⟨negative, c, k⟩ ∧
    (c : ℚ) * 10 ^ k = v

/-- A literal denotes one magnitude. -/
theorem Denotes.of_eq {cs : List Char} {v w : ℚ} (h : Denotes cs v) (same : v = w) :
    Denotes cs w :=
  same ▸ h

/-- A literal denotes the digits of its whole part and its fraction, scaled by its exponent. -/
theorem denotes_of_parts {whole fraction exponent : List Char} {e : Int}
    (digits : AllDigits whole) (nonempty : whole ≠ []) (hf : IsFraction fraction)
    (he : IsExponent exponent) (read : readExponent? exponent = some e) :
    Denotes (whole ++ (fraction ++ exponent))
      (digitsValue (whole ++ fraction.tail) * 10 ^ (e - fraction.tail.length)) := by
  intro negative
  refine ⟨_, _, ?_, rfl⟩
  rw [read?_of_parts negative digits nonempty hf he, read]
  rfl

/-- A literal with a fraction and no exponent denotes its digits, scaled by the length of its
fraction. -/
theorem denotes_of_fraction {whole fraction : List Char} (digits : AllDigits whole)
    (nonempty : whole ≠ []) (fractionDigits : AllDigits fraction) (present : fraction ≠ []) :
    Denotes (whole ++ '.' :: fraction)
      (digitsValue (whole ++ fraction) * 10 ^ (-(fraction.length : Int))) := by
  obtain ⟨d, ds, rfl⟩ := List.exists_cons_of_ne_nil present
  have read := denotes_of_parts digits nonempty (.inr ⟨d, ds, rfl, fractionDigits⟩) (.inl rfl)
    (show readExponent? [] = some 0 from rfl)
  rwa [List.append_nil, zero_sub] at read

section Pointed

variable {ds : List Char} (digits : AllDigits ds) (nonempty : ds ≠ [])
include digits nonempty

/-- Digits behind a point and zeros are scaled down by the zeros as well. -/
theorem denotes_behind_point (zeros : Nat) :
    Denotes ('0' :: '.' :: (List.replicate zeros '0' ++ ds))
      (digitsValue ds * 10 ^ (-(zeros : Int) - ds.length)) := by
  have read := denotes_of_fraction (allDigits_zeros 1) (List.cons_ne_nil _ _)
    ((allDigits_zeros zeros).append digits) (by simp [nonempty])
  have value : digitsValue (List.replicate 1 '0' ++ (List.replicate zeros '0' ++ ds)) =
      digitsValue ds := by
    simp only [digitsValue_append, digitsValue_zeros, Nat.zero_mul, Nat.zero_add]
  have exponent :
      -((List.replicate zeros '0' ++ ds).length : Int) = -(zeros : Int) - ds.length := by
    rw [List.length_append, List.length_replicate]
    omega
  rw [value, exponent] at read
  exact read

/-- Digits in front of zeros and a point are scaled up by the zeros. -/
theorem denotes_before_point (zeros : Nat) :
    Denotes (ds ++ List.replicate zeros '0' ++ ['.', '0']) (digitsValue ds * 10 ^ zeros) := by
  refine (denotes_of_fraction (digits.append (allDigits_zeros zeros)) (by simp [nonempty])
    (allDigits_zeros 1) (List.cons_ne_nil _ _)).of_eq ?_
  rw [digitsValue_append, digitsValue_append, digitsValue_zeros, digitsValue_zeros,
    List.length_replicate, List.length_replicate, Nat.cast_one, zpow_neg_one]
  push_cast
  ring

/-- Digits with a point between them are scaled down by those behind it. -/
theorem denotes_around_point {n : Nat} (some : n ≠ 0) (long : n < ds.length) :
    Denotes (ds.take n ++ '.' :: ds.drop n) (digitsValue ds * 10 ^ ((n : Int) - ds.length)) := by
  have front : AllDigits (ds.take n) := fun c hc => digits c (List.mem_of_mem_take hc)
  have back : AllDigits (ds.drop n) := fun c hc => digits c (List.mem_of_mem_drop hc)
  have read := denotes_of_fraction front (by simp [nonempty, some])
    back (fun empty => absurd (List.drop_eq_nil_iff.1 empty) (not_le.2 long))
  have exponent : -((ds.drop n).length : Int) = n - ds.length := by
    rw [List.length_drop]
    omega
  rwa [List.take_append_drop, exponent] at read

/-- Digits with a point denote their value, scaled to the place of the point. -/
theorem denotes_pointed (whole : Int) :
    Denotes (pointed ds whole) (digitsValue ds * 10 ^ (whole - ds.length)) := by
  unfold pointed
  split
  · refine (denotes_behind_point digits nonempty _).of_eq ?_
    congr 2
    omega
  · simp only
    split
    · next empty =>
      have short : ds.length ≤ whole.toNat := List.drop_eq_nil_iff.1 empty
      rw [List.take_of_length_le short]
      refine (denotes_before_point digits nonempty _).of_eq ?_
      rw [← zpow_natCast]
      congr 2
      omega
    · next rest present =>
      have long : whole.toNat < ds.length := by
        by_contra short
        exact present (List.drop_eq_nil_iff.2 (not_lt.1 short))
      rw [Nat.sub_eq_zero_of_le long.le, List.replicate_zero, List.append_nil]
      refine (denotes_around_point digits nonempty (by omega) long).of_eq ?_
      congr 2
      omega

end Pointed

/-- Digits with an exponent part denote their value, scaled to the exponent of the first. -/
theorem denotes_exponential (l : Layout) {d : Char} {ds : List Char} (digits : AllDigits (d :: ds))
    (leading : Int) :
    Denotes (l.exponential (d :: ds) leading)
      (digitsValue (d :: ds) * 10 ^ (leading - ds.length)) := by
  have exponent := isExponent_written (leading < 0) l.exponentWidth leading.natAbs
  have read := readExponent?_written l.exponentWidth leading
  have first : AllDigits [d] := fun c hc => by
    rw [List.mem_singleton.1 hc]
    exact digits d List.mem_cons_self
  unfold Layout.exponential
  cases ds with
  | nil =>
    by_cases full : l.fullMantissa
    · simp only [full, if_true]
      refine Denotes.of_eq (denotes_of_parts first (List.cons_ne_nil _ _)
        (.inr ⟨'0', [], rfl, allDigits_zeros 1⟩) exponent read) ?_
      rw [List.tail_cons, digitsValue_append, List.length_nil, List.length_singleton,
        zpow_sub₀ (by norm_num), zpow_sub₀ (by norm_num)]
      simp only [show digitsValue ['0'] = 0 from rfl]
      push_cast
      ring
    · simp only [full]
      exact denotes_of_parts first (List.cons_ne_nil _ _) (.inl rfl) exponent read
  | cons x xs =>
    have fraction : AllDigits (x :: xs) := fun c hc => digits c (List.mem_cons_of_mem _ hc)
    exact denotes_of_parts first (List.cons_ne_nil _ _) (.inr ⟨x, xs, rfl, fraction⟩) exponent read

/-- Every decimal is written as a literal that denotes it. -/
theorem denotes_writeDecimal (l : Layout) (coefficient : Nat) (exponent : Int) :
    Denotes (l.writeDecimal coefficient exponent) (coefficient * 10 ^ exponent) := by
  unfold Layout.writeDecimal
  split
  · next zero =>
    intro negative
    refine ⟨0, -1, ?_, by rw [zero]; simp⟩
    cases negative <;> rfl
  · have digits := allDigits_decimalList coefficient
    have nonempty : decimalList coefficient ≠ [] := Nat.toDigits_ne_nil
    have value := digitsValue_decimalList coefficient
    generalize decimalList coefficient = ds at digits nonempty value
    rw [← value]
    simp only
    split
    · refine (denotes_pointed digits nonempty _).of_eq ?_
      congr 2
      omega
    · obtain ⟨d, ds, rfl⟩ := List.exists_cons_of_ne_nil nonempty
      refine (denotes_exponential l digits _).of_eq ?_
      congr 2
      rw [List.length_cons]
      omega

/-! ## Floating point numbers -/

/-- The literal of a finite number is read as a decimal of its sign and the magnitude of its
shortest decimal. -/
theorem exists_toFloat_ofFloat {x : Float} {negative : Bool} {m : Nat} {e : Int}
    (parts : binary x = .finite negative m e) :
    ∃ c k, (Numeral.ofFloat x).toFloat = Decimal.toFloat ⟨negative, c, k⟩ ∧
      (c : ℚ) * 10 ^ k = (shortest m e).1 * 10 ^ (shortest m e).2 := by
  obtain ⟨c, k, read, value⟩ :=
    denotes_writeDecimal inJson (shortest m e).1 (shortest m e).2 negative
  refine ⟨c, k, ?_, value⟩
  have literal : (inJson.write x).toList =
      signed negative (inJson.writeDecimal (shortest m e).1 (shortest m e).2) := by
    simp only [Layout.write, parts, String.toList_ofList]
    rfl
  simp only [Numeral.ofFloat, parts, Numeral.toFloat, literal, read]
  rfl

/-- Every floating point number is read back from its literal. -/
theorem toFloat_ofFloat (x : Float) : (Numeral.ofFloat x).toFloat = x := by
  have parts := binary_eq x
  have packed : Float.ofModel (.pack x.toModel.unpack) = x := by rw [pack_unpack]
  cases unpacked : x.toModel.unpack with
  | notANumber =>
    rw [unpacked] at parts packed
    simp only [Numeral.ofFloat, parts, partsOf, Numeral.toFloat]
    rw [← packed]
    decide +kernel
  | infinity s =>
    rw [unpacked] at parts packed
    simp only [Numeral.ofFloat, parts, partsOf, Numeral.toFloat]
    rw [← packed]
    cases s <;> decide +kernel
  | zero s =>
    rw [unpacked] at parts packed
    obtain ⟨c, k, read, value⟩ := exists_toFloat_ofFloat parts
    have zero : c = 0 := by
      simpa [shortest, zpow_ne_zero] using value
    rw [read, zero, toFloat_zero, signFor_isNegative, packed]
  | finite s m e positive =>
    obtain ⟨canonical, range⟩ := canonical_of_unpack unpacked
    rw [unpacked] at parts packed
    obtain ⟨c, k, read, value⟩ := exists_toFloat_ofFloat parts
    obtain ⟨present, near⟩ := shortest_inInterval canonical range
    rw [← value] at near
    have coefficient : 0 < c := by
      refine Nat.pos_of_ne_zero fun zero => ?_
      have power : (0 : ℚ) < 10 ^ (shortest m e).2 := zpow_pos (by norm_num) _
      have : (0 : ℚ) < (shortest m e).1 * 10 ^ (shortest m e).2 :=
        mul_pos (by exact_mod_cast present) power
      rw [← value, zero, Nat.cast_zero, zero_mul] at this
      exact lt_irrefl 0 this
    rw [read, toFloat_of_inInterval coefficient canonical range near, signFor_isNegative, packed]

end Json

end Gatehouse
