import Gatehouse.Json.Reader
import Gatehouse.Json.Writer

/-!
# Numbers in JSON, both ways

The literal of a floating point number has a whole part without superfluous zeros and
a fraction or an exponent part, so that the reader takes it for a decimal and never for
an integer.  It is read up to the first character that cannot belong to it.

Main results:

- `IsDecimal`: the shape of an unsigned decimal literal.
- `readNumber_of_isDecimal`: a literal of that shape is read back.
- `isDecimal_writeDecimal`: every written decimal has that shape.
-/

namespace Gatehouse

namespace Text

/-! ## Decimal digits -/

/-- The text of a number consists of digits. -/
theorem isDigit_of_mem_decimalList {n : Nat} {c : Char} (h : c ∈ decimalList n) :
    c.isDigit = true :=
  Nat.isDigit_of_mem_toDigits (by decide) (by decide) h

/-- The text of a positive number does not start with a zero. -/
theorem exists_decimalList_eq_cons {n : Nat} (h : 0 < n) :
    ∃ d ds, decimalList n = d :: ds ∧ d ≠ '0' := by
  induction n using Nat.strongRecOn with
  | ind n ih =>
    by_cases small : n < 10
    · refine ⟨n.digitChar, [], Nat.toDigits_of_lt_base small, ?_⟩
      have nonzero : ∀ k : Fin 10, 0 < k.val → k.val.digitChar ≠ '0' := by decide
      exact nonzero ⟨n, small⟩ h
    · rcases ih (n / 10) (by omega) (by omega) with ⟨d, ds, hd, hne⟩
      refine ⟨d, ds ++ [(n % 10).digitChar], ?_, hne⟩
      rw [decimalList] at hd ⊢
      rw [Nat.toDigits_of_base_le (by decide) (by omega), hd, List.cons_append]

end Text

namespace Json

open Gatehouse.Text Gatehouse.Number

/-! ## The shape of a literal -/

/-- Characters that are digits. -/
def AllDigits (cs : List Char) : Prop :=
  ∀ c ∈ cs, c.isDigit = true

/-- A whole part: a single zero, or digits that start with another one. -/
def IsWhole (cs : List Char) : Prop :=
  cs = ['0'] ∨ ∃ d ds, cs = d :: ds ∧ d ≠ '0' ∧ AllDigits (d :: ds)

/-- A point with digits after it, or nothing. -/
def IsFraction (cs : List Char) : Prop :=
  cs = [] ∨ ∃ d ds, cs = '.' :: d :: ds ∧ AllDigits (d :: ds)

/-- An exponent with a sign and digits, or nothing. -/
def IsExponent (cs : List Char) : Prop :=
  cs = [] ∨ ∃ s d ds, cs = 'e' :: s :: d :: ds ∧ (s = '+' ∨ s = '-') ∧ AllDigits (d :: ds)

/-- The unsigned literal of a number that is no integer. -/
inductive IsDecimal : List Char → Prop
  | intro {whole fraction exponent : List Char} (hw : IsWhole whole) (hf : IsFraction fraction)
    (he : IsExponent exponent) (some : fraction ≠ [] ∨ exponent ≠ []) :
    IsDecimal (whole ++ (fraction ++ exponent))

/-- The characters that may follow a value inside of an array or an object. -/
def EndsValue (c : Char) : Prop :=
  c = ',' ∨ c = '}' ∨ c = ']'

/-! ## Reading the parts -/

/-- A run of digits is taken up to the first other character. -/
theorem takeWhile_isDigit {ds : List Char} (h : AllDigits ds) {c : Char} (hc : c.isDigit = false)
    (rest : List Char) : (ds ++ c :: rest).takeWhile Char.isDigit = ds := by
  rw [List.takeWhile_append_of_pos h, List.takeWhile_cons_of_neg (by simp [hc]), List.append_nil]

/-- After a run of digits the first other character is left. -/
theorem dropWhile_isDigit {ds : List Char} (h : AllDigits ds) {c : Char} (hc : c.isDigit = false)
    (rest : List Char) : (ds ++ c :: rest).dropWhile Char.isDigit = c :: rest := by
  rw [List.dropWhile_append_of_pos h, List.dropWhile_cons_of_neg (by simp [hc])]

/-- A whole part is read up to the first character that is no digit. -/
theorem readWhole?_of_isWhole {whole : List Char} (h : IsWhole whole) {c : Char}
    (hc : c.isDigit = false) (rest : List Char) :
    readWhole? (whole ++ c :: rest) = some (whole, c :: rest) := by
  rcases h with rfl | ⟨d, ds, rfl, hd, digits⟩
  · simp [readWhole?]
  · have first : d.isDigit = true := digits d List.mem_cons_self
    have others : AllDigits ds := fun x hx => digits x (List.mem_cons_of_mem _ hx)
    simp only [List.cons_append, readWhole?, if_neg hd, if_pos first,
      takeWhile_isDigit others hc, dropWhile_isDigit others hc]

/-- A fraction is read up to a character that is neither a digit nor a point. -/
theorem readFraction_of_isFraction {fraction : List Char} (h : IsFraction fraction) {c : Char}
    (hc : c.isDigit = false) (hp : c ≠ '.') (rest : List Char) :
    readFraction (fraction ++ c :: rest) = (fraction, c :: rest) := by
  rcases h with rfl | ⟨d, ds, rfl, digits⟩
  · simp only [List.nil_append, readFraction]
    split
    · next heq => exact absurd (List.cons.inj heq).1 hp
    · rfl
  · have taken := takeWhile_isDigit digits hc rest
    have left := dropWhile_isDigit digits hc rest
    simp only [List.cons_append] at taken left
    simp only [List.cons_append, readFraction, taken, left]

/-- An exponent is read up to a character that is neither a digit nor an `e`. -/
theorem readExponent_of_isExponent {exponent : List Char} (h : IsExponent exponent) {c : Char}
    (hc : c.isDigit = false) (he : ¬ (c = 'e' ∨ c = 'E')) (rest : List Char) :
    readExponent (exponent ++ c :: rest) = (exponent, c :: rest) := by
  rcases h with rfl | ⟨s, d, ds, rfl, sign, digits⟩
  · simp only [List.nil_append, readExponent, if_neg he]
  · have taken := takeWhile_isDigit digits hc rest
    have left := dropWhile_isDigit digits hc rest
    simp only [List.cons_append] at taken left
    simp only [List.cons_append, readExponent, if_pos sign, taken, left, true_or, if_true,
      List.nil_append]

/-! ## Reading a literal -/

/-- The character after a value belongs to no number. -/
theorem EndsValue.not_numeric {c : Char} (h : EndsValue c) :
    c.isDigit = false ∧ c ≠ '.' ∧ ¬ (c = 'e' ∨ c = 'E') := by
  rcases h with rfl | rfl | rfl <;> decide

/-- The first character of a whole part is a digit. -/
theorem IsWhole.exists_cons {whole : List Char} (h : IsWhole whole) :
    ∃ d ds, whole = d :: ds ∧ d.isDigit = true := by
  rcases h with rfl | ⟨d, ds, rfl, _, digits⟩
  · exact ⟨'0', [], rfl, by decide⟩
  · exact ⟨d, ds, rfl, digits d List.mem_cons_self⟩

/-- The first character of a decimal literal is a digit. -/
theorem IsDecimal.exists_cons {cs : List Char} (h : IsDecimal cs) :
    ∃ d ds, cs = d :: ds ∧ d.isDigit = true := by
  rcases h with ⟨hw, _, _, _⟩
  rcases hw.exists_cons with ⟨d, ds, rfl, hd⟩
  exact ⟨d, _, List.cons_append, hd⟩

/-- A literal with its sign. -/
def signed (negative : Bool) (cs : List Char) : List Char :=
  if negative then '-' :: cs else cs

/-- The first character after the whole part of a literal is no digit. -/
theorem exists_cons_of_parts {fraction exponent : List Char} (hf : IsFraction fraction)
    (he : IsExponent exponent) {c : Char} (hc : c.isDigit = false) (rest : List Char) :
    ∃ d ds, fraction ++ (exponent ++ c :: rest) = d :: ds ∧ d.isDigit = false := by
  rcases hf with rfl | ⟨_, _, rfl, _⟩
  · rcases he with rfl | ⟨_, _, _, rfl, _, _⟩
    · exact ⟨c, rest, rfl, hc⟩
    · exact ⟨'e', _, rfl, by decide⟩
  · exact ⟨'.', _, rfl, by decide⟩

/-- The first character after the fraction of a literal is neither a digit nor a point. -/
theorem exists_cons_of_exponent {exponent : List Char} (he : IsExponent exponent) {c : Char}
    (hc : c.isDigit = false) (hp : c ≠ '.') (rest : List Char) :
    ∃ d ds, exponent ++ c :: rest = d :: ds ∧ d.isDigit = false ∧ d ≠ '.' := by
  rcases he with rfl | ⟨_, _, _, rfl, _, _⟩
  · exact ⟨c, rest, rfl, hc, hp⟩
  · exact ⟨'e', _, rfl, by decide, by decide⟩

/-- A decimal literal is read back in front of a character that ends a value. -/
theorem readNumber_of_isDecimal (limit : Option Nat) (negative : Bool) {cs : List Char}
    (h : IsDecimal cs) {c : Char} (hc : EndsValue c) (rest : List Char) :
    readNumber limit (signed negative cs ++ c :: rest) =
      .ok (.decimal (String.ofList (signed negative cs)), c :: rest) := by
  rcases hc.not_numeric with ⟨digit, point, letter⟩
  rcases h.exists_cons with ⟨d, ds, hd, isDigit⟩
  have notMinus : d ≠ '-' := by
    rintro rfl
    exact absurd isDigit (by decide)
  rcases h with @⟨whole, fraction, exponent, hw, hf, he, nonempty⟩
  have wholeRead : readWhole? (whole ++ (fraction ++ (exponent ++ c :: rest))) =
      some (whole, fraction ++ (exponent ++ c :: rest)) := by
    rcases exists_cons_of_parts hf he digit rest with ⟨x, xs, hx, hxd⟩
    rw [hx, readWhole?_of_isWhole hw hxd]
  have fractionRead : readFraction (fraction ++ (exponent ++ c :: rest)) =
      (fraction, exponent ++ c :: rest) := by
    rcases exists_cons_of_exponent he digit point rest with ⟨x, xs, hx, hxd, hxp⟩
    rw [hx, readFraction_of_isFraction hf hxd hxp]
  have exponentRead := readExponent_of_isExponent he digit letter rest
  have notInteger : (fraction.isEmpty && exponent.isEmpty) = false := by
    rcases nonempty with h | h <;> simp [h]
  cases negative with
  | true =>
    simp [signed, readNumber, wholeRead, fractionRead, exponentRead, notInteger]
  | false =>
    have text : whole ++ (fraction ++ (exponent ++ c :: rest)) = d :: (ds ++ c :: rest) := by
      rw [← List.cons_append, ← hd]
      simp
    rw [text] at wholeRead
    simp [signed, readNumber, text, notMinus, wholeRead, fractionRead, exponentRead, notInteger]

/-! ## Writing a literal -/

/-- Digits followed by digits are digits. -/
theorem AllDigits.append {as bs : List Char} (ha : AllDigits as) (hb : AllDigits bs) :
    AllDigits (as ++ bs) := by
  intro c hc
  rcases List.mem_append.1 hc with h | h
  · exact ha c h
  · exact hb c h

/-- Zeros are digits. -/
theorem allDigits_zeros (n : Nat) : AllDigits (List.replicate n '0') := by
  intro c hc
  rw [List.eq_of_mem_replicate hc]
  decide

/-- The text of a number is made of digits. -/
theorem allDigits_decimalList (n : Nat) : AllDigits (decimalList n) :=
  fun _ => isDigit_of_mem_decimalList

/-- A padded number is one or more digits. -/
theorem exists_padLeft_decimalList (width n : Nat) :
    ∃ d ds, padLeft width '0' (decimalList n) = d :: ds ∧ AllDigits (d :: ds) := by
  have digits : AllDigits (padLeft width '0' (decimalList n)) :=
    (allDigits_zeros _).append (allDigits_decimalList n)
  have nonempty : padLeft width '0' (decimalList n) ≠ [] := by
    simp [padLeft, decimalList, Nat.toDigits_ne_nil]
  rcases List.exists_cons_of_ne_nil nonempty with ⟨d, ds, h⟩
  exact ⟨d, ds, h, h ▸ digits⟩

/-- An exponent part is written with a sign and digits. -/
theorem isExponent_written (negative : Prop) [Decidable negative] (width n : Nat) :
    IsExponent ('e' :: (if negative then '-' else '+') :: padLeft width '0' (decimalList n)) := by
  rcases exists_padLeft_decimalList width n with ⟨d, ds, h, digits⟩
  right
  refine ⟨if negative then '-' else '+', d, ds, by rw [h], ?_, digits⟩
  by_cases hn : negative <;> simp [hn]

/-- The front of a number that is at least one is a whole part. -/
theorem isWhole_front {d : Char} {ds : List Char} (hd : d ≠ '0') (digits : AllDigits (d :: ds))
    (n zeros : Nat) : IsWhole ((d :: ds).take (n + 1) ++ List.replicate zeros '0') := by
  right
  refine ⟨d, ds.take n ++ List.replicate zeros '0', rfl, hd, ?_⟩
  have taken : AllDigits ((d :: ds).take (n + 1)) := fun c hc => digits c (List.mem_of_mem_take hc)
  exact taken.append (allDigits_zeros zeros)

/-- A whole part with a fraction is a decimal literal. -/
theorem IsWhole.isDecimal_fraction {whole : List Char} (hw : IsWhole whole) {d : Char}
    {ds : List Char} (digits : AllDigits (d :: ds)) : IsDecimal (whole ++ '.' :: d :: ds) := by
  have decimal : IsDecimal (whole ++ ('.' :: d :: ds ++ [])) :=
    .intro hw (.inr ⟨d, ds, rfl, digits⟩) (.inl rfl) (.inl (by simp))
  rwa [List.append_nil] at decimal

/-- Digits with a point among them are a decimal literal. -/
theorem isDecimal_pointed {d : Char} {ds : List Char} (hd : d ≠ '0')
    (digits : AllDigits (d :: ds)) (whole : Int) : IsDecimal (pointed (d :: ds) whole) := by
  unfold pointed
  split
  · have fraction : AllDigits (List.replicate (-whole).toNat '0' ++ d :: ds) :=
      (allDigits_zeros _).append digits
    obtain ⟨x, xs, h⟩ := List.exists_cons_of_ne_nil
      (show List.replicate (-whole).toNat '0' ++ d :: ds ≠ [] by simp)
    rw [h] at fraction ⊢
    exact IsWhole.isDecimal_fraction (.inl rfl) fraction
  · next positive =>
    obtain ⟨n, hn⟩ : ∃ n, whole.toNat = n + 1 := ⟨whole.toNat - 1, by omega⟩
    simp only [hn]
    have front := isWhole_front hd digits n (n + 1 - (d :: ds).length)
    split
    · exact front.isDecimal_fraction (allDigits_zeros 1)
    · next rest nonempty =>
      rcases List.exists_cons_of_ne_nil nonempty with ⟨x, xs, h⟩
      have fraction : AllDigits (x :: xs) := by
        rw [← h]
        exact fun c hc => digits c (List.mem_of_mem_drop hc)
      rw [h]
      exact front.isDecimal_fraction fraction

/-- Digits with an exponent part are a decimal literal. -/
theorem isDecimal_exponential (l : Layout) {d : Char} {ds : List Char} (hd : d ≠ '0')
    (digits : AllDigits (d :: ds)) (leading : Int) :
    IsDecimal (l.exponential (d :: ds) leading) := by
  have exponent := isExponent_written (leading < 0) l.exponentWidth leading.natAbs
  have first : IsWhole [d] := by
    refine .inr ⟨d, [], rfl, hd, ?_⟩
    intro c hc
    rw [List.mem_singleton.1 hc]
    exact digits d List.mem_cons_self
  unfold Layout.exponential
  cases ds with
  | nil =>
    by_cases full : l.fullMantissa
    · simp only [full, if_true]
      exact IsDecimal.intro first (.inr ⟨'0', [], rfl, allDigits_zeros 1⟩) exponent
        (.inr (by simp))
    · simp only [full]
      exact IsDecimal.intro first (.inl rfl) exponent (.inr (by simp))
  | cons x xs =>
    have fraction : AllDigits (x :: xs) := fun c hc => digits c (List.mem_cons_of_mem _ hc)
    exact IsDecimal.intro first (.inr ⟨x, xs, rfl, fraction⟩) exponent (.inr (by simp))

/-- Every written decimal is a decimal literal. -/
theorem isDecimal_writeDecimal (l : Layout) (coefficient : Nat) (exponent : Int) :
    IsDecimal (l.writeDecimal coefficient exponent) := by
  unfold Layout.writeDecimal
  split
  · exact IsWhole.isDecimal_fraction (.inl rfl) (allDigits_zeros 1)
  · next nonzero =>
    rcases exists_decimalList_eq_cons (Nat.pos_of_ne_zero nonzero) with ⟨d, ds, h, hd⟩
    have digits : AllDigits (d :: ds) := h ▸ allDigits_decimalList coefficient
    simp only [h]
    split
    · exact isDecimal_pointed hd digits _
    · exact isDecimal_exponential l hd digits _

end Json

end Gatehouse
