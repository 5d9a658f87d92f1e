import Gatehouse.Proofs.Json.Decimals
import Mathlib.Data.List.Lex
import Mathlib.Data.Nat.Digits.Defs

/-!
# Numbers of fixed width in texts

Texts are in the order of their first difference.  Decimal numbers that are filled up with zeros to
one width are in the order of their values, and so are texts that begin with them.

Main results:

- `append_lt_append_of_lt`: what follows texts of one length makes no difference to their order.
- `lt_of_digitsValue_lt`: as many digits are in the order of their values.
- `padded_append_lt`: texts that begin with numbers of one width.
- `spelled_append_lt`: texts that begin with several of them are in the order of the first ones that
  differ.
-/

namespace Gatehouse.Text

open Gatehouse.Number Gatehouse.Json

/-! ## The order of texts -/

/-- What follows texts of one length makes no difference to their order. -/
theorem append_lt_append_of_lt {as bs : List Char} (h : as < bs) (same : as.length = bs.length)
    (cs ds : List Char) : as ++ cs < bs ++ ds := by
  induction as generalizing bs with
  | nil =>
    rw [List.length_eq_zero_iff.1 same.symm] at h
    exact absurd h (lt_irrefl [])
  | cons a as ih =>
    cases bs with
    | nil => cases same
    | cons b bs =>
      rw [List.cons_append, List.cons_append, List.cons_lt_cons_iff]
      rcases List.cons_lt_cons_iff.1 h with first | ⟨rfl, rest⟩
      · exact .inl first
      · exact .inr ⟨rfl, ih rest (Nat.succ_injective same)⟩

/-! ## Digits -/

/-- The value of a first digit and others. -/
theorem digitsValue_cons (c : Char) (cs : List Char) :
    digitsValue (c :: cs) = (c.toNat - 0x30) * 10 ^ cs.length + digitsValue cs := by
  have single : digitsValue [c] = c.toNat - 0x30 := by simp [digitsValue]
  rw [← List.singleton_append, digitsValue_append, single]

/-- The value of a digit is below ten. -/
theorem toNat_sub_lt_of_isDigit {c : Char} (digit : c.isDigit = true) : c.toNat - 0x30 < 10 := by
  have most : c.toNat ≤ 57 := (Char.isDigit_iff_toNat.1 digit).2
  omega

/-- So many digits have a value below the power of ten. -/
theorem digitsValue_lt {cs : List Char} (digits : AllDigits cs) :
    digitsValue cs < 10 ^ cs.length := by
  induction cs with
  | nil => decide
  | cons c cs ih =>
    have rest := ih fun d hd => digits d (List.mem_cons_of_mem c hd)
    have digit := toNat_sub_lt_of_isDigit (digits c List.mem_cons_self)
    calc digitsValue (c :: cs)
      _ = (c.toNat - 0x30) * 10 ^ cs.length + digitsValue cs := digitsValue_cons c cs
      _ < (c.toNat - 0x30) * 10 ^ cs.length + 10 ^ cs.length := by omega
      _ = (c.toNat - 0x30 + 1) * 10 ^ cs.length := by ring
      _ ≤ 10 * 10 ^ cs.length := Nat.mul_le_mul_right _ digit
      _ = 10 ^ (c :: cs).length := by rw [List.length_cons, pow_succ']

/-- As many digits are in the order of their values. -/
theorem lt_of_digitsValue_lt {as bs : List Char} (digits : AllDigits as) (digits' : AllDigits bs)
    (same : as.length = bs.length) (h : digitsValue as < digitsValue bs) : as < bs := by
  induction as generalizing bs with
  | nil =>
    rw [List.length_eq_zero_iff.1 same.symm] at h
    exact absurd h (lt_irrefl _)
  | cons a as ih =>
    cases bs with
    | nil => cases same
    | cons b bs =>
      have rest : AllDigits as := fun d hd => digits d (List.mem_cons_of_mem a hd)
      have rest' : AllDigits bs := fun d hd => digits' d (List.mem_cons_of_mem b hd)
      have same' : as.length = bs.length := Nat.succ_injective same
      rw [digitsValue_cons, digitsValue_cons, same'] at h
      rw [List.cons_lt_cons_iff]
      rcases lt_trichotomy a b with first | rfl | first
      · exact .inl first
      · exact .inr ⟨rfl, ih rest rest' same' (by omega)⟩
      · -- a greater first digit is worth more than all digits after it
        have small := digitsValue_lt rest'
        have greater : b.toNat < a.toNat := first
        have least : 48 ≤ b.toNat := (Char.isDigit_iff_toNat.1 (digits' b List.mem_cons_self)).1
        have step : (b.toNat - 0x30 + 1) * 10 ^ bs.length ≤ (a.toNat - 0x30) * 10 ^ bs.length :=
          Nat.mul_le_mul_right _ (by omega)
        rw [Nat.add_mul, Nat.one_mul] at step
        omega

/-! ## Numbers of fixed width -/

/-- The decimal digits of a number, filled up to a width. -/
def padded (width n : Nat) : List Char :=
  padLeft width '0' (decimalList n)

/-- A number that fits has exactly the width. -/
theorem length_padded {width n : Nat} (some : 0 < width) (fits : n < 10 ^ width) :
    (padded width n).length = width := by
  have short : (decimalList n).length ≤ width :=
    (Nat.length_toDigits_le_iff (by decide) some).2 fits
  rw [padded, length_padLeft, max_eq_left short]

/-- Texts that begin with numbers of one width are in the order of the numbers, and of what follows
when the numbers are the same. -/
theorem padded_append_lt {width n m : Nat} (some : 0 < width) (fits : n < 10 ^ width)
    (fits' : m < 10 ^ width) {cs ds : List Char} (h : n < m ∨ n = m ∧ cs < ds) :
    padded width n ++ cs < padded width m ++ ds := by
  rcases h with less | ⟨rfl, rest⟩
  · have digits (k : Nat) : AllDigits (padded width k) :=
      (allDigits_zeros _).append (allDigits_decimalList k)
    have same := (length_padded some fits).trans (length_padded some fits').symm
    refine append_lt_append_of_lt (lt_of_digitsValue_lt (digits n) (digits m) same ?_) same cs ds
    rwa [padded, padded, digitsValue_padLeft, digitsValue_padLeft, digitsValue_decimalList,
      digitsValue_decimalList]
  · exact List.append_left_lt rest

/-- Numbers of fixed widths, with a mark after each. -/
def spelled : List (Nat × List Char) → List Nat → List Char
  | (width, mark) :: layout, n :: ns => padded width n ++ (mark ++ spelled layout ns)
  | _, _ => []

/-- Numbers fit the widths of a layout. -/
abbrev Fits (layout : List (Nat × List Char)) (ns : List Nat) : Prop :=
  List.Forall₂ (fun field n => 0 < field.1 ∧ n < 10 ^ field.1) layout ns

/-- Texts that begin with numbers of fixed widths are in the order of the first numbers that differ,
and of what follows when none does. -/
theorem spelled_append_lt {layout : List (Nat × List Char)} {ns ms : List Nat}
    (fits : Fits layout ns) (fits' : Fits layout ms) {cs ds : List Char}
    (h : ns < ms ∨ ns = ms ∧ cs < ds) : spelled layout ns ++ cs < spelled layout ms ++ ds := by
  induction fits generalizing ms with
  | nil =>
    cases fits'
    rcases h with none | ⟨_, rest⟩
    · exact absurd none (lt_irrefl [])
    · exact rest
  | @cons field n layout ns first _ ih =>
    rcases fits' with - | @⟨_, m, _, ms, first', others'⟩
    simp only [spelled, List.append_assoc]
    refine padded_append_lt first.1 first.2 first'.2 ?_
    rcases h with less | ⟨same, rest⟩
    · rcases List.cons_lt_cons_iff.1 less with less | ⟨same, less⟩
      · exact .inl less
      · exact .inr ⟨same, List.append_left_lt (ih others' (.inl less))⟩
    · rcases List.cons_eq_cons.1 same with ⟨same, others⟩
      exact .inr ⟨same, List.append_left_lt (ih others' (.inr ⟨others, rest⟩))⟩

end Gatehouse.Text
