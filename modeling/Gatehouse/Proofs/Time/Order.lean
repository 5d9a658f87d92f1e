import Gatehouse.Proofs.Number.Monotone
import Gatehouse.Proofs.Text.FixedWidth
import Gatehouse.Proofs.Time.Calendar
import Mathlib.Order.Monotone.Odd

/-!
# Timestamps are in the order of time

A clock reading that is not earlier than another one has an instant that is not earlier and a
timestamp that is not earlier as a text; for a later instant the text is later.  All parts of a
timestamp but the fraction have a fixed width and stand from the year down, and where the fraction
is missing, there is a plus sign, which comes before the point.

Main results:

- `micros_mono`: rounding to microseconds keeps the order.
- `fractionText_lt`: a missing fraction comes before every other one.
- `textOf_lt`, `textOf_le_iff`: timestamps are in the order of their instants.
- `instantOf_mono`, `stampOf_mono`: the instants and the timestamps of clock readings.
-/

namespace Gatehouse.Time

open Gatehouse.Number Gatehouse.Text

/-! ## Microseconds -/

/-- The microseconds of the fraction of a second. -/
def fractionMicros (q : ℚ) : Int :=
  roundHalfEven (roundSignificant 53 (q * 1000000))

/-- Fractions keep their order. -/
theorem fractionMicros_mono {q r : ℚ} (nonneg : 0 ≤ q) (order : q ≤ r) :
    fractionMicros q ≤ fractionMicros r :=
  roundHalfEven_mono (roundSignificant_mono (by decide) (by positivity) (by linarith))

/-- No fraction is no microseconds. -/
theorem fractionMicros_zero : fractionMicros 0 = 0 := by decide +kernel

/-- A whole second is a million microseconds. -/
theorem fractionMicros_one : fractionMicros 1 = 1000000 := by decide +kernel

/-- The microseconds of a fraction with its sign. -/
def signedMicros (q : ℚ) : Int :=
  if q < 0 then -fractionMicros (-q) else fractionMicros q

/-- The opposite of a fraction has the opposite microseconds. -/
theorem signedMicros_neg (q : ℚ) : signedMicros (-q) = -signedMicros q := by
  unfold signedMicros
  rcases lt_trichotomy q 0 with below | rfl | above
  · rw [if_pos below, if_neg (by linarith), neg_neg]
  · simp [fractionMicros_zero]
  · rw [if_neg above.not_gt, if_pos (by linarith), neg_neg]

/-- A reading is rounded in its fraction only. -/
theorem micros_eq (q : ℚ) :
    micros q = truncate q * 1000000 + signedMicros (q - (truncate q : Int)) := by
  unfold micros signedMicros fractionMicros
  by_cases below : q - (truncate q : Int) < 0
  · simp only [below, if_true]
  · simp only [below, if_false]

/-- Readings before 1970 are rounded like those after it. -/
theorem micros_neg (q : ℚ) : micros (-q) = -micros q := by
  have fraction : -q - (truncate (-q) : Int) = -(q - (truncate q : Int)) := by
    rw [truncate_neg, Int.cast_neg]
    ring
  rw [micros_eq, micros_eq, fraction, signedMicros_neg, truncate_neg]
  ring

/-- A reading that is not negative, in microseconds. -/
theorem micros_of_nonneg {q : ℚ} (nonneg : 0 ≤ q) :
    micros q = ⌊q⌋ * 1000000 + fractionMicros (Int.fract q) := by
  rw [micros_eq, truncate_of_nonneg nonneg, Int.self_sub_floor, signedMicros,
    if_neg (Int.fract_nonneg q).not_gt]

/-- Rounding to microseconds keeps the order. -/
theorem micros_mono : Monotone micros := by
  refine monotone_of_odd_of_monotoneOn_nonneg micros_neg ?_
  intro q nonneg r nonneg' order
  rw [micros_of_nonneg nonneg, micros_of_nonneg nonneg']
  rcases (Int.floor_mono order).lt_or_eq with second | second
  · -- a fraction is rounded to a whole second at most
    have most : fractionMicros (Int.fract q) ≤ 1000000 :=
      (fractionMicros_mono (Int.fract_nonneg q) (Int.fract_lt_one q).le).trans_eq
        fractionMicros_one
    have least : 0 ≤ fractionMicros (Int.fract r) :=
      fractionMicros_zero.ge.trans (fractionMicros_mono le_rfl (Int.fract_nonneg r))
    omega
  · have fractions : Int.fract q ≤ Int.fract r := by
      rw [Int.fract, Int.fract, second]
      exact sub_le_sub_right order _
    have := fractionMicros_mono (Int.fract_nonneg q) fractions
    omega

/-! ## Texts -/

/-- The widths of the numbers of a timestamp down to its seconds, and what stands after each. -/
def stampLayout : List (Nat × List Char) :=
  [(4, ['-']), (2, ['-']), (2, ['T']), (2, [':']), (2, [':']), (2, [])]

/-- The numbers of a timestamp down to its seconds. -/
def stampNumbers (seconds : Int) : List Nat :=
  let date := Civil.ofDays (seconds / 86400)
  let ofDay := (seconds % 86400).toNat
  [date.year.toNat, date.month, date.day, ofDay / 3600, ofDay / 60 % 60, ofDay % 60]

/-- The fraction of a timestamp, and its offset. -/
def fractionText (fraction : Nat) : List Char :=
  (if fraction = 0 then [] else '.' :: padded 6 fraction) ++ ['+', '0', '0', ':', '0', '0']

/-- A timestamp is the text of its seconds and of its fraction. -/
theorem toList_textOf (us : Int) :
    (textOf us).toList =
      spelled stampLayout (stampNumbers (secondsOf us)) ++ fractionText (us % 1000000).toNat := by
  have days : us / 86400000000 = secondsOf us / 86400 := by
    unfold secondsOf
    omega
  have ofDay : (us % 86400000000).toNat / 1000000 = (secondsOf us % 86400).toNat := by
    unfold secondsOf
    omega
  have fraction : (us % 86400000000).toNat % 1000000 = (us % 1000000).toNat := by omega
  simp only [textOf, dateOf, days, ofDay, fraction, stampLayout, stampNumbers, spelled, padded,
    paddedDecimal, fractionText]
  split
  · simp
  · simp

/-! ## The order of texts -/

/-- An instant of a year that is written with four digits. -/
def Datable (us : Int) : Prop :=
  1 ≤ (dateOf us).year ∧ (dateOf us).year ≤ 9999

/-- The date of an instant is that of its seconds. -/
theorem dateOf_eq (us : Int) : dateOf us = Civil.ofDays (secondsOf us / 86400) := by
  unfold dateOf secondsOf
  congr 1
  omega

/-- The numbers of a timestamp fit their widths. -/
theorem fits_stampNumbers {us : Int} (datable : Datable us) :
    Fits stampLayout (stampNumbers (secondsOf us)) := by
  rw [Datable, dateOf_eq] at datable
  rcases proper_ofDays (secondsOf us / 86400) with ⟨_, month, _, day⟩
  have last : (secondsOf us % 86400).toNat < 86400 := by omega
  refine .cons ?_ (.cons ?_ (.cons ?_ (.cons ?_ (.cons ?_ (.cons ?_ .nil))))) <;>
    refine ⟨by decide, ?_⟩ <;> simp only <;> omega

/-- A later second has later numbers. -/
theorem stampNumbers_lt {s t : Int} (order : s < t) (after : 1 ≤ (Civil.ofDays (s / 86400)).year) :
    stampNumbers s < stampNumbers t := by
  simp only [stampNumbers, List.cons_lt_cons_iff]
  rcases (Int.ediv_le_ediv (by decide) order.le : s / 86400 ≤ t / 86400).lt_or_eq with day | day
  · have date := ofDays_before day
    unfold Civil.Before at date
    omega
  · have ofDay : (s % 86400).toNat < (t % 86400).toNat := by omega
    rw [day]
    refine .inr ⟨rfl, .inr ⟨rfl, .inr ⟨rfl, ?_⟩⟩⟩
    omega

/-- A greater fraction has a later text; a missing one comes before every other. -/
theorem fractionText_lt {m n : Nat} (fits : n < 1000000) (order : m < n) :
    fractionText m < fractionText n := by
  unfold fractionText
  rw [if_neg (show n ≠ 0 by omega)]
  split
  · exact List.cons_lt_cons_iff.2 (.inl (by decide))
  · simp only [List.cons_append]
    exact List.cons_lt_cons_iff.2 (.inr ⟨rfl, padded_append_lt (by decide)
      (by omega) (by omega) (.inl order)⟩)

/-- A later instant has a later timestamp. -/
theorem textOf_lt {a b : Int} (ha : Datable a) (hb : Datable b) (order : a < b) :
    textOf a < textOf b := by
  rw [String.lt_iff_toList_lt, toList_textOf, toList_textOf]
  apply spelled_append_lt (fits_stampNumbers ha) (fits_stampNumbers hb)
  have seconds : secondsOf a ≤ secondsOf b := Int.ediv_le_ediv (by decide) order.le
  rcases seconds.lt_or_eq with second | second
  · exact .inl (stampNumbers_lt second (dateOf_eq a ▸ ha.1))
  · refine .inr ⟨by rw [second], fractionText_lt (by omega) ?_⟩
    unfold secondsOf at second
    omega

/-- Timestamps are in the order of their instants. -/
theorem textOf_le_iff {a b : Int} (ha : Datable a) (hb : Datable b) :
    textOf a ≤ textOf b ↔ a ≤ b := by
  constructor
  · intro texts
    by_contra later
    exact texts.not_gt (textOf_lt hb ha (not_le.1 later))
  · intro order
    rcases order.lt_or_eq with earlier | rfl
    · exact (textOf_lt ha hb earlier).le
    · exact le_rfl

/-! ## Clock readings -/

/-- An instant is a reading that was rounded, in a year of four digits. -/
theorem instantOf_ok {clock : Float} {us : Int} (h : instantOf clock = .ok us) :
    ∃ q, toRat? clock = some q ∧ us = micros q ∧ Datable us := by
  unfold instantOf at h
  split at h
  · cases h
  · next q exact =>
    simp only at h
    split at h
    · cases h
    · split at h
      · cases h
      · split at h
        · cases h
        · next year =>
          cases h
          exact ⟨q, exact, rfl, by unfold Datable; omega⟩

/-- The instant that a clock reading may have. -/
theorem toOption_instantOf_eq_some_iff {clock : Float} {us : Int} :
    (instantOf clock).toOption = some us ↔ instantOf clock = .ok us := by
  cases instantOf clock with
  | error f => simp [Except.toOption]
  | ok i => simp [Except.toOption]

/-- A clock reading that is not earlier has no earlier instant. -/
theorem instantOf_mono {c d : Float} {q r : ℚ} {a b : Int} (hq : toRat? c = some q)
    (hr : toRat? d = some r) (order : q ≤ r) (ha : instantOf c = .ok a) (hb : instantOf d = .ok b) :
    a ≤ b := by
  obtain ⟨q', hq', rfl, _⟩ := instantOf_ok ha
  obtain ⟨r', hr', rfl, _⟩ := instantOf_ok hb
  cases hq.symm.trans hq'
  cases hr.symm.trans hr'
  exact micros_mono order

/-- A clock reading has a timestamp exactly when it has an instant. -/
theorem stampOf_eq_ok_iff {clock : Float} {stamp : String} :
    stampOf clock = .ok stamp ↔ ∃ us, instantOf clock = .ok us ∧ stamp = textOf us := by
  unfold stampOf
  cases instantOf clock with
  | error f => simp [Except.map]
  | ok us => simp [Except.map, eq_comm]

/-- Timestamps of clock readings in their order are in order, and for different instants they are
different. -/
theorem stampOf_mono {c d : Float} {q r : ℚ} {a b : Int} (hq : toRat? c = some q)
    (hr : toRat? d = some r) (order : q ≤ r) (ha : instantOf c = .ok a) (hb : instantOf d = .ok b) :
    ∃ s t, stampOf c = .ok s ∧ stampOf d = .ok t ∧ s ≤ t ∧ (a ≠ b → s < t) := by
  obtain ⟨_, _, _, datable⟩ := instantOf_ok ha
  obtain ⟨_, _, _, datable'⟩ := instantOf_ok hb
  have instants : a ≤ b := instantOf_mono hq hr order ha hb
  refine ⟨textOf a, textOf b, stampOf_eq_ok_iff.2 ⟨a, ha, rfl⟩, stampOf_eq_ok_iff.2 ⟨b, hb, rfl⟩,
    (textOf_le_iff datable datable').2 instants, fun different => ?_⟩
  exact textOf_lt datable datable' (lt_of_le_of_ne instants different)

end Gatehouse.Time
