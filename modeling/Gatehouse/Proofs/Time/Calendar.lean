import Gatehouse.Time.Timestamp
import Mathlib.Data.Int.Order.Basic
import Mathlib.Order.Nat

/-!
# The calendar keeps the order

A later day has a later date.  Days are counted in years that begin with March, in eras of 400
years: within an era the year grows with the day, within a year the month does, and every day
lies at or after the beginning of its year.  Dates are then in the order of their months, counted
through all years, and of their days in a month.

Main results:

- `yearStart_bounds`: a day of an era lies in its year.
- `proper_ofDays`: the parts of a date fit their widths.
- `ofDays_before`: a later day has a later date.
-/

namespace Gatehouse.Time

/-! ## Eras of four hundred years -/

/-- The year of a day in its era. -/
def yearOfEra (day : Nat) : Nat :=
  (day - day / 1460 + day / 36524 - day / 146096) / 365

/-- The first day of a year in its era. -/
def yearStart (year : Nat) : Nat :=
  365 * year + year / 4 - year / 100

/-- The month of a day in its year, counted from March. -/
def marchMonth (day : Nat) : Nat :=
  (5 * day + 2) / 153

/-- The first day of a month in its year, both counted from March. -/
def monthStart (month : Nat) : Nat :=
  (153 * month + 2) / 5

/-- Days are counted off in at most four spans, the last of which may be longer. -/
theorem exists_span {length : Nat} (positive : 0 < length) (d : Nat) :
    ∃ n rest, d = length * n + rest ∧ n ≤ 3 ∧ (n = 3 ∨ rest < length) := by
  rcases Nat.lt_or_ge (d / length) 3 with few | many
  · exact ⟨d / length, d % length, (Nat.div_add_mod d length).symm, few.le,
      .inr (Nat.mod_lt d positive)⟩
  · have three : length * 3 ≤ d :=
      (Nat.mul_le_mul_left length many).trans (Nat.mul_div_le d length)
    exact ⟨3, d - length * 3, by omega, le_rfl, .inl rfl⟩

/-- A day of an era is so many days into a year, which is one of four years of a century; the last
century of an era, and the last year of four, are a day longer. -/
structure EraDay (d c q t rest : Nat) : Prop where
  parts : d = 36524 * c + 1461 * q + 365 * t + rest
  centuries : c ≤ 3
  fours : q ≤ 24
  years : t ≤ 3
  inYear : t = 3 ∨ rest < 365
  inFour : 365 * t + rest ≤ 1460
  inCentury : c = 3 ∨ 1461 * q + 365 * t + rest < 36524

/-- Every day of an era is such a day. -/
theorem exists_eraDay {d : Nat} (last : d < 146097) : ∃ c q t rest, EraDay d c q t rest := by
  obtain ⟨c, r, rfl, hc, century⟩ := exists_span (show 0 < 36524 by decide) d
  have four := Nat.div_add_mod r 1461
  have inFour := Nat.mod_lt r (y := 1461) (by decide)
  generalize r / 1461 = q at four
  generalize r % 1461 = s at four inFour
  obtain ⟨t, rest, rfl, ht, year⟩ := exists_span (show 0 < 365 by decide) s
  subst four
  exact ⟨c, q, t, rest, by omega, hc, by omega, ht, year, by omega, by omega⟩

namespace EraDay

variable {d c q t rest : Nat}

/-- The year of such a day. -/
theorem yearOfEra_eq (h : EraDay d c q t rest) : yearOfEra d = 100 * c + 4 * q + t := by
  rcases h with ⟨parts, centuries, fours, years, inYear, inFour, inCentury⟩
  -- the quotients are off by one on the last days of a span at most
  have spans : d / 1460 = 25 * c + q ∨ d / 1460 = 25 * c + q + 1 := by omega
  have centuries : d / 146096 = 0 ∧ d / 36524 = c ∨ d / 146096 = 1 ∧ d / 36524 = 4 := by omega
  unfold yearOfEra
  rcases spans with h | h <;> rcases centuries with ⟨h₁, h₂⟩ | ⟨h₁, h₂⟩ <;> rw [h, h₁, h₂] <;> omega

/-- The first day of its year. -/
theorem yearStart_eq (h : EraDay d c q t rest) :
    yearStart (yearOfEra d) = 36524 * c + 1461 * q + 365 * t := by
  have years := h.years
  have fours := h.fours
  rw [h.yearOfEra_eq, yearStart]
  have leap : (100 * c + 4 * q + t) / 4 = 25 * c + q := by omega
  have even : (100 * c + 4 * q + t) / 100 = c := by omega
  rw [leap, even]
  omega

end EraDay

/-- An era has 400 years. -/
theorem yearOfEra_lt {d : Nat} (last : d < 146097) : yearOfEra d < 400 := by
  obtain ⟨c, q, t, rest, h⟩ := exists_eraDay last
  have centuries := h.centuries
  have fours := h.fours
  have years := h.years
  rw [h.yearOfEra_eq]
  omega

/-- The years of an era grow with its days. -/
theorem yearOfEra_mono {d e : Nat} (last : e < 146097) (order : d ≤ e) :
    yearOfEra d ≤ yearOfEra e := by
  obtain ⟨c, q, t, rest, h⟩ := exists_eraDay (order.trans_lt last)
  obtain ⟨c', q', t', rest', h'⟩ := exists_eraDay last
  rw [h.yearOfEra_eq, h'.yearOfEra_eq]
  rcases h with ⟨parts, centuries, fours, years, inYear, inFour, inCentury⟩
  rcases h' with ⟨parts', centuries', fours', years', inYear', inFour', inCentury'⟩
  -- the spans are compared from the longest one
  rcases lt_trichotomy c c' with less | rfl | more
  · omega
  · rcases lt_trichotomy q q' with less | rfl | more
    · omega
    · omega
    · omega
  · omega

/-- A day lies within 366 days from the first one of its year. -/
theorem yearStart_bounds {d : Nat} (last : d < 146097) :
    yearStart (yearOfEra d) ≤ d ∧ d < yearStart (yearOfEra d) + 366 := by
  obtain ⟨c, q, t, rest, h⟩ := exists_eraDay last
  have parts := h.parts
  have inYear := h.inYear
  have inFour := h.inFour
  rw [h.yearStart_eq]
  omega

/-! ## Dates -/

/-- A date comes before another one. -/
def Civil.Before (a b : Civil) : Prop :=
  a.year < b.year ∨ a.year = b.year ∧ (a.month < b.month ∨ a.month = b.month ∧ a.day < b.day)

/-- The number of the months up to that of a date. -/
def Civil.monthNumber (a : Civil) : Int :=
  12 * a.year + a.month

/-- A date whose parts fit a text of fixed width. -/
structure Civil.Proper (a : Civil) : Prop where
  month_pos : 1 ≤ a.month
  month_le : a.month ≤ 12
  day_pos : 1 ≤ a.day
  day_le : a.day ≤ 31

/-- The day of an era, and the day of the year in it. -/
def dayOfEra (days : Int) : Nat :=
  ((days + 719468) % 146097).toNat

/-- The day of a year that begins with March. -/
def dayOfYear (days : Int) : Nat :=
  dayOfEra days - yearStart (yearOfEra (dayOfEra days))

/-- The year, counted through all eras, that begins with March. -/
def marchYear (days : Int) : Int :=
  yearOfEra (dayOfEra days) + (days + 719468) / 146097 * 400

/-- A day of an era is below the length of an era. -/
theorem dayOfEra_lt (days : Int) : dayOfEra days < 146097 := by
  unfold dayOfEra
  omega

/-- The month of a day in its year is one of twelve. -/
theorem marchMonth_le (days : Int) : marchMonth (dayOfYear days) ≤ 11 := by
  have bounds := yearStart_bounds (dayOfEra_lt days)
  unfold marchMonth dayOfYear
  omega

/-- The date of a day, in its parts. -/
theorem ofDays_eq (days : Int) :
    Civil.ofDays days =
      ⟨marchYear days + (if marchMonth (dayOfYear days) < 10 then 0 else 1),
        if marchMonth (dayOfYear days) < 10 then marchMonth (dayOfYear days) + 3
          else marchMonth (dayOfYear days) - 9,
        dayOfYear days - monthStart (marchMonth (dayOfYear days)) + 1⟩ := by
  have last := marchMonth_le days
  have month : (if (if marchMonth (dayOfYear days) < 10 then marchMonth (dayOfYear days) + 3
      else marchMonth (dayOfYear days) - 9) ≤ 2 then (1 : Int) else 0) =
        if marchMonth (dayOfYear days) < 10 then 0 else 1 := by
    split <;> split <;> omega
  rw [← month]
  rfl

/-- Months are counted from March through all years. -/
theorem monthNumber_ofDays (days : Int) :
    (Civil.ofDays days).monthNumber = 12 * marchYear days + marchMonth (dayOfYear days) + 3 := by
  rw [ofDays_eq, Civil.monthNumber]
  have last := marchMonth_le days
  simp only
  split <;> omega

/-- The parts of the date of a day fit a text of fixed width. -/
theorem proper_ofDays (days : Int) : (Civil.ofDays days).Proper := by
  have last := marchMonth_le days
  have bounds := yearStart_bounds (dayOfEra_lt days)
  rw [ofDays_eq]
  constructor
  · simp only
    split <;> omega
  · simp only
    split <;> omega
  · simp
  · simp only [marchMonth, monthStart]
    omega

/-! ## The order of dates -/

/-- Dates are in the order of their months, counted through all years, and of their days. -/
theorem Civil.before_iff {a b : Civil} (ha : a.Proper) (hb : b.Proper) :
    a.Before b ↔
      a.monthNumber < b.monthNumber ∨ a.monthNumber = b.monthNumber ∧ a.day < b.day := by
  rcases ha with ⟨first, last, _, _⟩
  rcases hb with ⟨first', last', _, _⟩
  unfold Civil.Before Civil.monthNumber
  omega

/-- The years that begin with March grow with the days. -/
theorem marchYear_mono {a b : Int} (order : a ≤ b) : marchYear a ≤ marchYear b := by
  unfold marchYear
  rcases (Int.ediv_le_ediv (by decide) (Int.add_le_add_right order 719468) :
    (a + 719468) / 146097 ≤ (b + 719468) / 146097).lt_or_eq with era | era
  · have last := yearOfEra_lt (dayOfEra_lt a)
    omega
  · have later : dayOfEra a ≤ dayOfEra b := by
      unfold dayOfEra
      omega
    have years := yearOfEra_mono (dayOfEra_lt b) later
    omega

/-- Within a year the days are counted on. -/
theorem dayOfYear_lt {a b : Int} (order : a < b) (same : marchYear a = marchYear b) :
    dayOfYear a < dayOfYear b := by
  have years := yearOfEra_lt (dayOfEra_lt a)
  have years' := yearOfEra_lt (dayOfEra_lt b)
  have era : (a + 719468) / 146097 = (b + 719468) / 146097 ∧
      yearOfEra (dayOfEra a) = yearOfEra (dayOfEra b) := by
    unfold marchYear at same
    omega
  have later : dayOfEra a < dayOfEra b := by
    have era := era.1
    unfold dayOfEra
    omega
  have first := (yearStart_bounds (dayOfEra_lt a)).1
  unfold dayOfYear
  rw [← era.2]
  omega

/-- A later day has a later date. -/
theorem ofDays_before {a b : Int} (order : a < b) : (Civil.ofDays a).Before (Civil.ofDays b) := by
  rw [Civil.before_iff (proper_ofDays a) (proper_ofDays b), monthNumber_ofDays, monthNumber_ofDays]
  have last := marchMonth_le a
  rcases (marchYear_mono order.le).lt_or_eq with year | year
  · omega
  · have days := dayOfYear_lt order year
    have months : marchMonth (dayOfYear a) ≤ marchMonth (dayOfYear b) := by
      unfold marchMonth
      omega
    rcases months.lt_or_eq with month | month
    · omega
    · -- within a month the days are counted from its first one
      have first : monthStart (marchMonth (dayOfYear a)) ≤ dayOfYear a := by
        unfold monthStart marchMonth
        omega
      rw [ofDays_eq, ofDays_eq, ← month]
      simp only
      omega

end Gatehouse.Time
