import Gatehouse.Failure.Basic
import Gatehouse.Number.Nearest
import Gatehouse.Number.Word

/-!
# Timestamps

A clock reading is a number of seconds since 1970-01-01, in UTC.  Its text is an
ISO 8601 date and time with six digits of a second, which are left out when they
are all zero, and the offset `+00:00`.

Main results:

- `micros`: a reading in whole microseconds, a half going to the even neighbour.
- `Civil.ofDays`: the calendar date of a day number.
- `instantOf`: the instant of a clock reading, or why it has none.
- `stampOf`: the text of that instant.
- `secondsOf_le`: an instant lies within the second that it belongs to.
-/

namespace Gatehouse.Time

open Gatehouse.Number Gatehouse.Text

/-! ## Microseconds -/

/-- A reading in microseconds.

The fraction of a second times a million is first rounded to the 53 bits of a
floating point product and then to an integer. -/
def micros (q : Rat) : Int :=
  let whole := truncate q
  let fraction := q - whole
  let size := if fraction < 0 then -fraction else fraction
  let rounded := roundHalfEven (roundSignificant 53 (size * 1000000))
  whole * 1000000 + (if fraction < 0 then -rounded else rounded)

/-! ## The calendar -/

/-- A calendar date. -/
structure Civil where
  year : Int
  month : Nat
  day : Nat
deriving DecidableEq, Repr

/-- The date of a day number, counted from 1970-01-01.

Years are counted from March, so that a leap day ends its year, in eras of 400
years or 146097 days. -/
def Civil.ofDays (days : Int) : Civil :=
  let shifted := days + 719468
  let era := shifted / 146097
  let dayOfEra := (shifted % 146097).toNat
  let yearOfEra := (dayOfEra - dayOfEra / 1460 + dayOfEra / 36524 - dayOfEra / 146096) / 365
  let dayOfYear := dayOfEra - (365 * yearOfEra + yearOfEra / 4 - yearOfEra / 100)
  let marchMonth := (5 * dayOfYear + 2) / 153
  let day := dayOfYear - (153 * marchMonth + 2) / 5 + 1
  let month := if marchMonth < 10 then marchMonth + 3 else marchMonth - 9
  ⟨yearOfEra + era * 400 + (if month ≤ 2 then 1 else 0), month, day⟩

/-! ## Instants -/

/-- The date of an instant given in microseconds. -/
def dateOf (us : Int) : Civil :=
  Civil.ofDays (us / 86400000000)

/-- The instant of a clock reading in microseconds; years outside 1 to 9999 have none. -/
def instantOf (clock : Float) : Except Fault Int :=
  match toRat? clock with
  | none => .error (if clock.isNaN then .notATime else .overflow)
  | some q =>
    if ¬ isWord 64 (truncate q) then .error .overflow
    else
      let us := micros q
      let year := (dateOf us).year
      if ¬ isWord 32 (year - 1900) then .error .platformTime
      else if year < 1 ∨ 9999 < year then .error (.yearOutOfRange year)
      else .ok us

/-- The whole seconds of an instant given in microseconds. -/
def secondsOf (us : Int) : Int :=
  us / 1000000

/-- An instant lies within the second that it belongs to. -/
theorem secondsOf_le (us : Int) :
    secondsOf us * 1000000 ≤ us ∧ us < (secondsOf us + 1) * 1000000 := by
  unfold secondsOf
  omega

/-! ## Text -/

/-- The text of an instant given in microseconds. -/
def textOf (us : Int) : String :=
  let date := dateOf us
  let ofDay := (us % 86400000000).toNat
  let seconds := ofDay / 1000000
  let fraction := ofDay % 1000000
  paddedDecimal 4 date.year.toNat ++ "-" ++ paddedDecimal 2 date.month ++ "-" ++
    paddedDecimal 2 date.day ++ "T" ++ paddedDecimal 2 (seconds / 3600) ++ ":" ++
    paddedDecimal 2 (seconds / 60 % 60) ++ ":" ++ paddedDecimal 2 (seconds % 60) ++
    (if fraction = 0 then "" else "." ++ paddedDecimal 6 fraction) ++ "+00:00"

/-- The text of a clock reading. -/
def stampOf (clock : Float) : Except Fault String :=
  (instantOf clock).map textOf

end Gatehouse.Time
