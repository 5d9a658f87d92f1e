import Gatehouse.Number.Exact

/-!
# Rounding rationals

A rational number other than zero has a leading bit.  Rounding to a number of
significant bits keeps that many, counted from the leading one, and a half goes
to the even neighbour.  The floating point numbers have 53 of them, and fewer at
the bottom of their range.

Main results:

- `roundSignificant`: a rational with a number of significant bits.
- `nearest`: the floating point number nearest to a rational.
- `nearest_neg_of_pos`: rounding treats both signs alike.
-/

namespace Gatehouse.Number

/-- The exponent of the leading bit of a positive rational. -/
def leadingPower (q : Rat) : Int :=
  let guess : Int := (q.num.natAbs.log2 : Int) - q.den.log2
  if q < scaled 1 guess then guess - 1 else guess

/-- The integer nearest to a rational when counted in units of a power of two. -/
def inUnits (q : Rat) (exponent : Int) : Int :=
  roundHalfEven (q / scaled 1 exponent)

/-- A non-negative rational rounded to a number of significant bits. -/
def roundSignificant (bits : Nat) (q : Rat) : Rat :=
  if q = 0 then 0
  else
    let exponent := leadingPower q - ((bits : Int) - 1)
    (inUnits q exponent : Rat) * scaled 1 exponent

/-- The floating point number nearest to a non-negative rational, infinite when out of range. -/
def nearestMagnitude (q : Rat) : Float :=
  if q = 0 then 0
  else
    let exponent := max (leadingPower q - 52) (-1074)
    (Float.ofInt (inUnits q exponent)).scaleB exponent

/-- The floating point number nearest to a rational, infinite when out of range. -/
def nearest (q : Rat) : Float :=
  if q < 0 then -nearestMagnitude (-q) else nearestMagnitude q

/-- The number nearest to the opposite of a positive rational is the opposite of its nearest. -/
theorem nearest_neg_of_pos {q : Rat} (h : 0 < q) : nearest (-q) = -nearest q := by
  have hneg : -q < 0 := by grind
  have hpos : ¬ q < 0 := by grind
  simp [nearest, hneg, hpos]

end Gatehouse.Number
