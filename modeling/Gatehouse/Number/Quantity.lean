import Gatehouse.Number.Nearest
import Gatehouse.Number.Reading

/-!
# Quantities

A quantity is given as an integer or as a floating point number.  An integer is
exact, whatever its size.  It becomes a floating point number only where one is
needed, and has none when it is out of range.

Main results:

- `Quantity.over?`: the quotient of two quantities.
- `Quantity.over?_whole_mul`: of two integers only the ratio counts.
-/

namespace Gatehouse.Number

/-- A number as it is given. -/
inductive Quantity
  | whole (n : Int)
  | real (x : Float)
deriving Repr

namespace Quantity

/-- The floating point number of a quantity, infinite for an integer out of range. -/
def toFloat : Quantity → Float
  | .whole n => nearestFloat n
  | .real x => x

/-- The floating point number of a quantity, unless it is an integer out of range. -/
def toFloat? : Quantity → Option Float
  | .whole n => floatOfInt? n
  | .real x => some x

/-- The least natural number that is not below a quantity.  A quantity that is infinite or no
number is taken to be above every floating point number. -/
def ceiling : Quantity → Nat
  | .whole n => n.toNat
  | .real x =>
    match toRat? x with
    | some q => q.ceil.toNat
    | none => Nat.pow 2 1024

/-- A quantity is zero or below. -/
def isAtMostZero : Quantity → Bool
  | .whole n => n ≤ 0
  | .real x => x ≤ 0

/-- The quotient of two quantities, unless a conversion leaves the range.  The quotient of
two integers is exact before it is rounded. -/
def over? : Quantity → Quantity → Option Float
  | .whole a, .whole b =>
    let x := nearest ((a : Rat) / b)
    if x.isInf then none else some x
  | a, b => do
    let x ← a.toFloat?
    let y ← b.toFloat?
    return x / y

/-- The floating point number of a quantity that has one. -/
theorem toFloat_of_toFloat? {q : Quantity} {x : Float} (h : q.toFloat? = some x) :
    q.toFloat = x := by
  cases q with
  | real y => exact Option.some.inj h
  | whole n =>
    simp only [toFloat?, floatOfInt?] at h
    split at h
    · cases h
    · exact Option.some.inj h

/-- A common factor of two integers does not show in their quotient. -/
theorem over?_whole_mul {k : Int} (hk : k ≠ 0) (a b : Int) :
    over? (.whole (k * a)) (.whole (k * b)) = over? (.whole a) (.whole b) := by
  have hk' : (k : Rat) ≠ 0 := by exact_mod_cast hk
  have key : ((k * a : Int) : Rat) / ((k * b : Int) : Rat) = (a : Rat) / b := by
    by_cases hb : (b : Rat) = 0
    · rw [Rat.intCast_mul, Rat.intCast_mul, hb]
      grind
    · rw [Rat.intCast_mul, Rat.intCast_mul]
      grind
  simp only [over?, key]

end Quantity

end Gatehouse.Number
