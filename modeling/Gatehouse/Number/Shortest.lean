import Gatehouse.Number.Exact

/-!
# Shortest decimals

Among the decimals that read back as a given binary number, the ones with the
fewest digits are its shortest decimals.  The search goes through the decimal
grids with one, two, up to seventeen digits; on each grid only the two
neighbours of the number can lie in the interval of reals that round to it.

Main results:

- `Decimal`: a coefficient and a power of ten.
- `shortest`: the nearest of the shortest decimals of a finite number.
- `mem_of_onGrid`: a decimal that a grid yields lies in the interval.
-/

namespace Gatehouse.Number

/-! ## Decimals -/

/-- The number `± coefficient · 10 ^ exponent`. -/
structure Decimal where
  negative : Bool
  coefficient : Nat
  exponent : Int
deriving DecidableEq, Repr

/-! ## The interval of reals that round to a number -/

/-- An interval in quarters of a unit in the last place around `4 · mantissa`. -/
structure Interval where
  low : Nat
  middle : Nat
  high : Nat
  /-- Both ends belong to the interval. -/
  closed : Bool
deriving DecidableEq, Repr

/-- The reals that round to `mantissa · 2 ^ exponent`.

The gap below a power of two is half as wide as the gap above it, except at the
bottom of the range.  The ends round to the even mantissa. -/
def roundingInterval (mantissa : Nat) (exponent : Int) : Interval where
  low := 4 * mantissa - (if mantissa = leadingBit ∧ exponent ≠ -1074 then 1 else 2)
  middle := 4 * mantissa
  high := 4 * mantissa + 2
  closed := mantissa % 2 == 0

/-! ## Grids -/

/-- The numerator and denominator of `2 ^ (exponent - 2) / 10 ^ grid`. -/
def gridRatio (exponent grid : Int) : Nat × Nat :=
  (Nat.pow 2 (exponent - 2).toNat * Nat.pow 10 (-grid).toNat,
    Nat.pow 2 (2 - exponent).toNat * Nat.pow 10 grid.toNat)

/-- A multiple of the grid lies in the interval. -/
def onInterval (i : Interval) (ratio : Nat × Nat) (d : Nat) : Bool :=
  if i.closed then i.low * ratio.1 ≤ d * ratio.2 && d * ratio.2 ≤ i.high * ratio.1
  else i.low * ratio.1 < d * ratio.2 && d * ratio.2 < i.high * ratio.1

/-- The multiple of the grid nearest to the number among its two neighbours that
lie in the interval; of two equally near ones the even one. -/
def onGrid (i : Interval) (ratio : Nat × Nat) : Option Nat :=
  let down := i.middle * ratio.1 / ratio.2
  let rest := i.middle * ratio.1 % ratio.2
  let up := down + 1
  match onInterval i ratio down, onInterval i ratio up with
  | true, true =>
    some <| if 2 * rest < ratio.2 then down
      else if ratio.2 < 2 * rest then up
      else if down % 2 = 0 then down else up
  | true, false => some down
  | false, true => some up
  | false, false => none

/-- A multiple that is found on a grid lies in the interval. -/
theorem mem_of_onGrid {i : Interval} {ratio : Nat × Nat} {d : Nat}
    (h : onGrid i ratio = some d) : onInterval i ratio d = true := by
  unfold onGrid at h
  simp only at h
  split at h
  · next h₁ h₂ =>
    simp only [Option.some.injEq] at h
    subst h
    split
    · exact h₁
    · split
      · exact h₂
      · split
        · exact h₁
        · exact h₂
  · next h₁ _ => simp only [Option.some.injEq] at h; exact h ▸ h₁
  · next _ h₂ => simp only [Option.some.injEq] at h; exact h ▸ h₂
  · simp at h

/-! ## The search -/

/-- The exponent of the leading decimal digit of `mantissa · 2 ^ exponent`. -/
def leadingExponent (mantissa : Nat) (exponent : Int) : Int :=
  let above (k : Int) : Bool :=
    Nat.pow 10 k.toNat * Nat.pow 2 (-exponent).toNat ≤
      mantissa * Nat.pow 2 exponent.toNat * Nat.pow 10 (-k).toNat
  let guess := ((mantissa.log2 : Int) + exponent) * 30103 / 100000
  if above (guess + 1) then guess + 1
  else if above guess then guess
  else guess - 1

/-- Try grids of growing fineness, `fuel` of them. -/
def searchGrids (i : Interval) (exponent : Int) : Nat → Int → Nat × Int
  | 0, grid => (i.middle * (gridRatio exponent grid).1 / (gridRatio exponent grid).2, grid)
  | fuel + 1, grid =>
    match onGrid i (gridRatio exponent grid) with
    | some d => (d, grid)
    | none => searchGrids i exponent fuel (grid - 1)

/-- Move trailing zeros of a positive coefficient into the exponent. -/
def stripZeros : Nat → Nat → Int → Nat × Int
  | 0, d, k => (d, k)
  | fuel + 1, d, k => if d % 10 = 0 then stripZeros fuel (d / 10) (k + 1) else (d, k)

/-- The shortest decimal of `mantissa · 2 ^ exponent`. -/
def shortest (mantissa : Nat) (exponent : Int) : Nat × Int :=
  if mantissa = 0 then (0, 0)
  else
    let i := roundingInterval mantissa exponent
    let (d, k) := searchGrids i exponent 17 (leadingExponent mantissa exponent)
    stripZeros 17 d k

end Gatehouse.Number
