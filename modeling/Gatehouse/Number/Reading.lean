import Gatehouse.Number.Shortest

/-!
# Reading decimals

The binary64 number nearest to a decimal, ties to even.  Decimals far outside
the range are settled by their magnitude, so that no huge power of ten is formed.

Main results:

- `Decimal.read?`: the decimal that a literal stands for.
- `Decimal.toFloat`: the nearest floating point number.
- `floatOfInt?`: an integer as a floating point number, unless it is too large.
-/

namespace Gatehouse.Number

/-! ## Literals -/

/-- The value of a list of ASCII digits. -/
def digitsValue (cs : List Char) : Nat :=
  cs.foldl (fun n c => 10 * n + (c.toNat - 0x30)) 0

/-- An optional sign and the characters after it; `true` stands for minus. -/
def splitSign : List Char → Bool × List Char
  | '-' :: cs => (true, cs)
  | '+' :: cs => (false, cs)
  | cs => (false, cs)

/-- The exponent part of a literal: nothing, or `e` with an optional sign and digits. -/
def readExponent? : List Char → Option Int
  | [] => some 0
  | c :: cs =>
    if c == 'e' || c == 'E' then
      let (negative, ds) := splitSign cs
      if ds.isEmpty || !ds.all Char.isDigit then none
      else some (if negative then -(digitsValue ds : Int) else digitsValue ds)
    else none

/-- The decimal of a literal with optional sign, point and exponent and at least one digit. -/
def Decimal.read? (cs : List Char) : Option Decimal :=
  let (negative, cs) := splitSign cs
  let whole := cs.takeWhile Char.isDigit
  let afterWhole := cs.dropWhile Char.isDigit
  let (fraction, afterFraction) :=
    match afterWhole with
    | '.' :: rest => (rest.takeWhile Char.isDigit, rest.dropWhile Char.isDigit)
    | rest => ([], rest)
  if whole.isEmpty && fraction.isEmpty then none
  else
    (readExponent? afterFraction).map fun e =>
      ⟨negative, digitsValue (whole ++ fraction), e - fraction.length⟩

/-! ## Nearest numbers -/

/-- The number of decimal digits of a positive number. -/
def digitCount (n : Nat) : Nat :=
  (Nat.toDigits 10 n).length

/-- The nearest floating point number of a decimal. -/
def Decimal.toFloat (d : Decimal) : Float :=
  let magnitude :=
    if d.coefficient = 0 then 0
    else
      let top := (digitCount d.coefficient : Int) + d.exponent
      if 310 < top then 1 / 0
      else if top < -330 then 0
      else Float.ofScientific d.coefficient (d.exponent < 0) d.exponent.natAbs
  if d.negative then -magnitude else magnitude

/-- The nearest floating point number of an integer, infinite when out of range. -/
def nearestFloat (n : Int) : Float :=
  Decimal.toFloat ⟨n < 0, n.natAbs, 0⟩

/-- An integer as a floating point number, unless its magnitude is out of range. -/
def floatOfInt? (n : Int) : Option Float :=
  let x := nearestFloat n
  if x.isInf then none else some x

end Gatehouse.Number
