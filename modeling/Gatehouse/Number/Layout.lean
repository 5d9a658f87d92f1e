import Gatehouse.Number.Significant
import Gatehouse.Text.Digits

/-!
# Layout of numbers

How a floating point number is written: its shortest digits or a fixed count of
them, positionally when the exponent of the leading digit is moderate and with an
exponent part otherwise.

Main results:

- `Layout.write`: the text of a number in a layout.
- `plain`, `inJson`: the layouts of messages and of JSON, which differ only in
  the names of infinity and of not-a-number.
- `inColumn`: the layout of numbers that are stored as text.
- `wholeText`: a number rounded to an integer, for log lines.
-/

namespace Gatehouse.Number

open Gatehouse.Text

/-! ## Layouts -/

/-- The decisions of a number format. -/
structure Layout where
  /-- The least exponent of the leading digit that is written positionally. -/
  positionalFrom : Int
  /-- The first exponent of the leading digit that is too large for positional writing. -/
  positionalBelow : Int
  /-- The least number of exponent digits. -/
  exponentWidth : Nat
  /-- A mantissa of one digit has a point and a zero behind it. -/
  fullMantissa : Bool
  /-- The count of significant digits; without one the shortest digits are written. -/
  precision : Option Nat
  infinity : String
  nan : String

/-- Numbers in messages and answers. -/
def plain : Layout := ⟨-4, 16, 2, false, none, "inf", "nan"⟩

/-- Numbers in JSON. -/
def inJson : Layout := ⟨-4, 16, 2, false, none, "Infinity", "NaN"⟩

/-- Numbers that are stored in a column of texts. -/
def inColumn : Layout := ⟨-4, 15, 2, true, some 15, "Inf", "NaN"⟩

/-! ## Writing -/

/-- Digits with a point after the first `whole` of them, at least one on either side. -/
def pointed (digits : List Char) (whole : Int) : List Char :=
  if whole ≤ 0 then '0' :: '.' :: (List.replicate (-whole).toNat '0' ++ digits)
  else
    let n := whole.toNat
    let front := digits.take n ++ List.replicate (n - digits.length) '0'
    match digits.drop n with
    | [] => front ++ ['.', '0']
    | rest => front ++ '.' :: rest

/-- Digits with the point after the first and an exponent part. -/
def Layout.exponential (l : Layout) (digits : List Char) (leading : Int) : List Char :=
  let mantissa :=
    match digits with
    | [_] => if l.fullMantissa then digits ++ ['.', '0'] else digits
    | d :: rest => d :: '.' :: rest
    | [] => []
  mantissa ++ 'e' :: (if leading < 0 then '-' else '+') ::
    padLeft l.exponentWidth '0' (decimalList leading.natAbs)

/-- The unsigned text of `coefficient · 10 ^ exponent`. -/
def Layout.writeDecimal (l : Layout) (coefficient : Nat) (exponent : Int) : List Char :=
  if coefficient = 0 then ['0', '.', '0']
  else
    let digits := decimalList coefficient
    let leading := (digits.length : Int) + exponent - 1
    if l.positionalFrom ≤ leading ∧ leading < l.positionalBelow then pointed digits (leading + 1)
    else l.exponential digits leading

/-- The digits of `mantissa · 2 ^ exponent` and the exponent of the last of them. -/
def Layout.digits (l : Layout) (mantissa : Nat) (exponent : Int) : Nat × Int :=
  match l.precision with
  | some count => significant count mantissa exponent
  | none => shortest mantissa exponent

/-- The text of a floating point number. -/
def Layout.write (l : Layout) (x : Float) : String :=
  match binary x with
  | .nan => l.nan
  | .infinite negative => if negative then "-" ++ l.infinity else l.infinity
  | .finite negative m e =>
    let (d, k) := l.digits m e
    let text := l.writeDecimal d k
    String.ofList (if negative then '-' :: text else text)

/-- The text of a number in messages and answers. -/
def text (x : Float) : String :=
  plain.write x

/-- A number without its fraction, rounded to the nearest integer. -/
def wholeText (x : Float) : String :=
  match binary x with
  | .finite negative m e =>
    let n := (roundHalfEven (scaled m e)).natAbs
    if negative then "-" ++ decimal n else decimal n
  | _ => plain.write x

end Gatehouse.Number
