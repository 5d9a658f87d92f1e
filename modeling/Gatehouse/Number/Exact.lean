/-!
# Exact values of floating point numbers

A finite binary64 number is an integer times a power of two.  This module reads
that value off the bits, so that comparisons with integers, truncation and
rounding can be stated in exact rational arithmetic.

Main results:

- `toRat?`: the exact value of a finite number.
- `roundHalfEven_mul_den_close`: rounding to an integer moves a value by at most one half.
- `ltInt`, `truncate?`: comparison and rounding by the exact value.
-/

namespace Gatehouse.Number

/-! ## Bits -/

/-- A binary64 number: not a number, an infinity, or `± mantissa · 2 ^ exponent`. -/
inductive Binary
  | nan
  | infinite (negative : Bool)
  | finite (negative : Bool) (mantissa : Nat) (exponent : Int)
deriving DecidableEq, Repr

/-- The mantissa of a power of two with all 53 bits, whose leading bit is not stored. -/
def leadingBit : Nat :=
  0x10000000000000

/-- The parts of a floating point number. -/
def binary (x : Float) : Binary :=
  let bits : Nat := x.toBits.toNat
  let negative := bits / (2048 * leadingBit) == 1
  let biased : Nat := bits / leadingBit % 2048
  let fraction := bits % leadingBit
  if biased = 2047 then
    if fraction = 0 then .infinite negative else .nan
  else if biased = 0 then .finite negative fraction (-1074)
  else .finite negative (leadingBit + fraction) ((biased : Int) - 1075)

/-- The rational number `mantissa · 2 ^ exponent`. -/
def scaled (mantissa : Int) (exponent : Int) : Rat :=
  if 0 ≤ exponent then ((mantissa * (Nat.pow 2 exponent.toNat : Nat) : Int) : Rat)
  else mkRat mantissa (Nat.pow 2 (-exponent).toNat)

/-- The exact value of a finite number. -/
def toRat? (x : Float) : Option Rat :=
  match binary x with
  | .finite negative m e => some (scaled (if negative then -(m : Int) else m) e)
  | _ => none

/-! ## Rounding to integers -/

/-- The integer part of a rational, toward zero. -/
def truncate (q : Rat) : Int :=
  q.num.tdiv q.den

/-- The nearest integer of a rational; a half goes to the even neighbour. -/
def roundHalfEven (q : Rat) : Int :=
  let down := q.num / (q.den : Int)
  let rest := q.num % (q.den : Int)
  if 2 * rest < q.den then down
  else if (q.den : Int) < 2 * rest then down + 1
  else if down % 2 = 0 then down else down + 1

/-- Rounding to an integer moves a value by at most one half. -/
theorem roundHalfEven_mul_den_close (q : Rat) :
    2 * (roundHalfEven q * q.den - q.num) ≤ q.den ∧
      2 * (q.num - roundHalfEven q * q.den) ≤ q.den := by
  have hd : (0 : Int) < q.den := by exact_mod_cast q.den_pos
  have hr := Int.emod_nonneg q.num (Int.ne_of_gt hd)
  have hs := Int.emod_lt_of_pos q.num hd
  have he := Int.mul_ediv_add_emod q.num q.den
  rw [Int.mul_comm] at he
  unfold roundHalfEven
  simp only
  split
  · constructor <;> omega
  · split
    · rw [Int.add_mul]; constructor <;> omega
    · split
      · constructor <;> omega
      · rw [Int.add_mul]; constructor <;> omega

/-- The integer part of a finite number, toward zero. -/
def truncate? (x : Float) : Option Int :=
  (toRat? x).map truncate

/-! ## Comparison with integers -/

/-- A number is below an integer by its exact value; minus infinity is below every integer. -/
def ltInt (x : Float) (n : Int) : Bool :=
  match binary x with
  | .nan => false
  | .infinite negative => negative
  | .finite .. =>
    match toRat? x with
    | some q => q < (n : Rat)
    | none => false

end Gatehouse.Number
