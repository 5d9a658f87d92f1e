import Gatehouse.Number.Nearest
import Gatehouse.Number.Shortest

/-!
# Decimals of a fixed precision

A binary number written with a fixed count of significant decimal digits.  The
number is scaled by powers of ten until one digit stands in front of the point,
half a unit of the last digit is added, and the digits are taken off one after
another.

All of this is done with 64 significant bits.  A number that lies away from the
middle of two decimals goes to the nearer one; in the middle the error of the
scaling decides.

Main results:

- `grow_of_lt`, `lift_of_le`: scaling stops as soon as the number is in reach.
- `le_takeDigits`: taking digits off appends them to those that are there.
- `significant`: the decimal of a finite number with a count of digits.
-/

namespace Gatehouse.Number

/-! ## Working precision -/

/-- A rational with the 64 significant bits that are worked with. -/
def kept (q : Rat) : Rat :=
  roundSignificant 64 q

/-- The exact value of a finite floating point number. -/
def exactly (x : Float) : Rat :=
  (toRat? x).getD 0

/-! ## Scaling -/

/-- A rational that is to be multiplied by a power of ten. -/
structure Scaled where
  value : Rat
  power : Int
deriving DecidableEq, Repr

/-- Multiply a divisor of a number by `factor`, which is ten to the `gain`, for as long as it
does not exceed the number. -/
def grow (q factor : Rat) (gain : Int) : Nat → Scaled → Scaled
  | 0, d => d
  | steps + 1, d =>
    if kept (factor * d.value) ≤ q then
      grow q factor gain steps ⟨kept (d.value * factor), d.power + gain⟩
    else d

/-- Multiply a number by `factor`, which is ten to the `gain`, for as long as it is below a
limit. -/
def lift (limit factor : Rat) (gain : Int) : Nat → Scaled → Scaled
  | 0, s => s
  | steps + 1, s =>
    if s.value < limit then
      lift limit factor gain steps ⟨kept (s.value * factor), s.power - gain⟩
    else s

/-- A divisor whose next multiple exceeds the number stays as it is. -/
theorem grow_of_lt {q factor : Rat} {d : Scaled} (h : q < kept (factor * d.value)) (gain : Int)
    (steps : Nat) : grow q factor gain steps d = d := by
  cases steps with
  | zero => rfl
  | succ steps => simp [grow, Rat.not_le.2 h]

/-- A number that has reached the limit stays as it is. -/
theorem lift_of_le {limit : Rat} {s : Scaled} (h : limit ≤ s.value) (factor : Rat) (gain : Int)
    (steps : Nat) : lift limit factor gain steps s = s := by
  cases steps with
  | zero => rfl
  | succ steps => simp [lift, Rat.not_lt.2 h]

/-- A positive number with one digit in front of the point. -/
def normalized (q : Rat) : Scaled :=
  let hundreds := grow q (exactly 1e100) 100 10 ⟨1, 0⟩
  let tens := grow q (exactly 1e10) 10 10 hundreds
  let divisor := grow q 10 1 10 tens
  let small := lift (exactly 1e-8) (exactly 1e8) 8 50 ⟨kept (q / divisor.value), divisor.power⟩
  lift 1 10 1 10 small

/-! ## Digits -/

/-- Half a unit of the last of `count` digits, the first of which is in front of the point. -/
def halfUnit (count : Nat) : Rat :=
  let near := Float.ofScientific 5 true ((count - 1) % 10 + 1)
  exactly (Nat.repeat (· * 1e-10) ((count - 1) / 10) near)

/-- A number with one digit in front of the point, raised by half a unit of the last digit. -/
def raised (count : Nat) (s : Scaled) : Scaled :=
  let more := kept (s.value + halfUnit count)
  if 10 ≤ more then ⟨kept (more * exactly 0.1), s.power + 1⟩ else ⟨more, s.power⟩

/-- The digits in front of a number with `count` digits of a rational behind them. -/
def takeDigits : Nat → Rat → Nat → Nat
  | 0, _, taken => taken
  | count + 1, q, taken =>
    let digit := (truncate q).toNat
    takeDigits count (kept ((q - (digit : Rat)) * 10)) (10 * taken + digit)

/-- Taking digits off keeps those that were taken before. -/
theorem le_takeDigits (count : Nat) (q : Rat) (taken : Nat) :
    taken ≤ takeDigits count q taken := by
  induction count generalizing q taken with
  | zero => exact Nat.le_refl taken
  | succ count ih =>
    have := ih (kept ((q - ((truncate q).toNat : Rat)) * 10)) (10 * taken + (truncate q).toNat)
    exact Nat.le_trans (by omega) this

/-- The decimal of `mantissa · 2 ^ exponent` with at most `count` digits. -/
def significant (count mantissa : Nat) (exponent : Int) : Nat × Int :=
  if mantissa = 0 then (0, 0)
  else
    let s := raised count (normalized (scaled mantissa exponent))
    stripZeros count (takeDigits count s.value 0) (s.power - ((count : Int) - 1))

end Gatehouse.Number
