/-!
# Binary digits of pi

The fraction of pi in base two, computed in integers by Machin's formula
`π / 4 = 4 · arctan (1 / 5) - arctan (1 / 239)`.  Ciphers take their constants
from it, because its digits follow no design of anybody's.

Main results:

- `piWords`: the fraction in words of thirty-two bits.
-/

namespace Gatehouse.Cipher

/-- Terms of the series of `scale · arctan (1 / x)`, with alternating signs.

`power` is `scale / x ^ k` for the current odd `k`, and `square` is `x ^ 2`.  The sum ends
when a power vanishes or the fuel is spent. -/
def arctanTerms (square : Nat) : Nat → Nat → Nat → Bool → Int → Int
  | 0, _, _, _, sum => sum
  | fuel + 1, power, k, minus, sum =>
    if power = 0 then sum
    else
      let term : Int := (power / k : Nat)
      arctanTerms square fuel (power / square) (k + 2) (!minus)
        (if minus then sum - term else sum + term)

/-- An integer near `scale · arctan (1 / x)`. -/
def arctanInverse (x scale fuel : Nat) : Int :=
  arctanTerms (x * x) fuel (scale / x) 1 false 0

/-- An integer near `2 ^ bits · π`. -/
def scaledPi (bits : Nat) : Nat :=
  let guard := 64
  let scale := Nat.pow 2 (bits + guard)
  let sum := 4 * (4 * arctanInverse 5 scale bits - arctanInverse 239 scale bits)
  sum.toNat / Nat.pow 2 guard

/-- The first `count` words of the fraction of pi. -/
def piWords (count : Nat) : List UInt32 :=
  let digits := scaledPi (32 * count)
  (List.range count).map fun i =>
    UInt32.ofNat (digits / Nat.pow 2 (32 * (count - 1 - i)) % 0x100000000)

end Gatehouse.Cipher
