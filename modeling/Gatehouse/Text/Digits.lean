/-!
# Digits

The text of natural numbers in base ten and base sixteen, with a least width,
and the value of a hexadecimal digit.

Main results:

- `hexValue?_hexChar`: reading a written hexadecimal digit gives its value back.
- `hexValue?_lt`: a hexadecimal digit stands for a number below sixteen.
- `length_padLeft`: padding reaches the least width and never shortens.
-/

namespace Gatehouse.Text

/-! ## Hexadecimal digits -/

/-- The lower-case hexadecimal digit of a value below sixteen. -/
def hexChar (n : Nat) : Char :=
  Char.ofNat (if n < 10 then 0x30 + n else 0x57 + n)

/-- The value of a hexadecimal digit in either case. -/
def hexValue? (c : Char) : Option Nat :=
  if '0' ≤ c ∧ c ≤ '9' then some (c.toNat - 0x30)
  else if 'a' ≤ c ∧ c ≤ 'f' then some (c.toNat - 0x57)
  else if 'A' ≤ c ∧ c ≤ 'F' then some (c.toNat - 0x37)
  else none

/-- Every hexadecimal digit is read back from its character. -/
theorem hexValue?_hexChar : ∀ n : Fin 16, hexValue? (hexChar n) = some n.val := by
  decide

/-- The value of a hexadecimal digit is below sixteen. -/
theorem hexValue?_lt {c : Char} {n : Nat} (h : hexValue? c = some n) : n < 16 := by
  unfold hexValue? at h
  split at h
  · next hc =>
    have : c.toNat ≤ 57 := hc.2
    simp only [Option.some.injEq] at h
    omega
  · split at h
    · next hc =>
      have : c.toNat ≤ 102 := hc.2
      simp only [Option.some.injEq] at h
      omega
    · split at h
      · next hc =>
        have : c.toNat ≤ 70 := hc.2
        simp only [Option.some.injEq] at h
        omega
      · simp at h

/-- The last `width` hexadecimal digits of a number, most significant first. -/
def hexList : Nat → Nat → List Char
  | 0, _ => []
  | width + 1, n => hexList width (n / 16) ++ [hexChar (n % 16)]

/-- The value of a list of hexadecimal digits, most significant first. -/
def hexListValue? (cs : List Char) : Option Nat :=
  cs.foldl (fun acc c => acc.bind fun n => (hexValue? c).map (16 * n + ·)) (some 0)

/-! ## Decimal numbers -/

/-- Put a character in front of a list until it has the given length. -/
def padLeft (width : Nat) (fill : Char) (cs : List Char) : List Char :=
  List.replicate (width - cs.length) fill ++ cs

/-- A padded text has the given width unless it was longer. -/
theorem length_padLeft (width : Nat) (fill : Char) (cs : List Char) :
    (padLeft width fill cs).length = max width cs.length := by
  simp only [padLeft, List.length_append, List.length_replicate]
  omega

/-- The decimal digits of a number. -/
def decimalList (n : Nat) : List Char :=
  Nat.toDigits 10 n

/-- The decimal text of a number. -/
def decimal (n : Nat) : String :=
  String.ofList (decimalList n)

/-- The decimal text of an integer, with a minus sign when it is negative. -/
def signedDecimal (n : Int) : String :=
  if n < 0 then String.ofList ('-' :: decimalList n.natAbs) else decimal n.natAbs

/-- The decimal text of a number, filled with zeros up to a least width. -/
def paddedDecimal (width n : Nat) : String :=
  String.ofList (padLeft width '0' (decimalList n))

end Gatehouse.Text
