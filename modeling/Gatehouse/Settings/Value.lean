import Gatehouse.Form.Violation
import Gatehouse.Json.Basic
import Gatehouse.Number.Integer
import Gatehouse.Number.Reading
import Gatehouse.Text.Blank
import Gatehouse.Text.Case
import Gatehouse.Text.Split

/-!
# Values of settings

How the texts of an environment are read as truth values and numbers.  White
space around a number does not count.  Single underscores may stand between the
digits of a number.

An integer may have leading zeros, with underscores among them, and a fraction of
zeros; without these it must be in plain form.

Main results:

- `truth_ok_iff`: which texts are truth values.
- `positive_ok_iff`, `within_ok_iff`: which numbers pass a check of their range.
-/

namespace Gatehouse.Settings

open Gatehouse.Form Gatehouse.Number Gatehouse.Text

/-! ## Truth values -/

/-- The words that mean yes. -/
def yesWords : List String := ["1", "true", "t", "yes", "y", "on"]

/-- The words that mean no. -/
def noWords : List String := ["0", "false", "f", "no", "n", "off"]

/-- A truth value, in words of any case. -/
def truth (s : String) : Except Violation Bool :=
  if lower s ∈ yesWords then .ok true
  else if lower s ∈ noWords then .ok false
  else .error .notTruth

/-- A text is a truth value exactly when it is one of the words for it in some case. -/
theorem truth_ok_iff {s : String} {b : Bool} :
    truth s = .ok b ↔ lower s ∈ if b then yesWords else noWords := by
  have apart : ∀ w ∈ yesWords, w ∉ noWords := by decide
  unfold truth
  by_cases hy : lower s ∈ yesWords
  · have hn := apart _ hy
    cases b <;> simp [hy, hn]
  · by_cases hn : lower s ∈ noWords
    · cases b <;> simp [hy, hn]
    · cases b <;> simp [hy, hn]

/-! ## Integers -/

/-- A text has underscores only between other characters, and never two in a row. -/
def spaced : List Char → Bool
  | [] => true
  | ['_'] => false
  | '_' :: '_' :: _ => false
  | _ :: cs => spaced cs

/-- A text without its underscores, if none is at an end or next to another. -/
def withoutUnderscores? (cs : List Char) : Option (List Char) :=
  if cs.head? = some '_' || !spaced cs then none else some (cs.filter (· ≠ '_'))

/-- A minus sign in front of a text, and the characters after it. -/
def splitMinus : List Char → Bool × List Char
  | '-' :: cs => (true, cs)
  | cs => (false, cs)

/-- An integer in plain form: perhaps a minus sign, then digits, of which the first is a zero
only when it stands alone. -/
def plainInteger? (cs : List Char) : Option Int :=
  let (negative, ds) := splitMinus cs
  if !ds.isEmpty && ds.all Char.isDigit && (ds.length == 1 || ds.head? != some '0') &&
      ds.length ≤ maxIntegerDigits then
    some (if negative then -(digitsValue ds : Int) else digitsValue ds)
  else none

/-- A text starts with an integer in plain form that is too long to be read. -/
def startsTooLong (cs : List Char) : Bool :=
  let (_, ds) := splitMinus cs
  ds.head? != some '0' && maxIntegerDigits < (ds.takeWhile Char.isDigit).length

/-- An unsigned number without its leading zeros and the underscores among them, which end at
another digit or a minus sign; the last of them stays before a point and at the end. -/
def withoutLeadingZeros? : List Char → Option (List Char)
  | [] => none
  | '0' :: cs => after '0' cs
  | c :: cs => if c.isDigit then some (c :: cs) else none
where
  after (last : Char) : List Char → Option (List Char)
    | [] => some [last]
    | c :: cs =>
      if c = '0' ∨ c = '_' then after c cs
      else if c = '.' then some (last :: c :: cs)
      else if c.isDigit || c = '-' then some (c :: cs)
      else none

/-- A number without a fraction that consists of zeros. -/
def withoutZeroFraction (cs : List Char) : List Char :=
  match cutFirst? '.' cs with
  | some (before, c :: zeros) => if (c :: zeros).all (· = '0') then before else cs
  | _ => cs

/-- The plain form of an integer, whose sign stands in front of its zeros. -/
def plainForm? (cs : List Char) : Option (List Char) := do
  let (negative, unsigned) := splitSign cs
  let short ← withoutLeadingZeros? unsigned
  let digits ← withoutUnderscores? (withoutZeroFraction short)
  return if negative then '-' :: digits else digits

/-- An integer. -/
def whole (s : String) : Except Violation Int :=
  if startsTooLong s.toList then .error .longInteger
  else
    match (plainForm? (trimList isSpace s.toList)).bind plainInteger? with
    | some n => .ok n
    | none => .error .notInteger

/-! ## Numbers -/

/-- The number that a literal or one of the names of infinity and of not-a-number stands
for. -/
def literal? (cs : List Char) : Option Float :=
  let (negative, unsigned) := splitSign cs
  let name := lower (String.ofList unsigned)
  if name = "inf" ∨ name = "infinity" then some (if negative then -(1 / 0) else 1 / 0)
  else if name = "nan" then some (0 / 0)
  else (Decimal.read? cs).map Decimal.toFloat

/-- A number. -/
def number (s : String) : Except Violation Float :=
  let trimmed := literal? (trimList isSpace s.toList)
  match trimmed.or ((withoutUnderscores? s.toList).bind literal?) with
  | some x => .ok x
  | none => .error .notNumber

/-! ## Ranges -/

/-- An integer above zero. -/
def positive (n : Int) : Except Violation Int :=
  if 0 < n then .ok n else .error (.notAbove 0)

/-- An integer that is not below a bound. -/
def atLeast (least n : Int) : Except Violation Int :=
  if n < least then .error (.below least) else .ok n

/-- An integer that is not above a bound. -/
def atMost (most n : Int) : Except Violation Int :=
  if most < n then .error (.above most) else .ok n

/-- An integer between two bounds. -/
def within (least most n : Int) : Except Violation Int :=
  (atMost most n).bind (atLeast least)

/-- A number above zero. -/
def positiveNumber (x : Float) : Except Violation Float :=
  if 0 < x then .ok x else .error (.notAbove 0)

/-- An integer passes as positive exactly when it is above zero, and is not changed. -/
theorem positive_ok_iff {n m : Int} : positive n = .ok m ↔ m = n ∧ 0 < n := by
  unfold positive
  by_cases h : 0 < n
  · simp [h, eq_comm]
  · simp [h]

/-- An integer passes a range exactly when it lies in it, and is not changed. -/
theorem within_ok_iff {least most n m : Int} :
    within least most n = .ok m ↔ m = n ∧ least ≤ n ∧ n ≤ most := by
  unfold within atMost
  split
  · simp only [Except.bind, reduceCtorEq, false_iff]
    omega
  · simp only [Except.bind, atLeast]
    split
    · simp only [reduceCtorEq, false_iff]
      omega
    · simp only [Except.ok.injEq]
      omega

/-! ## Lists -/

/-- A text in a list. -/
def textItem : Json → Except Violation String
  | .string s => .ok s
  | _ => .error .notText

/-- The texts of a list, or what is wrong with each item that is no text. -/
def texts (name : String) : Json → Checked (List String)
  | .array items => gather 0 items
  | v => .error [⟨[.name name], .notList, .value v⟩]
where
  gather (i : Nat) : List Json → Checked (List String)
    | [] => .ok []
    | v :: rest =>
      let item := (textItem v).mapError fun e => [⟨[.name name, .index i], e, .value v⟩]
      (Checked.both item (gather (i + 1) rest)).map fun r => r.1 :: r.2

end Gatehouse.Settings
