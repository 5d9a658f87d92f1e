import Gatehouse.Keyed
import Gatehouse.Number.Layout
import Gatehouse.Number.Reading

/-!
# JSON values

Numbers keep the literal they were written with: a key may be a number literal
whose digits matter, and integers are exact whatever their length.  The value of
a number is computed from its literal on demand.  Objects keep the order in
which names first appeared; a repeated name replaces the earlier value.

Main results:

- `Json.get?_object`: a field of an object is the value stored under its name.
- `Json.isString_eq_true_iff`: which values are a given string.
-/

namespace Gatehouse

open Gatehouse.Text Gatehouse.Number

/-! ## Values -/

/-- A number by its literal, or one of the three names that stand for no decimal. -/
inductive Numeral
  | integer (literal : String)
  | decimal (literal : String)
  | infinity (negative : Bool)
  | nan
deriving DecidableEq, Repr, Inhabited

/-- A JSON value. -/
inductive Json
  | null
  | bool (b : Bool)
  | number (n : Numeral)
  | string (s : String)
  | array (items : List Json)
  | object (fields : List (String × Json))
deriving Repr, Inhabited

/-! ## Numbers -/

namespace Numeral

/-- An integer by its decimal digits. -/
def ofInt (n : Int) : Numeral :=
  .integer (signedDecimal n)

/-- A floating point number by its shortest digits. -/
def ofFloat (x : Float) : Numeral :=
  match binary x with
  | .nan => .nan
  | .infinite negative => .infinity negative
  | .finite .. => .decimal (inJson.write x)

/-- The integer of an integer literal. -/
def integerValue (literal : String) : Int :=
  let (negative, cs) := splitSign literal.toList
  if negative then -(digitsValue cs : Int) else digitsValue cs

/-- The number nearest to a literal, infinite when an integer is out of range. -/
def toFloat : Numeral → Float
  | .integer literal => nearestFloat (integerValue literal)
  | .decimal literal => ((Decimal.read? literal.toList).map Decimal.toFloat).getD 0
  | .infinity negative => if negative then -(1 / 0) else 1 / 0
  | .nan => 0 / 0

/-- The text of a number in JSON. -/
def jsonText : Numeral → String
  | .integer literal => literal
  | .decimal literal => literal
  | .infinity false => inJson.infinity
  | .infinity true => "-" ++ inJson.infinity
  | .nan => inJson.nan

/-- A number that counts as false in a condition. -/
def isZero : Numeral → Bool
  | .integer literal => integerValue literal == 0
  | .decimal literal => (Numeral.decimal literal).toFloat == 0
  | _ => false

end Numeral

/-! ## Objects -/

namespace Json

/-- The value stored under a name of an object. -/
def get? : Json → String → Option Json
  | .object fields, name => Keyed.lookup fields name
  | _, _ => none

/-- The member of an object is looked up by its name. -/
theorem get?_object (fields : Keyed Json) (name : String) :
    get? (.object fields) name = Keyed.lookup fields name := rfl

/-! ## Views -/

/-- The string that a value is. -/
def string? : Json → Option String
  | .string s => some s
  | _ => none

/-- A value is the given string. -/
def isString (v : Option Json) (s : String) : Bool :=
  match v with
  | some (.string t) => t == s
  | _ => false

/-- A value is a given text exactly when it is present and that text. -/
theorem isString_eq_true_iff {v : Option Json} {s : String} :
    isString v s = true ↔ v = some (.string s) := by
  unfold isString
  split
  · simp
  · next h => simpa using fun e => h s e

/-- An integer value. -/
def ofInt (n : Int) : Json :=
  .number (.ofInt n)

/-- A floating point value. -/
def ofFloat (x : Float) : Json :=
  .number (.ofFloat x)

/-- A string, or null when there is none. -/
def ofString? : Option String → Json
  | some s => .string s
  | none => .null

/-- A list of strings. -/
def ofStrings (xs : List String) : Json :=
  .array (xs.map .string)

end Json

end Gatehouse
