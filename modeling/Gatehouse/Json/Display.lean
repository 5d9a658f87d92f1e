import Gatehouse.Json.Basic
import Gatehouse.Text.Quoted

/-!
# Values in messages

How a value is shown inside a message: strings quoted, `None`, `True` and
`False` for the constants, integers without superfluous zeros, numbers by their
shortest digits, and blanks after commas and colons.

Main results:

- `display_string`: a string is shown quoted.
-/

namespace Gatehouse.Json

open Gatehouse.Text Gatehouse.Number

/-- A number in a message. -/
def displayNumber : Numeral → String
  | .integer literal => signedDecimal (Numeral.integerValue literal)
  | n => text n.toFloat

mutual

/-- A value in a message. -/
def display : Json → String
  | .null => "None"
  | .bool true => "True"
  | .bool false => "False"
  | .number n => displayNumber n
  | .string s => quoted s
  | .array items => "[" ++ displayItems items ++ "]"
  | .object fields => "\x7b" ++ displayFields fields ++ "\x7d"

/-- The items of an array, with commas between them. -/
def displayItems : List Json → String
  | [] => ""
  | [v] => display v
  | v :: rest => display v ++ ", " ++ displayItems rest

/-- The fields of an object, with commas between them. -/
def displayFields : Keyed Json → String
  | [] => ""
  | [(k, v)] => quoted k ++ ": " ++ display v
  | (k, v) :: rest => quoted k ++ ": " ++ display v ++ ", " ++ displayFields rest

end

/-- A text is displayed in quotes. -/
theorem display_string (s : String) : display (.string s) = quoted s := by
  simp [display]

/-- A value that may be missing, shown as null when it is. -/
def displayOption (v : Option Json) : String :=
  display (v.getD .null)

end Gatehouse.Json
