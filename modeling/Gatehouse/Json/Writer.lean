import Gatehouse.Json.Basic

/-!
# Writing JSON

The compact text of a value: no blanks, names and members in order, and every
character outside printable ASCII escaped, so that the text is ASCII whatever
the value.  A character above U+FFFF becomes a surrogate pair.

Main results:

- `escapeChar_of_plain`: a printable ASCII character other than the quote and the
  backslash is written as itself.
-/

namespace Gatehouse.Json

open Gatehouse.Text

/-! ## Strings -/

/-- The escape of one UTF-16 unit. -/
def unitEscape (unit : Nat) : List Char :=
  '\\' :: 'u' :: hexList 4 unit

/-- One character of a string. -/
def escapeChar (c : Char) : List Char :=
  if c = '"' then ['\\', '"']
  else if c = '\\' then ['\\', '\\']
  else if c = '\n' then ['\\', 'n']
  else if c = '\r' then ['\\', 'r']
  else if c = '\t' then ['\\', 't']
  else if c = '\x08' then ['\\', 'b']
  else if c = '\x0c' then ['\\', 'f']
  else
    let n := c.toNat
    if 0x20 ≤ n ∧ n < 0x7f then [c]
    else if n < 0x10000 then unitEscape n
    else unitEscape (0xd800 + (n - 0x10000) / 0x400) ++ unitEscape (0xdc00 + (n - 0x10000) % 0x400)

/-- A plain ASCII character is written as it is. -/
theorem escapeChar_of_plain {c : Char} (lo : 0x20 ≤ c.toNat) (hi : c.toNat < 0x7f)
    (hq : c ≠ '"') (hb : c ≠ '\\') : escapeChar c = [c] := by
  have h : ∀ d : Char, d.toNat < 0x20 → c ≠ d := by
    rintro d hd rfl
    omega
  simp [escapeChar, hq, hb, h '\n' (by decide), h '\r' (by decide), h '\t' (by decide),
    h '\x08' (by decide), h '\x0c' (by decide), lo, hi]

/-- A string between quotes. -/
def writeString (s : String) : List Char :=
  '"' :: (s.toList.flatMap escapeChar ++ ['"'])

/-! ## Values -/

mutual

/-- The text of a value. -/
def write : Json → List Char
  | .null => "null".toList
  | .bool true => "true".toList
  | .bool false => "false".toList
  | .number n => n.jsonText.toList
  | .string s => writeString s
  | .array items => '[' :: writeItems items
  | .object fields => '{' :: writeFields fields

/-- The items of an array with its closing bracket. -/
def writeItems : List Json → List Char
  | [] => [']']
  | [v] => write v ++ [']']
  | v :: rest => write v ++ ',' :: writeItems rest

/-- The fields of an object with its closing brace. -/
def writeFields : Keyed Json → List Char
  | [] => ['}']
  | [(k, v)] => writeString k ++ ':' :: (write v ++ ['}'])
  | (k, v) :: rest => writeString k ++ ':' :: (write v ++ ',' :: writeFields rest)

end

/-- The compact text of a value. -/
def render (v : Json) : String :=
  String.ofList (write v)

end Gatehouse.Json
