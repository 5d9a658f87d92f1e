import Gatehouse.Failure.Basic
import Gatehouse.Text.Encoding

/-!
# Violations

What can be wrong with a value that is handed in, in a form or as a setting.  A
violation has a code and a message, both of which depend on the rule that was
broken and never on the value that broke it.  A finding says where the
violation was found, and holds what was handed in there.

Main results:

- `Violation.message`: the text of a violation.
- `Checked.both_ok_iff`: two checks succeed together exactly when each succeeds.
- `Checked.both_findings`: what two checks find is found by one or the other, in order.
-/

namespace Gatehouse.Form

open Gatehouse.Text

/-! ## Violations -/

/-- A rule that a value breaks. -/
inductive Violation
  | missing
  | notText
  | tooShort (least : Nat)
  | tooLong (most : Nat)
  | notAddress
  /-- A password that no digest is made of. -/
  | tooManyBytes
  | notObject (form : String)
  /-- The body of a request holds no fields at all. -/
  | noFields
  /-- The body of a request is no JSON text. -/
  | brokenJson
  | notTruth
  | notInteger
  | longInteger
  | notNumber
  | notAbove (bound : Int)
  | below (least : Int)
  | above (most : Int)
  | notList
  /-- No signing key where one is required. -/
  | keyMissing
  | keyTooShort (least : Nat)
deriving DecidableEq, Repr

namespace Violation

/-- The code of a violation. -/
def code : Violation → String
  | .missing => "missing"
  | .notText => "string_type"
  | .tooShort _ => "string_too_short"
  | .tooLong _ => "string_too_long"
  | .notAddress => "string_pattern_mismatch"
  | .tooManyBytes => "value_error"
  | .notObject _ => "model_type"
  | .noFields => "model_attributes_type"
  | .brokenJson => "json_invalid"
  | .notTruth => "bool_parsing"
  | .notInteger => "int_parsing"
  | .longInteger => "int_parsing_size"
  | .notNumber => "float_parsing"
  | .notAbove _ => "greater_than"
  | .below _ => "greater_than_equal"
  | .above _ => "less_than_equal"
  | .notList => "list_type"
  | .keyMissing => "value_error"
  | .keyTooShort _ => "value_error"

/-- A count of characters. -/
def characters (n : Nat) : String :=
  decimal n ++ (if n = 1 then " character" else " characters")

/-- The text of a violation. -/
def message : Violation → String
  | .missing => "Field required"
  | .notText => "Input should be a valid string"
  | .tooShort least => "String should have at least " ++ characters least
  | .tooLong most => "String should have at most " ++ characters most
  | .notAddress => "String should match pattern '^[^@\\s]+@[^@\\s]+$'"
  | .tooManyBytes =>
    "Value error, password must not exceed " ++ decimal maxSecretBytes ++ " bytes"
  | .notObject form => "Input should be a valid dictionary or instance of " ++ form
  | .noFields => "Input should be a valid dictionary or object to extract fields from"
  | .brokenJson => "JSON decode error"
  | .notTruth => "Input should be a valid boolean, unable to interpret input"
  | .notInteger => "Input should be a valid integer, unable to parse string as an integer"
  | .longInteger => "Unable to parse input string as an integer, exceeded maximum size"
  | .notNumber => "Input should be a valid number, unable to parse string as a number"
  | .notAbove bound => "Input should be greater than " ++ signedDecimal bound
  | .below least => "Input should be greater than or equal to " ++ signedDecimal least
  | .above most => "Input should be less than or equal to " ++ signedDecimal most
  | .notList => "Input should be a valid list"
  | .keyMissing =>
    "Value error, SECRET_KEY is required in production mode. " ++
      "Set SECRET_KEY in your environment or .env file. " ++
      "To run in development mode, set DEBUG=true."
  | .keyTooShort least =>
    "Value error, SECRET_KEY must be at least " ++ decimal least ++ " characters."

end Violation

/-! ## Findings -/

/-- A step towards a part of a value. -/
inductive Place
  | name (s : String)
  | index (n : Nat)
deriving DecidableEq, Repr

/-- What was handed in. -/
inductive Input
  | value (v : Json)
  /-- The body of a request that is not of a JSON type. -/
  | raw (bytes : Bytes)
deriving Repr

/-- A violation, the place where it was found, outermost step first, and what was handed in there:
a password, perhaps. -/
structure Finding where
  places : List Place
  violation : Violation
  input : Input
deriving Repr

/-- What may be shown of a finding: its place and the message of its violation. -/
def Finding.shown (f : Finding) : List Place × String :=
  (f.places, f.violation.message)

/-- A finding inside a part of a larger value. -/
def Finding.under (outer : String) (f : Finding) : Finding :=
  { f with places := .name outer :: f.places }

/-! ## Checks -/

/-- The outcome of a check: a value, or everything that is wrong with it. -/
abbrev Checked (α : Type) := Except (List Finding) α

namespace Checked

variable {α β : Type}

/-- The outcome of checking what was handed in under a name. -/
def named (name : String) (input : Json) (outcome : Except Violation α) : Checked α :=
  outcome.mapError fun v => [⟨[.name name], v, .value input⟩]

/-- What a check finds. -/
def findings : Checked α → List Finding
  | .ok _ => []
  | .error fs => fs

/-- Two checks, the second of which runs whatever the first finds. -/
def both (a : Checked α) (b : Checked β) : Checked (α × β) :=
  match a, b with
  | .ok x, .ok y => .ok (x, y)
  | _, _ => .error (a.findings ++ b.findings)

/-- Two results pass together exactly when each passes. -/
theorem both_ok_iff {a : Checked α} {b : Checked β} {x : α} {y : β} :
    both a b = .ok (x, y) ↔ a = .ok x ∧ b = .ok y := by
  cases a <;> cases b <;> simp [both]

/-- The findings of the first result come before those of the second. -/
theorem both_findings (a : Checked α) (b : Checked β) :
    (both a b).findings = a.findings ++ b.findings := by
  cases a <;> cases b <;> simp [both, findings]

/-- A check of a part of a larger value. -/
def under (outer : String) (a : Checked α) : Checked α :=
  a.mapError (List.map (Finding.under outer))

end Checked

end Gatehouse.Form
