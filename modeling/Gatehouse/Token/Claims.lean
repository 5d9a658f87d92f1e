import Gatehouse.Failure.Basic
import Gatehouse.Number.Integer
import Gatehouse.Text.Blank
import Gatehouse.Time.Timestamp

/-!
# Claims

What the claims of a token say, and the checks that every accepted token passes.
The claims are examined in the order `iat`, `nbf`, `sub`, `jti`, `at_hash`; a
claim that is absent passes.

Main results:

- `check_nil`: a token without claims passes.
- `isLive_of_missing`: a token without an expiry is not live.
-/

namespace Gatehouse.Token

open Gatehouse.Number Gatehouse.Text

/-- The claims of a token. -/
abbrev Claims := Keyed Json

/-! ## Whole numbers -/

/-- What a claim is as an integer: fractions are cut off, constants count as 0 and 1, and
texts are read. -/
inductive Whole
  | value (n : Int)
  /-- A value of a numeric kind that is no integer. -/
  | notANumber
  | fault (f : Fault)
deriving Repr

/-- A claim as an integer. -/
def Whole.of : Json → Whole
  | .bool b => .value (if b then 1 else 0)
  | .number (.integer literal) => .value (Numeral.integerValue literal)
  | .number n =>
    let x := n.toFloat
    match truncate? x with
    | some i => .value i
    | none => if x.isNaN then .notANumber else .fault .overflow
  | .string s =>
    match readInteger? s with
    | some i => .value i
    | none => .notANumber
  | _ => .fault .typeMismatch

/-! ## Checks -/

/-- Why claims are not accepted. -/
inductive ClaimFault
  | unverified (u : Unverified)
  | fault (f : Fault)
deriving Repr

/-- The time of issue is an integer. -/
def checkIssuedAt (claims : Claims) : Except ClaimFault Unit :=
  match (Keyed.lookup claims "iat").map Whole.of with
  | some .notANumber => .error (.unverified .issuedAt)
  | some (.fault f) => .error (.fault f)
  | _ => .ok ()

/-- The start of validity is an integer that the seconds of the clock have reached. -/
def checkNotBefore (claims : Claims) (now : Float) : Except ClaimFault Unit :=
  match (Keyed.lookup claims "nbf").map Whole.of with
  | some .notANumber => .error (.unverified .notBefore)
  | some (.fault f) => .error (.fault f)
  | some (.value n) =>
    match Time.instantOf now with
    | .error f => .error (.fault f)
    | .ok us => if Time.secondsOf us < n then .error (.unverified .notYetValid) else .ok ()
  | none => .ok ()

/-- A claim, if present, is a string. -/
def checkString (claims : Claims) (name : String) (u : Unverified) : Except ClaimFault Unit :=
  match Keyed.lookup claims name with
  | some (.string _) => .ok ()
  | some _ => .error (.unverified u)
  | none => .ok ()

/-- No hash of another token is claimed. -/
def checkAccessHash (claims : Claims) : Except ClaimFault Unit :=
  if (Keyed.lookup claims "at_hash").isSome then .error (.unverified .accessHash) else .ok ()

/-- The checks that every accepted token passes. -/
def check (claims : Claims) (now : Float) : Except ClaimFault Unit := do
  checkIssuedAt claims
  checkNotBefore claims now
  checkString claims "sub" .subject
  checkString claims "jti" .tokenId
  checkAccessHash claims

/-- A token without claims passes every check. -/
theorem check_nil (now : Float) : check [] now = .ok () := rfl

/-! ## Readings -/

/-- The clock has not reached the expiry; without a number for an expiry nothing is live. -/
def isLive (claims : Claims) (now : Float) : Bool :=
  match Keyed.lookup claims "exp" with
  | some (.number (.integer literal)) => ltInt now (Numeral.integerValue literal)
  | some (.number n) => now < n.toFloat
  | _ => false

/-- A token without an expiry is not live. -/
theorem isLive_of_missing {claims : Claims} (h : Keyed.lookup claims "exp" = none) (now : Float) :
    isLive claims now = false := by
  simp [isLive, h]

/-- The subject, a non-empty string. -/
def subject? (claims : Claims) : Option String :=
  match Keyed.lookup claims "sub" with
  | some (.string s) => if s = "" then none else some s
  | _ => none

/-- A value that counts as false. -/
def isVoid : Json → Bool
  | .null => true
  | .bool b => !b
  | .number n => n.isZero
  | .string s => s = ""
  | .array items => items.isEmpty
  | .object fields => fields.isEmpty

/-- The scopes: the words of the scope claim. -/
def scopes (claims : Claims) : Except Fault (List String) :=
  match Keyed.lookup claims "scope" with
  | none => .ok []
  | some (.string s) => .ok (words s)
  | some v => if isVoid v then .ok [] else .error .missingMethod

end Gatehouse.Token
