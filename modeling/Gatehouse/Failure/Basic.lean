import Gatehouse.Failure.Refusal
import Gatehouse.Json.Display

/-!
# Failures

Why an operation of the service fails.  A failure is a refusal with its cause, a
fault that no caller is expected to bring about, or a cancellation.  Causes carry
the values that their notes mention; the wording is in `Cause.refusal` and
`Fault.message?`.

Main results:

- `Cause.shown_of_kind_ne`: whatever the cause, a refusal that is not about a rule
  shows the text of its kind.
-/

namespace Gatehouse

open Gatehouse.Text

/-! ## Tokens -/

/-- Why a text is no token of this service, whatever its signature. -/
inductive BrokenToken
  /-- It does not have three segments. -/
  | segments
  /-- A segment or the header cannot be decoded. -/
  | header
  /-- The payload is no JSON text. -/
  | payloadText
  /-- The payload is no JSON object. -/
  | payloadShape
  /-- The header names another algorithm. -/
  | algorithm (found : Option Json)
deriving Repr

/-- The note of a broken token. -/
def BrokenToken.note : BrokenToken → String
  | .segments => "Token is not a three-segment compact JWS"
  | .header => "Token could not be decoded: Error decoding token headers."
  | .payloadText => "Token could not be decoded: Invalid claims string: <detail>"
  | .payloadShape => "Token could not be decoded: Invalid claims string: must be a json object"
  | .algorithm found => "Unsupported token algorithm: " ++ Json.displayOption found

/-- Why a token of the right structure is not accepted as signed by this service. -/
inductive Unverified
  | signature
  | issuedAt
  | notBefore
  | notYetValid
  | subject
  | tokenId
  | accessHash
deriving DecidableEq, Repr

/-- The reason given for a token that is not accepted. -/
def Unverified.reason : Unverified → String
  | .signature => "Signature verification failed."
  | .issuedAt => "Issued At claim (iat) must be an integer."
  | .notBefore => "Not Before claim (nbf) must be an integer."
  | .notYetValid => "The token is not yet valid (nbf)"
  | .subject => "Subject must be a string."
  | .tokenId => "JWT ID must be a string."
  | .accessHash => "No access_token provided to compare against at_hash claim."

/-! ## Causes of refusals -/

/-- Why a request is refused. -/
inductive Cause
  | noUsableAccount
  | passwordMismatch
  | noAccountToChange
  | currentPasswordMismatch
  | brokenToken (b : BrokenToken)
  /-- A broken token where an invalid one is reported. -/
  | unreadableToken (b : BrokenToken)
  | unverifiedToken (u : Unverified)
  | noSubject
  | notRefresh (found : Option Json)
  | notSetup
  | refreshExpired
  | refreshOrphaned
  | setupExpired
  | clientThrottled (client : String)
  | emailTaken (email : String)
  | emailRegistered (email : Option String)
  | noSuchMember (email : Option String)
  | secretMissing
  | secretTooLong
  | passwordAlreadySet
deriving Repr

/-- The longest secret that is hashed, in bytes. -/
def maxSecretBytes : Nat := 72

/-- A text that may be missing, as it appears in notes. -/
def quotedOption : Option String → String
  | some s => quoted s
  | none => Json.display .null

namespace Cause

/-- The refusal of a cause: its kind, its note and what the client sees. -/
def refusal : Cause → Refusal
  | .noUsableAccount => .ofKind .invalidCredentials "No usable account for signin"
  | .passwordMismatch => .ofKind .invalidCredentials "Password mismatch"
  | .noAccountToChange => .ofKind .invalidCredentials "No usable account for password change"
  | .currentPasswordMismatch => .ofKind .invalidCredentials "Current password mismatch"
  | .brokenToken b => .ofKind .brokenToken b.note
  | .unreadableToken b => .ofKind .invalidToken b.note
  | .unverifiedToken u =>
    .ofKind .invalidToken ("Token signature verification failed: " ++ u.reason)
  | .noSubject => .ofKind .invalidToken "Token has no subject"
  | .notRefresh found =>
    .ofKind .invalidToken ("Expected a refresh token, got " ++ Json.displayOption found)
  | .notSetup => .ofKind .invalidToken "Token is not a password-setup token"
  | .refreshExpired => .ofKind .invalidToken "Refresh token expired or wrongly signed"
  | .refreshOrphaned =>
    .ofKind .invalidToken "Refresh token subject is no longer an active member"
  | .setupExpired => .ofKind .invalidToken "Password-setup token expired"
  | .clientThrottled client => .ofKind .throttled ("Bucket empty for client " ++ client)
  | .emailTaken email => .ofKind .duplicateMember ("Signup for existing email " ++ quoted email)
  | .emailRegistered email =>
    .ofKind .duplicateMember ("Email " ++ quotedOption email ++ " is already registered")
  | .noSuchMember email => .ofKind .memberNotFound ("No member with email " ++ quotedOption email)
  | .secretMissing => .ofRule "Secret must not be None."
  | .secretTooLong => .ofRule ("Secret must not exceed " ++ decimal maxSecretBytes ++ " bytes.")
  | .passwordAlreadySet => .ofRule "Password has already been set."

/-- The kind of a cause. -/
def kind (c : Cause) : Kind :=
  c.refusal.kind

/-- Every refusal but that of an invalid request shows the fixed text of its kind. -/
theorem shown_of_kind_ne {c : Cause} (h : c.kind ≠ .invalidRequest) :
    c.refusal.shown = some c.kind.publicText := by
  cases c <;> first | rfl | exact absurd rfl h

end Cause

/-! ## Faults -/

/-- What goes wrong without being a refusal. -/
inductive Fault
  | emptyKey
  | blankEmail
  | blankMemberId
  | unknownRole (found : Json)
  | invalidRole (found : Json)
  | invalidScope (found : String)
  | invalidCost
  | limiterParameters
  /-- The clock shows a year that no timestamp can carry. -/
  | yearOutOfRange (year : Int)
  /-- The clock shows no time at all. -/
  | notATime
  /-- The service was told of hosts by an improper pattern. -/
  | improperPattern
  /-- A secret was refused where the cause is not part of a request. -/
  | secretMissing
  | secretTooLong
  | typeMismatch
  | missingMethod
  | overflow
  | platformTime
  | signingKey
  | verificationKey
  | keyEncoding
  | unboundValue
  /-- A JSON text has more lists and objects inside of each other than are read. -/
  | nestedTooDeep
deriving Repr

namespace Fault

/-- The class of a fault, as written to the log. -/
def label : Fault → String
  | .typeMismatch => "TypeError"
  | .missingMethod => "AttributeError"
  | .overflow => "OverflowError"
  | .platformTime => "OSError"
  | .signingKey => "JWSError"
  | .verificationKey => "JWKError"
  | .keyEncoding => "Error"
  | .unboundValue => "InterfaceError"
  | .improperPattern => "AssertionError"
  | .nestedTooDeep => "RecursionError"
  | _ => "ValueError"

/-- The text of a fault about a value; other faults have no text of their own. -/
def message? : Fault → Option String
  | .emptyKey => some "secret_key must not be empty"
  | .blankEmail => some "email must not be null or blank"
  | .blankMemberId => some "member_id must not be null"
  | .unknownRole found => some ("Unknown role: " ++ found.display)
  | .invalidRole found => some (found.display ++ " is not a valid Role")
  | .invalidScope found => some (quoted found ++ " is not a valid Scope")
  | .invalidCost => some "Invalid rounds"
  | .limiterParameters =>
    some "capacity, refill_tokens, refill_seconds and max_buckets must be positive"
  | .yearOutOfRange year => some ("year " ++ signedDecimal year ++ " is out of range")
  | .notATime => some "Invalid value NaN (not a number)"
  | .secretMissing => some "Secret must not be None."
  | .secretTooLong => some ("Secret must not exceed " ++ decimal maxSecretBytes ++ " bytes.")
  | _ => none

end Fault

/-! ## Failures -/

/-- Why an operation fails. -/
inductive Failure
  | refused (c : Cause)
  | fault (f : Fault)
  | cancelled
deriving Repr

/-- The failure of an operation on a broken token. -/
def Failure.broken (b : BrokenToken) : Failure :=
  .refused (.brokenToken b)

end Gatehouse
