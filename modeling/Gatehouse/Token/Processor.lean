import Gatehouse.Token.Claims
import Gatehouse.Token.Compact
import Gatehouse.Token.Key

/-!
# The token processor

Tokens come in three types.  An access token carries scopes and the id of a
member, a refresh token neither, and a temporary token allows a first password
to be set.  Expiry is decided against the clock that is passed in.

A text of the wrong structure is a broken token; a well-formed text with a wrong
signature or bad claims is an invalid one.  Validation answers `false` for the
latter, extraction refuses it.

Main results:

- `validate_eq_false_of_unverified`: a token that does not verify is not valid.
- `verified_of_broken`: a broken token is refused as such.
-/

namespace Gatehouse.Token

open Gatehouse.Text Gatehouse.Number

/-! ## Configuration -/

/-- The secret and the lifetimes of tokens, in seconds. -/
structure Processor where
  secret : String
  accessTtl : Int
  refreshTtl : Int
  temporaryTtl : Int
  /-- How many lists and objects are read inside of an outermost one, in the JSON of a token.  This
  is what is left of the stack where tokens are read. -/
  nesting : Nat := Json.usualNesting
deriving DecidableEq, Repr

/-- A processor with a secret that is not empty. -/
def Processor.create (secret : String) (accessTtl refreshTtl temporaryTtl : Int) :
    Except Fault Processor :=
  if secret = "" then .error .emptyKey
  else .ok { secret, accessTtl, refreshTtl, temporaryTtl }

/-! ## Names -/

/-- The type of access tokens. -/
def access : String := "access"

/-- The type of refresh tokens. -/
def refresh : String := "refresh"

/-- The type of temporary tokens. -/
def temporary : String := "temporary"

/-- The purpose of temporary tokens. -/
def passwordSetup : String := "password_setup"

/-- The address and the id that a temporary token is bound to, neither of them blank. -/
structure SetupGrant where
  email : String
  memberId : String
deriving DecidableEq, Repr

/-- A grant, unless a text is missing or blank. -/
def SetupGrant.create (email memberId : Option String) : Except Fault SetupGrant :=
  match email.filter fun s => !allBlank s, memberId.filter fun s => !allBlank s with
  | some e, some i => .ok ⟨e, i⟩
  | none, _ => .error .blankEmail
  | some _, none => .error .blankMemberId

/-! ## Issuing -/

/-- Texts with a blank between them. -/
def joined (xs : List String) : String :=
  " ".intercalate xs

/-- The claims of an access token, apart from its times and its id. -/
def accessClaims (subject : Option String) (scopes : List String) (memberId : Option String) :
    Claims :=
  let scope := joined (scopes.mergeSort fun a b => decide (a ≤ b))
  [("sub", .ofString? subject), ("type", .string access)] ++
    (if scope = "" then [] else [("scope", .string scope)]) ++
    (match memberId with
      | none => []
      | some i => if i = "" then [] else [("cid", .string i)])

/-- The claims of a refresh token, apart from its times and its id. -/
def refreshClaims (subject : Option String) : Claims :=
  [("sub", .ofString? subject), ("type", .string refresh)]

/-- The claims of a temporary token, apart from its times and its id. -/
def temporaryClaims (grant : SetupGrant) : Claims :=
  [("sub", .string grant.email), ("cid", .string grant.memberId), ("type", .string temporary),
    ("purpose", .string passwordSetup)]

/-- The thirty-two hexadecimal digits of the id with a serial number. -/
def tokenId (serial : Nat) : String :=
  "00000000000040008000" ++ String.ofList (hexList 12 serial)

/-- The whole payload of a token issued at a time. -/
def payload (claims : Claims) (issuedAt expiry : Float) (serial : Nat) : Json :=
  .object (claims ++
    [("iat", .ofFloat issuedAt), ("exp", .ofFloat expiry), ("jti", .string (tokenId serial))])

/-- The time at which a token issued now expires, unless the lifetime is out of range. -/
def expiryOf (now : Float) (ttl : Int) : Except Fault Float :=
  match floatOfInt? ttl with
  | some t => .ok (now + t)
  | none => .error .overflow

/-- The text of a signed token. -/
def compose (payload : Json) (signature : Bytes) : String :=
  String.ofList (signingText payload ++ '.' :: Codec.Base64Url.encodeList signature)

/-- Sign claims that expire at a given time. -/
def Processor.seal (p : Processor) (claims : Claims) (now expiry : Float) (serial : Nat) :
    Except Fault String :=
  let v := payload claims now expiry serial
  (sign p.secret (textBytes (signingText v))).map (compose v)

/-! ## Verification -/

/-- The claims of a token after the checks of structure, signature and claims. -/
def Processor.verified (p : Processor) (now : Float) (token : Option String) :
    Except Failure Claims :=
  match Compact.read p.nesting token with
  | .error e => .error e
  | .ok c =>
    match verify p.secret c.signed c.signature with
    | .error f => .error (.fault f)
    | .ok false => .error (.refused (.unverifiedToken .signature))
    | .ok true =>
      match check c.claims now with
      | .ok () => .ok c.claims
      | .error (.unverified u) => .error (.refused (.unverifiedToken u))
      | .error (.fault f) => .error (.fault f)

/-- A broken token is refused before its signature is looked at. -/
theorem verified_of_broken {p : Processor} {now : Float} {token : Option String} {b : BrokenToken}
    (h : Compact.read p.nesting token = .error (.broken b)) :
    p.verified now token = .error (.broken b) := by
  simp [Processor.verified, h]

/-- The outcome of a check in which an invalid token counts as not valid. -/
def softened (outcome : Except Failure Claims) : Except Failure (Option Claims) :=
  match outcome with
  | .ok claims => .ok (some claims)
  | .error (.refused c) => if c.kind = .invalidToken then .ok none else .error (.refused c)
  | .error e => .error e

/-- The outcome of a check in which a broken token counts as an invalid one. -/
def asInvalid {α : Type} (outcome : Except Failure α) : Except Failure α :=
  match outcome with
  | .error (.refused (.brokenToken b)) => .error (.refused (.unreadableToken b))
  | other => other

/-! ## Extraction -/

/-- The subject of a token, expired or not. -/
def Processor.subject (p : Processor) (now : Float) (token : Option String) :
    Except Failure String := do
  let claims ← p.verified now token
  match subject? claims with
  | some s => return s
  | none => throw (.refused .noSubject)

/-- The scopes of a token, expired or not. -/
def Processor.grantedScopes (p : Processor) (now : Float) (token : Option String) :
    Except Failure (List String) := do
  let claims ← p.verified now token
  match scopes claims with
  | .ok xs => return xs
  | .error f => throw (.fault f)

/-- The member id of a token, expired or not. -/
def Processor.memberId (p : Processor) (now : Float) (token : Option String) :
    Except Failure (Option Json) := do
  let claims ← p.verified now token
  return Keyed.lookup claims "cid"

/-- The type of a token, expired or not. -/
def Processor.tokenType (p : Processor) (now : Float) (token : Option String) :
    Except Failure (Option Json) := do
  let claims ← p.verified now token
  return Keyed.lookup claims "type"

/-! ## Validation -/

/-- The token verifies and has not expired. -/
def Processor.validate (p : Processor) (now : Float) (token : Option String) :
    Except Failure Bool := do
  match ← softened (p.verified now token) with
  | none => return false
  | some claims => return isLive claims now

/-- A token that does not verify is not valid, which is no failure. -/
theorem validate_eq_false_of_unverified {p : Processor} {now : Float} {token : Option String}
    {u : Unverified} (h : p.verified now token = .error (.refused (.unverifiedToken u))) :
    p.validate now token = .ok false := by
  cases u <;> simp [Processor.validate, softened, h, Cause.kind, Cause.refusal, pure, Except.pure,
    bind, Except.bind]

/-- The token is live and of the refresh type; another live type is refused. -/
def Processor.validateRefresh (p : Processor) (now : Float) (token : Option String) :
    Except Failure Bool := do
  match ← softened (p.verified now token) with
  | none => return false
  | some claims =>
    if !isLive claims now then return false
    else
      let found := Keyed.lookup claims "type"
      if Json.isString found refresh then return true
      else throw (.refused (.notRefresh found))

/-- The token is a live password-setup token for an address. -/
def Processor.validateTemporary (p : Processor) (now : Float) (token : Option String)
    (email : Option String) : Except Failure Bool := do
  let claims ← asInvalid (p.verified now token)
  if !(Json.isString (Keyed.lookup claims "type") temporary &&
      Json.isString (Keyed.lookup claims "purpose") passwordSetup) then
    throw (.refused .notSetup)
  else if !isLive claims now then return false
  else
    match email with
    | some e => return Json.isString (Keyed.lookup claims "sub") e
    | none => return (Keyed.lookup claims "sub").isNone

end Gatehouse.Token
