import Gatehouse.Account.Saving
import Gatehouse.Audit
import Gatehouse.Member.Scope
import Gatehouse.Number.Word
import Gatehouse.Password.Verifier
import Gatehouse.Token.Processor

/-!
# Account flows

Signing up and in, renewing tokens, and setting and changing passwords.  Every
flow is audited.  Unknown addresses, disabled members, members without a password
and wrong passwords all end in the same refusal.

The scopes of a token are those of the member's role when it is issued; a token
carries the id and the address of the member it is issued to.

Main results:

- `audited_outcome`: auditing a flow does not change its outcome.
- `Service.issue`: the tokens for a member and what they carry.
-/

namespace Gatehouse.Account

open Gatehouse.Text

/-! ## Auditing -/

/-- Run a flow between the lines of its audit. -/
def audited {α : Type} (name : String) (body : Flow α) : Flow α :=
  Flow.of fun w =>
    let (outcome, w') := body.runIn (w.logged (Audit.attempt name))
    (outcome, w'.logged ((Audit.Ending.of outcome).line name))

/-- Auditing an operation leaves its outcome as it is. -/
theorem audited_outcome {α : Type} (name : String) (body : Flow α) (w : World) :
    ((audited name body).runIn w).1 = (body.runIn (w.logged (Audit.attempt name))).1 := rfl

/-- A flow whose directory never answers and that is cancelled. -/
def abandoned {α : Type} (name : String) : Flow α :=
  audited name (Flow.lift (.error .cancelled))

/-! ## The service -/

/-- The tokens and the verifier that the flows use. -/
structure Service where
  tokens : Token.Processor
  verifier : Password.Verifier
deriving DecidableEq, Repr

/-- What a successful sign-in, refresh or password setup gives. -/
structure Session where
  member : Member
  accessToken : String
  refreshToken : String
  /-- The scopes in the access token. -/
  scopes : List String
deriving DecidableEq, Repr

namespace Service

/-! ### Issuing -/

/-- Sign claims that live for a number of seconds from now. -/
def mint (s : Service) (claims : Token.Claims) (ttl : Int) : Flow String := do
  let now ← Flow.now
  let expiry ← Flow.liftFault (Token.expiryOf now ttl)
  let serial ← Flow.freshId
  let token ← Flow.liftFault (s.tokens.seal claims now expiry serial)
  Flow.note ⟨token, claims⟩
  return token

/-- An access token for a member. -/
def issueAccess (s : Service) (subject : Option String) (scopes : List String)
    (memberId : Option String) : Flow String :=
  s.mint (Token.accessClaims subject scopes memberId) s.tokens.accessTtl

/-- A refresh token for a member. -/
def issueRefresh (s : Service) (subject : Option String) : Flow String :=
  s.mint (Token.refreshClaims subject) s.tokens.refreshTtl

/-- A temporary token for a grant. -/
def issueTemporary (s : Service) (grant : Token.SetupGrant) : Flow String :=
  s.mint (Token.temporaryClaims grant) s.tokens.temporaryTtl

/-- The session of a member, with a new refresh token unless one is given. -/
def issue (s : Service) (m : Member) (refreshToken : Option String) : Flow Session := do
  let scopes := m.role.scopeTexts
  let access ← s.issueAccess m.email scopes m.id
  let refresh ←
    match refreshToken with
    | some t => pure t
    | none => s.issueRefresh m.email
  return ⟨m, access, refresh, scopes⟩

/-! ### Passwords -/

/-- The digest of a new password. -/
def digest (s : Service) (password : Option String) : Flow String := do
  match Password.secretBytes password with
  | .error .missing => Flow.refuse .secretMissing
  | .error .tooLong => Flow.refuse .secretTooLong
  | .ok bytes =>
    let serial ← Flow.freshSalt
    return (Password.Digest.ofSecret 'b' s.verifier.cost (Password.salt serial) bytes).render

/-! ### Flows -/

/-- The member with an address, which may be missing. -/
def memberAt (email : Option String) : Flow (Option Member) := do
  return email.bind (← Flow.directory).findByEmail

/-- Create an enabled member with a password.  No token is issued. -/
def signup (s : Service) (email password : Option String) : Flow Member :=
  audited "signup" do
    match ← memberAt email with
    | some m => Flow.refuse (.emailTaken m.email)
    | none =>
      let id := idText (← Flow.freshId)
      let digest ← s.digest password
      saveNew (.ok (some id)) email digest

/-- Exchange an address and a password for tokens. -/
def signin (s : Service) (email password : Option String) : Flow Session :=
  audited "signin" do
    match ← memberAt email with
    | none => Flow.refuse .noUsableAccount
    | some m =>
      if !m.enabled || !m.hasPassword then Flow.refuse .noUsableAccount
      else if !Password.accepts password m.passwordDigest then Flow.refuse .passwordMismatch
      else s.issue m none

/-- Exchange a refresh token for a new access token; the refresh token stays the same. -/
def refresh (s : Service) (token : Option String) : Flow Session :=
  audited "refresh" do
    let now ← Flow.now
    let valid ← Flow.lift (Token.asInvalid (s.tokens.validateRefresh now token))
    if !valid then Flow.refuse .refreshExpired
    else
      let email ← Flow.lift (s.tokens.subject now token)
      match (← Flow.directory).findByEmail email with
      | none => Flow.refuse .refreshOrphaned
      | some m => if m.enabled then s.issue m token else Flow.refuse .refreshOrphaned

/-- Sign a temporary token for a member whose address was confirmed elsewhere. -/
def issueTemporaryToken (s : Service) (grant : Token.SetupGrant) : Flow String :=
  audited "issue_temporary_token" (s.issueTemporary grant)

/-- The address that a live temporary token was issued for. -/
def setupEmail (s : Service) (token : Option String) : Flow String := do
  let now ← Flow.now
  let email ← Flow.lift (Token.asInvalid (s.tokens.subject now token))
  let valid ← Flow.lift (s.tokens.validateTemporary now token email)
  if valid then return email else Flow.refuse .setupExpired

/-- The text under which a value is stored as an id; not-a-number is stored as nothing. -/
def storedId? : Json → Except Fault (Option String)
  | .null => .ok none
  | .string id => .ok (some id)
  | .bool b => .ok (some (decimal b.toNat))
  | .number (.integer literal) =>
    let n := Numeral.integerValue literal
    if Number.isWord 64 n then .ok (some (signedDecimal n)) else .error .overflow
  | .number n =>
    let x := n.toFloat
    .ok (if x.isNaN then none else some (Number.inColumn.write x))
  | _ => .error .unboundValue

/-- The id that a token names, or a fresh one if what it names counts as nothing. -/
def claimedId (claimed : Option Json) : Flow (Except Fault (Option String)) := do
  match claimed.filter fun v => !Token.isVoid v with
  | some v => return storedId? v
  | none => return .ok (some (idText (← Flow.freshId)))

/-- Give a password to the member that was found, or to a new one under what a token names. -/
def establish (s : Service) (found : Option Member) (email : String) (claimed : Option Json)
    (password : Option String) : Flow Session := do
  let digest ← s.digest password
  let stored ←
    match found with
    | some m => save { m with passwordDigest := some digest, enabled := true }
    | none => saveNew (← claimedId claimed) email digest
  s.issue stored none

/-- Set the first password of the member that a temporary token was issued for, creating the
member if need be. -/
def setInitialPassword (s : Service) (token : Option String) (password : Option String) :
    Flow Session :=
  audited "set_initial_password" do
    let email ← s.setupEmail token
    let now ← Flow.now
    let claimed ← Flow.lift (s.tokens.memberId now token)
    let found := (← Flow.directory).findByEmail email
    if found.any Member.hasPassword then Flow.refuse .passwordAlreadySet
    else s.establish found email claimed password

/-- Replace a password after checking the current one. -/
def changePassword (s : Service) (email current new : Option String) : Flow Unit :=
  audited "change_password" do
    match ← memberAt email with
    | none => Flow.refuse .noAccountToChange
    | some m =>
      if !m.hasPassword then Flow.refuse .noAccountToChange
      else if !Password.accepts current m.passwordDigest then
        Flow.refuse .currentPasswordMismatch
      else
        let digest ← s.digest new
        let _ ← save { m with passwordDigest := some digest }
        return ()

/-! ### Look-ups -/

/-- The member with an address, for administrators. -/
def memberByEmail (email : Option String) : Flow Member := do
  match ← memberAt email with
  | some m => return m
  | none => Flow.refuse (.noSuchMember email)

/-- The earliest member with a role. -/
def memberByRole (role : Json) : Flow (Option Member) := do
  let r ← Flow.liftFault (roleOf role)
  return (← Flow.directory).findByRole r

/-- The enabled member behind a live access token, if there is one. -/
def resolveBearer (s : Service) (token : Option String) : Flow (Option Member) := do
  let now ← Flow.now
  let valid ← Flow.lift (s.tokens.validate now token)
  if !valid then return none
  else
    let found ← Flow.lift (s.tokens.tokenType now token)
    if !Json.isString found Token.access then return none
    else
      let email ← Flow.lift (s.tokens.subject now token)
      return ((← Flow.directory).findByEmail email).filter Member.enabled

/-- The scopes in a token. -/
def grantedScopes (s : Service) (token : Option String) : Flow (List String) := do
  let now ← Flow.now
  Flow.lift (s.tokens.grantedScopes now token)

end Service

end Gatehouse.Account
