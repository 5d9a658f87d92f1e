import Gatehouse.Account.Caller
import Gatehouse.Settings.Basic
import Gatehouse.Web.Endpoint
import Gatehouse.Web.Query
import Gatehouse.Web.Response
import Gatehouse.Web.Submission

/-!
# Handlers

What the endpoints do.  The body of a request is read before anything else; then
the caller is asked for, where an endpoint wants one; then the parameters and the
form are checked; and only then does the endpoint act.

Every response that carries a token forbids that it be stored.

Main results:

- `submittedAfter_of_fault`: a request whose body cannot be read does nothing.
- `admitted_of_anonymous`: an endpoint that wants a caller does nothing for nobody.
-/

namespace Gatehouse.Web

open Gatehouse.Form Gatehouse.Text

/-- The service as it is set up. -/
structure Site where
  settings : Settings
  service : Account.Service

namespace Site

/-- The service that settings describe. -/
def of (s : Settings) : Site where
  settings := s
  service :=
    { tokens :=
        { secret := s.secretKey
          accessTtl := s.accessTtl
          refreshTtl := s.refreshTtl
          temporaryTtl := s.temporaryTtl },
      verifier := ⟨s.cost.toNat⟩ }

/-! ## Records in responses -/

/-- What clients see of a member. -/
def memberJson (m : Member) : Json :=
  .object [("id", .string m.id), ("email", .string m.email), ("role", .string m.role.name),
    ("enabled", .bool m.enabled), ("has_password", .bool m.hasPassword),
    ("created_at", .string m.createdAt), ("updated_at", .string m.updatedAt)]

/-- What clients see of a session. -/
def sessionJson (site : Site) (s : Account.Session) : Json :=
  .object [("access_token", .string s.accessToken), ("refresh_token", .string s.refreshToken),
    ("token_type", .string "bearer"), ("expires_in", .ofInt site.settings.accessTtl),
    ("scopes", .ofStrings (sortedTexts s.scopes))]

/-! ## Before an endpoint acts -/

/-- The response to a request whose body cannot be read. -/
def ofBodyFault : BodyFault → Response
  | .malformedAt position => .ofFindings [brokenBody position]
  | .undecodable => .failed 400 "There was an error parsing the body"

/-- Read the body, ask for what `first` gives, check the form, and act. -/
def submittedAfter {α β : Type} (r : Request) (first : Flow (Except Response β)) (form : Form α)
    (act : β → α → Flow Response) : Flow Response :=
  match readSubmission r with
  | .error fault => pure (ofBodyFault fault)
  | .ok submission => do
    match ← first with
    | .error response => return response
    | .ok b =>
      match form.submitted submission with
      | .error findings => return .ofFindings findings
      | .ok a => act b a

/-- A body that cannot be read is answered before anything else is looked at. -/
theorem submittedAfter_of_fault {α β : Type} {r : Request} {fault : BodyFault}
    (h : readSubmission r = .error fault) (first : Flow (Except Response β)) (form : Form α)
    (act : β → α → Flow Response) :
    submittedAfter r first form act = pure (ofBodyFault fault) := by
  simp [submittedAfter, h]

/-- Read the body, check the form, and act. -/
def submitted {α : Type} (r : Request) (form : Form α) (act : α → Flow Response) :
    Flow Response :=
  submittedAfter r (pure (.ok ())) form fun _ => act

/-- The member behind a request, if the caller is let through. -/
def caller (site : Site) (r : Request) (check : Account.Caller → Except Account.Denial Member) :
    Flow (Except Response Member) := do
  let c ← site.service.identify none r.headers
  return (check c).mapError Response.ofDenial

/-- The caller that a scope is asked of is the member behind a request with that scope. -/
theorem caller_demand (site : Site) (r : Request) (scope : String) :
    site.caller r (·.demand scope) =
      (·.mapError Response.ofDenial) <$> site.service.requireScope none r.headers scope := by
  simp [caller, Account.Service.requireScope]

/-- Ask for the caller, and act. -/
def admitted (site : Site) (r : Request) (check : Account.Caller → Except Account.Denial Member)
    (act : Member → Flow Response) : Flow Response := do
  match ← site.caller r check with
  | .error response => return response
  | .ok m => act m

/-- A request without a bearer token is turned away without touching the world. -/
theorem admitted_of_anonymous {site : Site} {r : Request} (h : bearerToken? r.headers = none)
    (act : Member → Flow Response) :
    site.admitted r Account.Caller.authenticated act =
      pure (.ofDenial .unauthenticated) := by
  simp only [admitted, caller, Account.Service.identify, h]
  rfl

/-! ## The endpoints -/

/-- Exchange an address and a password for tokens. -/
def signin (site : Site) (r : Request) : Flow Response :=
  submitted r Form.signin fun c => do
    let session ← site.service.signin c.email c.password
    return .secret (site.sessionJson session)

/-- Exchange a refresh token for a new access token. -/
def refresh (site : Site) (r : Request) : Flow Response :=
  submitted r Form.refresh fun f => do
    let session ← site.service.refresh f.refreshToken
    return .secret (site.sessionJson session)

/-- The key that another service presents. -/
def presentedKey (r : Request) : String :=
  (first? r.headers "x-internal-key").getD ""

/-- Sign a temporary token for another service that confirmed an address. -/
def temporaryToken (site : Site) (r : Request) : Flow Response :=
  submitted r Form.temporaryToken fun c => do
    if site.settings.internalKey = "" then return .notice 404 "not_found" "Not found."
    else if presentedKey r ≠ site.settings.internalKey then
      return .notice 401 "unauthorized" "Invalid internal key."
    else
      let grant ← Flow.liftFault (Token.SetupGrant.create c.email c.memberId)
      let token ← site.service.issueTemporaryToken grant
      return .secret (.object [("token", .string token),
        ("expires_in", .ofInt site.settings.temporaryTtl)])

/-- Set the first password of the member that the bearer token was issued for. -/
def passwordSetup (site : Site) (r : Request) : Flow Response :=
  submitted r Form.passwordSetup fun f => do
    match bearerToken? r.headers with
    | none =>
      return (Response.notice 401 "unauthorized" "Password-setup token required.").adding
        Response.challenge
    | some token =>
      let session ← site.service.setInitialPassword token f.password
      return .secret (.object [("message", .string "Password set."),
        ("tokens", site.sessionJson session)])

/-- Replace the password of the caller. -/
def passwordChange (site : Site) (r : Request) : Flow Response :=
  submittedAfter r (site.caller r Account.Caller.authenticated) Form.passwordChange fun m f => do
    site.service.changePassword m.email f.currentPassword f.newPassword
    return .json 200 (.object [("message", .string "Password changed.")])

/-- Create a member. -/
def signup (site : Site) (r : Request) : Flow Response :=
  submitted r Form.signup fun c => do
    let m ← site.service.signup c.email c.password
    return .json 201 (memberJson m)

/-- The record of the caller. -/
def ownRecord (site : Site) (r : Request) : Flow Response :=
  site.admitted r (·.demand (Scope.text ⟨.read, .own⟩)) fun m => pure (.json 200 (memberJson m))

/-- The rule for the address that is asked for. -/
def askedEmail (query : String) : Checked String :=
  let v := (parameter? query "email").map Json.string
  (Checked.named "email" (v.getD .null) (Form.knownEmail.check v)).under "query"

/-- The record under an address, for administrators. -/
def memberByEmail (site : Site) (r : Request) : Flow Response :=
  site.admitted r (·.demand (Scope.text ⟨.read, .all⟩)) fun _ => do
    match askedEmail r.query with
    | .error findings => return .ofFindings findings
    | .ok email =>
      let m ← Account.Service.memberByEmail email
      return .json 200 (memberJson m)

/-- The version of the service. -/
def version : String := "0.1.0"

/-- A sign of life. -/
def health : Response :=
  .json 200 (.object [("status", .string "ok"), ("version", .string version)])

/-- What an endpoint does with a request. -/
def run (site : Site) (r : Request) : Endpoint → Flow Response
  | .signin => site.signin r
  | .refresh => site.refresh r
  | .temporaryToken => site.temporaryToken r
  | .passwordSetup => site.passwordSetup r
  | .passwordChange => site.passwordChange r
  | .signup => site.signup r
  | .ownRecord => site.ownRecord r
  | .memberByEmail => site.memberByEmail r
  | .health => pure health

/-! ## Routing -/

/-- The response to a request that is sent to another path. -/
def redirection (r : Request) (path : String) : Response :=
  .redirect (String.ofList ("http://".toList ++ r.addressText path))

/-- Send a request where its method and its path lead; `run` is what the endpoints do. -/
def routed (r : Request) (run : Endpoint → Flow Response) : Flow Response :=
  match Endpoint.find r.method r.path with
  | .endpoint e => run e
  | .otherMethod m => pure ((Response.failed 405 "Method Not Allowed").adding [("allow", m)])
  | .otherPath path => pure (redirection r path)
  | .nowhere => pure (.failed 404 "Not Found")

end Site

end Gatehouse.Web
