import Gatehouse.Proofs.Account.Signing
import Gatehouse.Proofs.Web.Layers
import Gatehouse.Proofs.Web.Throttling

/-!
# What requests sign

A request has tokens signed only on an authority that it proves: the password of a member, a
refresh token, a password-setup token for an address that has no password, or the key of
another service.  The response to it then carries the signed tokens and forbids that they be
stored.  A request that is answered with an error has had nothing signed: no endpoint does
anything that can fail after it has signed a token, and neither do the layers around it.

Main results:

- `signs_run`: what the endpoints sign, and on which authority.
- `exists_signed_answerBy`: the layers around an endpoint hand its response on.
- `tokens_signed_on_authority`: what a request has signed.
-/

namespace Gatehouse

open Gatehouse.Text

/-- Logging leaves the record of signed tokens alone. -/
theorem World.minted_foldl_logged (lines : List LogLine) (w : World) :
    (lines.foldl World.logged w).minted = w.minted := by
  induction lines generalizing w with
  | nil => rfl
  | cons line lines ih => exact ih (w.logged line)

/-! ## Tokens in responses -/

namespace Json

/-- The names under which responses carry tokens. -/
def tokenNames : List String := ["access_token", "refresh_token", "token"]

mutual

/-- The texts under the names of tokens, at any depth; the value itself may be under one. -/
def tokens (named : Bool) : Json → List String
  | .string s => if named then [s] else []
  | .array items => itemTokens named items
  | .object fields => fieldTokens fields
  | _ => []

/-- The texts under the names of tokens in the items of an array. -/
def itemTokens (named : Bool) : List Json → List String
  | [] => []
  | v :: rest => tokens named v ++ itemTokens named rest

/-- The texts under the names of tokens in the fields of an object. -/
def fieldTokens : List (String × Json) → List String
  | [] => []
  | (name, v) :: rest => tokens (tokenNames.contains name) v ++ fieldTokens rest

end

/-- A list of texts that is not under the name of a token has none. -/
theorem itemTokens_strings (xs : List String) : itemTokens false (xs.map .string) = [] := by
  induction xs with
  | nil => rfl
  | cons x xs ih => simp [itemTokens, tokens, ih]

end Json

namespace Web

open Gatehouse.Form Gatehouse.Account Gatehouse.Flow

/-- The tokens that a content carries. -/
def Content.tokens : Content → List String
  | .json v => v.tokens false
  | _ => []

end Web

/-- A signed token is of a type. -/
def Minted.HasType (t : Minted) (type : String) : Prop :=
  Keyed.lookup t.claims "type" = some (.string type)

/-- A signed token is of one type. -/
theorem Minted.HasType.unique {t : Minted} {type type' : String} (h : t.HasType type)
    (h' : t.HasType type') : type = type' := by
  simpa using h.symm.trans h'

namespace Account

/-- The tokens of a session are an access token and perhaps a refresh token. -/
theorem hasType_of_mem_signed {session : Session} {presented : Option String} {t : Minted}
    (h : t ∈ session.signed presented) :
    t.HasType Token.access ∨
      t.HasType Token.refresh ∧ ∃ a ∈ session.signed presented, a.HasType Token.access := by
  have first : Minted.HasType ⟨session.accessToken,
      Token.accessClaims session.member.email session.scopes session.member.id⟩ Token.access :=
    (writable_accessClaims session.member.email session.scopes session.member.id).type
  rcases List.mem_cons.1 h with rfl | later
  · exact .inl first
  · right
    split at later
    · cases later
    · rcases List.mem_singleton.1 later with rfl
      exact ⟨(writable_refreshClaims session.member.email).type, _, List.mem_cons_self, first⟩

end Account

namespace Web

open Gatehouse.Form Gatehouse.Account Gatehouse.Flow

namespace Site

/-! ## Authority -/

/-- The authority on which a request has an access token signed. -/
inductive AccessAuthority (site : Site) (r : Request) (w : World) : Prop
  /-- It signs in with the password of a member. -/
  | signin {c : Credentials} {m : Member}
    (leads : Endpoint.find r.method r.path = .endpoint .signin)
    (submits : filledIn? r Form.signin = some c)
    (recognised : Recognises w.directory c.email c.password m)
  /-- It submits the refresh token of a member. -/
  | renewal {f : Renewal} {m : Member}
    (leads : Endpoint.find r.method r.path = .endpoint .refresh)
    (submits : filledIn? r Form.refresh = some f)
    (renews : Renews site.service w f.refreshToken m)
  /-- It bears a password-setup token for an address that has no password. -/
  | setup {token email : String}
    (leads : Endpoint.find r.method r.path = .endpoint .passwordSetup)
    (bears : bearerToken? r.headers = some token)
    (setsUp : SetsUp site.service w token email)

/-- The authority on which a request has a temporary token signed: it presents the key of
another service, if there is one. -/
structure PresentsKey (site : Site) (r : Request) : Prop where
  leads : Endpoint.find r.method r.path = .endpoint .temporaryToken
  key : site.settings.internalKey ≠ ""
  presented : first? r.headers "x-internal-key" = some site.settings.internalKey

/-- Tokens that are signed for a request on its authority. -/
inductive Authorised (site : Site) (r : Request) (w : World) : List Minted → Prop
  | session (authority : site.AccessAuthority r w) (session : Session)
    (presented : Option String) : Authorised site r w (session.signed presented)
  | temporary (authority : site.PresentsKey r) (token : String) (grant : Token.SetupGrant) :
    Authorised site r w [⟨token, Token.temporaryClaims grant⟩]

/-- The refresh token that a request submits to be renewed, if it does. -/
def submittedToken (r : Request) : List String :=
  if Endpoint.find r.method r.path = .endpoint .refresh then
    ((filledIn? r Form.refresh).map Renewal.refreshToken).toList
  else []

/-- A response hands signed tokens out: it succeeds, forbids to be stored, and carries them and
the refresh token that was submitted, and they are signed on authority. -/
structure HandsOut (site : Site) (r : Request) (w : World) (response : Response)
    (new : List Minted) : Prop where
  status : response.status = 200
  unstored : first? response.headers "cache-control" = some "no-store"
  tokens : response.content.tokens = new.map Minted.token ++ submittedToken r
  authorised : site.Authorised r w new

/-- A response accounts for signed tokens: there are none, or it hands them out. -/
def Accounts (site : Site) (r : Request) (w : World) (response : Response) (new : List Minted) :
    Prop :=
  new = [] ∨ site.HandsOut r w response new

/-! ## Endpoints -/

section Endpoints

variable {site : Site} {r : Request} {w : World}

/-- The tokens in the record of a session are its access token and its refresh token. -/
theorem tokens_sessionJson (session : Session) :
    (site.sessionJson session).tokens false = [session.accessToken, session.refreshToken] := by
  simp [sessionJson, Json.tokens, Json.fieldTokens, Json.tokenNames, Json.ofInt, Json.ofStrings,
    Json.itemTokens_strings]

/-- A request that leads elsewhere submits no refresh token. -/
theorem submittedToken_of_ne {e : Endpoint} (leads : Endpoint.find r.method r.path = .endpoint e)
    (h : e ≠ .refresh) : submittedToken r = [] := by
  simp [submittedToken, leads, h]

/-- What is not signed needs no account. -/
theorem accounts_of_keeps {f : Flow Response} (keeps : Keeps World.minted f) :
    Signs (site.Accounts r w) f w :=
  signs_of_keeps keeps fun _ _ _ => .inl rfl

/-- An endpoint with a form accounts for what it signs when it does so on every form that is
filled in. -/
theorem accounts_submitted {α : Type} {form : Form α} {act : α → Flow Response}
    (h : ∀ a, filledIn? r form = some a → Signs (site.Accounts r w) (act a) w) :
    Signs (site.Accounts r w) (submitted r form act) w := by
  cases filled : filledIn? r form with
  | some a =>
    rw [submitted_of_filledIn filled]
    exact h a filled
  | none =>
    rcases submitted_of_not_filledIn filled act with ⟨response, answer⟩
    rw [answer]
    exact accounts_of_keeps (keeps_pure _)

/-- Signing in hands out the tokens of the member that is recognised. -/
theorem accounts_signin (plain : Token.PlainSecret site.service.tokens.secret)
    (lasting : Lasting site.service w.clock)
    (leads : Endpoint.find r.method r.path = .endpoint .signin) :
    Signs (site.Accounts r w) (site.signin r) w := by
  apply accounts_submitted
  intro c submits
  apply signs_bind_pure (signs_signin plain lasting)
  rintro session new ⟨recognised, rfl⟩
  right
  refine ⟨rfl, rfl, ?_, .session (.signin leads submits recognised) session none⟩
  rw [submittedToken_of_ne leads (by decide), List.append_nil]
  exact tokens_sessionJson session

/-- Renewing a session hands out an access token of its member, and the refresh token again. -/
theorem accounts_refresh (plain : Token.PlainSecret site.service.tokens.secret)
    (lasting : Lasting site.service w.clock)
    (leads : Endpoint.find r.method r.path = .endpoint .refresh) :
    Signs (site.Accounts r w) (site.refresh r) w := by
  apply accounts_submitted
  intro f submits
  apply signs_bind_pure (signs_refresh plain lasting)
  rintro session new ⟨renews, same, rfl⟩
  right
  refine ⟨rfl, rfl, ?_, .session (.renewal leads submits renews) session f.refreshToken⟩
  have again : submittedToken r = [session.refreshToken] := by
    simp [submittedToken, leads, submits, same f.refreshToken rfl]
  rw [again]
  exact tokens_sessionJson session

/-- A key that is presented and not empty is the value of its header. -/
theorem first?_of_presentedKey {key : String} (h : key ≠ "") (presents : presentedKey r = key) :
    first? r.headers "x-internal-key" = some key := by
  unfold presentedKey at presents
  cases given : first? r.headers "x-internal-key" with
  | some value =>
    rw [given] at presents
    rw [← presents]
    rfl
  | none =>
    rw [given] at presents
    exact absurd presents.symm h

/-- Another service that presents the key is handed a temporary token. -/
theorem accounts_temporaryToken
    (leads : Endpoint.find r.method r.path = .endpoint .temporaryToken) :
    Signs (site.Accounts r w) (site.temporaryToken r) w := by
  apply accounts_submitted
  intro c _
  split
  · exact accounts_of_keeps (keeps_pure _)
  · next key =>
    split
    · exact accounts_of_keeps (keeps_pure _)
    · next presents =>
      apply signs_bind (keeps_liftFault _)
      intro grant w' _
      apply signs_bind_pure (signs_audited (signs_mint (Token.temporaryClaims grant) _))
      rintro token new rfl
      right
      refine ⟨rfl, rfl, ?_, .temporary ⟨leads, key, ?_⟩ token grant⟩
      · rw [submittedToken_of_ne leads (by decide), List.append_nil]
        simp [Response.secret, Response.adding, Response.json, Content.tokens, Json.tokens,
          Json.fieldTokens, Json.tokenNames, Json.ofInt]
      · exact first?_of_presentedKey key (Decidable.not_not.1 presents)

/-- Setting a first password hands out the tokens of a session. -/
theorem accounts_passwordSetup (plain : Token.PlainSecret site.service.tokens.secret)
    (lasting : Lasting site.service w.clock)
    (leads : Endpoint.find r.method r.path = .endpoint .passwordSetup) :
    Signs (site.Accounts r w) (site.passwordSetup r) w := by
  apply accounts_submitted
  intro f _
  split
  · exact accounts_of_keeps (keeps_pure _)
  · next token bears =>
    apply signs_bind_pure (signs_setInitialPassword plain lasting f.password)
    rintro session new ⟨⟨email, setsUp⟩, rfl⟩
    right
    refine ⟨rfl, rfl, ?_, .session (.setup leads bears setsUp) session none⟩
    rw [submittedToken_of_ne leads (by decide), List.append_nil]
    calc (Json.object [("message", .string "Password set."),
        ("tokens", site.sessionJson session)]).tokens false
      _ = (site.sessionJson session).tokens false := by
        simp [Json.tokens, Json.fieldTokens, Json.tokenNames]
      _ = [session.accessToken, session.refreshToken] := tokens_sessionJson session

/-- Asking for the caller touches nothing. -/
theorem keeps_caller {γ : Type} {part : World → γ} (check : Caller → Except Denial Member) :
    Keeps part (site.caller r check) :=
  keeps_bind (keeps_identify site.service r.headers) fun _ => keeps_pure _

/-- An endpoint that asks for the caller signs nothing unless its action does. -/
theorem keeps_admitted (check : Caller → Except Denial Member) {act : Member → Flow Response}
    (h : ∀ m, Keeps World.minted (act m)) : Keeps World.minted (site.admitted r check act) := by
  apply keeps_bind (keeps_caller check)
  intro found
  cases found with
  | error response => exact keeps_pure response
  | ok m => exact h m

/-- An endpoint with a form signs nothing unless what comes first or its action does. -/
theorem keeps_submittedAfter {α β : Type} {form : Form α} {first : Flow (Except Response β)}
    {act : β → α → Flow Response} (hfirst : Keeps World.minted first)
    (h : ∀ b a, Keeps World.minted (act b a)) :
    Keeps World.minted (submittedAfter r first form act) := by
  unfold submittedAfter
  split
  · exact keeps_pure _
  · next submission _ =>
    apply keeps_bind hfirst
    intro found
    cases found with
    | error response => exact keeps_pure response
    | ok b =>
      simp only
      split
      · exact keeps_pure _
      · exact h b _

/-- Every endpoint accounts for what it signs. -/
theorem signs_run (plain : Token.PlainSecret site.service.tokens.secret)
    (lasting : Lasting site.service w.clock) {e : Endpoint}
    (leads : Endpoint.find r.method r.path = .endpoint e) :
    Signs (site.Accounts r w) (site.run r e) w := by
  cases e with
  | signin => exact accounts_signin plain lasting leads
  | refresh => exact accounts_refresh plain lasting leads
  | temporaryToken => exact accounts_temporaryToken leads
  | passwordSetup => exact accounts_passwordSetup plain lasting leads
  | passwordChange =>
    apply accounts_of_keeps
    apply keeps_submittedAfter (keeps_caller _)
    intro m f
    exact keeps_bind (keeps_changePassword apart_minted _ _ _ _) fun _ => keeps_pure _
  | signup =>
    apply accounts_of_keeps
    apply keeps_submittedAfter (keeps_pure _)
    intro _ c
    exact keeps_bind (keeps_signup apart_minted _ _ _) fun _ => keeps_pure _
  | ownRecord => exact accounts_of_keeps (keeps_admitted _ fun _ => keeps_pure _)
  | memberByEmail =>
    apply accounts_of_keeps
    apply keeps_admitted
    intro _
    split
    · exact keeps_pure _
    · exact keeps_bind (keeps_memberByEmail _) fun _ => keeps_pure _
  | health => exact accounts_of_keeps (keeps_pure _)

end Endpoints

/-! ## Layers -/

section Layers

variable {site : Site} {r : Request} {s : Server} {run : Endpoint → Flow Response}
  {accounts : Response → List Minted → Prop} (quiet : ∀ response, accounts response [])
include quiet

/-- Turning refusals into responses signs nothing. -/
theorem signs_settled {w : World} {body : Flow Response} (h : Signs accounts body w) :
    Signs accounts (settled r body) w := by
  unfold Signs at h ⊢
  rw [run_settled]
  rcases run : body.runIn w with ⟨e | response, w'⟩
  all_goals rw [run] at h
  · cases e with
    | refused c =>
      have same : ((refusalLines r c).foldl World.logged w').minted = w.minted :=
        (World.minted_foldl_logged _ w').trans h
      exact ⟨[], by rw [List.append_nil, same], quiet _⟩
    | fault f => exact h
    | cancelled => exact h
  · exact h

/-- Inside the guard a request accounts for what its endpoint signs. -/
theorem signs_inner {w : World}
    (h : ∀ e, Endpoint.find r.method r.path = .endpoint e → Signs accounts (run e) w) :
    Signs accounts (site.inner r run) w := by
  have nothing (response : Response) : Signs accounts (pure response) w :=
    signs_of_keeps (keeps_pure response) fun _ _ _ => quiet _
  unfold inner
  split
  · apply signs_settled quiet
    unfold routed
    split
    · next e leads => exact h e leads
    all_goals exact nothing _
  · exact nothing _
  · exact nothing _

/-- The guard signs nothing. -/
theorem accounted_guarded (h : Signs accounts (site.inner r run) s.world) :
    Accounted accounts s.world.minted (site.guarded r run s).2.world.minted
      (site.guarded r run s).1 := by
  unfold guarded
  simp only
  split
  · split
    · exact rfl
    · exact h
    · exact ⟨[], (List.append_nil _).symm, quiet _⟩
  · exact h

/-- A request has nothing signed, or is answered with a response that accounts for it, marked for
its origin. -/
theorem exists_signed_answerBy (h : Signs accounts (site.inner r run) s.world) :
    ∃ new, (site.answerBy r run s).2.world.minted = s.world.minted ++ new ∧
      (new = [] ∨ ∃ response, accounts response new ∧
        (site.answerBy r run s).1 =
          (OriginPolicy.mk site.settings.corsOrigins).decorate r response) := by
  unfold answerBy marked
  simp only
  by_cases preflight : OriginPolicy.isPreflight r = true
  · simp only [preflight, if_true]
    exact ⟨[], (List.append_nil _).symm, .inl rfl⟩
  · simp only [preflight, Bool.false_eq_true, if_false]
    have guarded := accounted_guarded quiet h
    rcases passed : site.guarded r run s with ⟨e | response, s'⟩
    all_goals rw [passed] at guarded
    · have same : s'.world.minted = s.world.minted := guarded
      exact ⟨[], by rw [List.append_nil]; exact same, .inl rfl⟩
    · rcases guarded with ⟨new, after, answer⟩
      exact ⟨new, after, .inr ⟨response, answer, rfl⟩⟩

end Layers

/-! ## Requests -/

section Requests

variable {site : Site} {r : Request} {w : World} {new : List Minted}

/-- A response that is marked for its origin hands out what it did before. -/
theorem HandsOut.decorate {response : Response} (h : site.HandsOut r w response new)
    (policy : OriginPolicy) : site.HandsOut r w (policy.decorate r response) new :=
  ⟨h.status, first?_append h.unstored _, h.tokens, h.authorised⟩

/-- What is signed on authority is of the types that the authority is for. -/
theorem Authorised.types (h : site.Authorised r w new) :
    (∀ t ∈ new, t.HasType Token.access → site.AccessAuthority r w) ∧
      (∀ t ∈ new, t.HasType Token.temporary → site.PresentsKey r) ∧
      ∀ t ∈ new, t.HasType Token.access ∨ t.HasType Token.temporary ∨
        (t.HasType Token.refresh ∧ ∃ a ∈ new, a.HasType Token.access) := by
  cases h with
  | session authority session presented =>
    refine ⟨fun _ _ _ => authority, ?_, ?_⟩
    · intro t member temporary
      rcases hasType_of_mem_signed member with access | ⟨refresh, _⟩
      · exact absurd (access.unique temporary) (by decide)
      · exact absurd (refresh.unique temporary) (by decide)
    · intro t member
      rcases hasType_of_mem_signed member with access | refresh
      · exact .inl access
      · exact .inr (.inr refresh)
  | temporary authority token grant =>
    have type : Minted.HasType ⟨token, Token.temporaryClaims grant⟩ Token.temporary :=
      (writable_temporaryClaims grant).type
    refine ⟨?_, fun _ _ _ => authority, ?_⟩
    · intro t member access
      rcases List.mem_singleton.1 member with rfl
      exact absurd (type.unique access) (by decide)
    · intro t member
      rcases List.mem_singleton.1 member with rfl
      exact .inr (.inl type)

/-- A request has nothing signed, or is answered with a response that hands it out. -/
theorem exists_signed_respond (plain : Token.PlainSecret site.service.tokens.secret) (s : Server)
    (lasting : Lasting site.service s.world.clock) :
    ∃ new, (site.respond r s).2.world.minted = s.world.minted ++ new ∧
      (new = [] ∨ ∃ response, (site.respond r s).1 = .ok response ∧
        site.HandsOut r s.world response new) := by
  by_cases proper : site.isProper = true
  · have inside : Signs (site.Accounts r s.world) (site.inner r (site.run r)) s.world :=
      signs_inner (fun _ => .inl rfl) fun e leads => signs_run plain lasting leads
    rw [respond_of_proper proper]
    rcases exists_signed_answerBy (fun _ => .inl rfl) inside with ⟨new, after, given⟩
    refine ⟨new, after, ?_⟩
    rcases given with nothing | ⟨response, nothing | hands, answered⟩
    · exact .inl nothing
    · exact .inl nothing
    · exact .inr ⟨_, congrArg Except.ok answered, hands.decorate _⟩
  · have nothing : site.respond r s = (.error .improperPattern, s) := by simp [respond, proper]
    exact ⟨[], by rw [nothing, List.append_nil], .inl rfl⟩

end Requests

/-- Whatever a request is, and whatever the state of the server: it has an access token signed
only if it signs in with the password of a member, renews the session of one, or sets up the
first password of an address; and a temporary token only if it presents the key of another
service.  Nothing else is signed but a refresh token beside an access token.  Where anything
is signed the request is answered with success, and the response forbids to be stored and
carries exactly what was signed, and the refresh token that was submitted to be renewed; so
where it is answered with an error nothing was signed. -/
theorem tokens_signed_on_authority (site : Site)
    (plain : Token.PlainSecret site.service.tokens.secret) (r : Request) (s : Server)
    (lasting : Lasting site.service s.world.clock) :
    ∃ new, (site.respond r s).2.world.minted = s.world.minted ++ new ∧
      (∀ t ∈ new, t.HasType Token.access → site.AccessAuthority r s.world) ∧
      (∀ t ∈ new, t.HasType Token.temporary → site.PresentsKey r) ∧
      (∀ t ∈ new, t.HasType Token.access ∨ t.HasType Token.temporary ∨
        (t.HasType Token.refresh ∧ ∃ a ∈ new, a.HasType Token.access)) ∧
      (new ≠ [] → ∃ response, (site.respond r s).1 = .ok response ∧ response.status = 200 ∧
        first? response.headers "cache-control" = some "no-store" ∧
        response.content.tokens = new.map Minted.token ++ submittedToken r) ∧
      (∀ response, (site.respond r s).1 = .ok response → 400 ≤ response.status → new = []) := by
  rcases exists_signed_respond plain s lasting with ⟨new, after, rfl | ⟨response, answered, hands⟩⟩
  · exact ⟨[], after, by simp, by simp, by simp, by simp, fun _ _ _ => rfl⟩
  · rcases hands.authorised.types with ⟨access, temporary, types⟩
    refine ⟨new, after, access, temporary, types,
      fun _ => ⟨response, answered, hands.status, hands.unstored, hands.tokens⟩, ?_⟩
    intro response' answered' failed
    rcases Except.ok.inj (answered.symm.trans answered') with rfl
    rw [hands.status] at failed
    exact absurd failed (by decide)

/-- A service that another service shares a key with. -/
def partneredSite : Site :=
  .of { usualSite.settings with secretKey := "secret", internalKey := "internal" }

/-- A request of that other service for a temporary token. -/
def partnersRequest : Request :=
  { oddSignin with
    path := "/api/v1/auth/temporary-token"
    headers := [("content-type", "application/json"), ("x-internal-key", "internal")]
    body := utf8 "\x7b\"email\":\"a@x\",\"member_id\":\"m1\"\x7d" }

/-- The other service has a token signed, and the response to it may not be stored. -/
theorem partner_has_token_signed :
    Token.PlainSecret partneredSite.service.tokens.secret ∧
      Lasting partneredSite.service freshServer.world.clock ∧
      (partneredSite.respond partnersRequest freshServer).2.world.minted.length = 1 ∧
      ∃ response, (partneredSite.respond partnersRequest freshServer).1 = .ok response ∧
        response.status = 200 ∧ first? response.headers "cache-control" = some "no-store" := by
  have plain : Token.PlainSecret partneredSite.service.tokens.secret := Token.plainService_secret
  have lasting : Lasting partneredSite.service freshServer.world.clock := ⟨⟨_, rfl⟩, ⟨_, rfl⟩⟩
  have one : (partneredSite.respond partnersRequest freshServer).2.world.minted.length = 1 := by
    decide +kernel
  rcases tokens_signed_on_authority partneredSite plain partnersRequest freshServer lasting with
    ⟨new, after, _, _, _, answered, _⟩
  have signed : new ≠ [] := by
    rintro rfl
    rw [after] at one
    cases one
  rcases answered signed with ⟨response, given, status, unstored, _⟩
  exact ⟨plain, lasting, one, response, given, status, unstored⟩

end Site

end Web

end Gatehouse
