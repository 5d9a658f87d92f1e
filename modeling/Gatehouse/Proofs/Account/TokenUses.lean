import Gatehouse.Proofs.Account.PasswordSetup
import Gatehouse.Proofs.Token.Structure

/-!
# What a token can be used for

A token is of use in three ways: as a bearer token, for renewing a session, and for setting a
first password.  Each way asks for a type of its own among the claims, and all three read the
claims off the text alone: neither the secret nor the clock nor the members have a part in
what a token claims.  So no text is ever of use in two ways, and an issued token is of use in
the way it was issued for or in none.

Main results:

- `claims_unique`: what a token claims is the same whenever and wherever it verifies.
- `claims_of_accepts`: a token that is accepted claims the type of its use.
- `claims_of_issued`: an issued token claims what it was issued with.
- `token_uses_never_cross`: a token is of use in one way at most.
-/

namespace Gatehouse.Token

/-! ## Claims of a text -/

/-- A token that verifies carries the claims that are read of its text. -/
theorem exists_read_of_verified {p : Processor} {now : Float} {token : Option String}
    {claims : Claims} (h : p.verified now token = .ok claims) :
    ∃ c, Compact.read p.nesting token = .ok c ∧ c.claims = claims := by
  unfold Processor.verified at h
  split at h
  · cases h
  · next c read =>
    split at h
    · cases h
    · cases h
    · split at h
      · exact ⟨c, read, Except.ok.inj h⟩
      · cases h
      · cases h

/-- What a token claims depends neither on the secret nor on the clock. -/
theorem claims_unique {p q : Processor} {now later : Float} {token : Option String}
    {claims claims' : Claims} (h : p.verified now token = .ok claims)
    (h' : q.verified later token = .ok claims') : claims = claims' := by
  rcases exists_read_of_verified h with ⟨c, read, rfl⟩
  rcases exists_read_of_verified h' with ⟨c', read', rfl⟩
  rw [ReadsAs.unique ⟨_, read⟩ ⟨_, read'⟩]

/-- A failure stays one where broken tokens count as invalid. -/
theorem exists_asInvalid_error {α : Type} (e : Failure) :
    ∃ e', asInvalid (.error e : Except Failure α) = .error e' := by
  unfold asInvalid
  split
  · exact ⟨_, rfl⟩
  · exact ⟨e, rfl⟩

/-- A token that does not verify is broken, or refused for one of the checks, or a fault. -/
theorem verified_error_cases {p : Processor} {now : Float} {token : Option String} {e : Failure}
    (h : p.verified now token = .error e) :
    (∃ b, e = .broken b) ∨ (∃ u, e = .refused (.unverifiedToken u)) ∨ ∃ f, e = .fault f := by
  unfold Processor.verified at h
  split at h
  · next e' unread =>
    rcases Except.error.inj h with rfl
    cases token with
    | none => exact .inl ⟨_, (Except.error.inj unread).symm⟩
    | some t =>
      rcases read_error_cases unread with broken | rfl
      · exact .inl broken
      · exact .inr (.inr ⟨_, rfl⟩)
  · split at h
    · exact .inr (.inr ⟨_, (Except.error.inj h).symm⟩)
    · exact .inr (.inl ⟨_, (Except.error.inj h).symm⟩)
    · split at h
      · cases h
      · exact .inr (.inl ⟨_, (Except.error.inj h).symm⟩)
      · exact .inr (.inr ⟨_, (Except.error.inj h).symm⟩)

/-- The subject is the text under its name, unless that is empty. -/
theorem subject?_eq_some_iff {claims : Claims} {email : String} :
    subject? claims = some email ↔
      Keyed.lookup claims "sub" = some (.string email) ∧ email ≠ "" := by
  unfold subject?
  split
  · next s hs =>
    rw [hs]
    by_cases empty : s = ""
    · simp only [empty, if_true, Option.some.injEq, Json.string.injEq, reduceCtorEq, false_iff]
      exact fun given => given.2 given.1.symm
    · simp only [empty, if_false, Option.some.injEq, Json.string.injEq]
      exact ⟨fun same => ⟨same, same ▸ empty⟩, And.left⟩
  · next other =>
    simp only [reduceCtorEq, false_iff]
    exact fun given => other email given.1

/-! ## Validation of a token that verifies -/

section Verified

variable {p : Processor} {now : Float} {token : Option String} {claims : Claims}

/-- A token that does not verify is valid for nothing. -/
theorem not_valid_of_error {e : Failure} (h : p.verified now token = .error e) :
    p.validate now token ≠ .ok true ∧ p.validateRefresh now token ≠ .ok true ∧
      ∀ email, p.validateTemporary now token email ≠ .ok true := by
  rcases verified_error_cases h with ⟨b, rfl⟩ | ⟨u, rfl⟩ | ⟨f, rfl⟩
  · simp [validate_of_error h rfl, validateTemporary_of_error h rfl]
  · simp [validate_of_unverified h, validateTemporary_of_error h rfl]
  · simp [validate_of_error h rfl, validateTemporary_of_error h rfl]

/-- A token that verifies is valid while it is live. -/
theorem validate_of_verified (h : p.verified now token = .ok claims) :
    p.validate now token = .ok (isLive claims now) := by
  simp [Processor.validate, h, softened, bind, Except.bind, pure, Except.pure]

/-- A valid refresh token verifies, is live and is of the refresh type. -/
theorem verified_of_validateRefresh (h : p.validateRefresh now token = .ok true) :
    ∃ claims, p.verified now token = .ok claims ∧ isLive claims now = true ∧
      Keyed.lookup claims "type" = some (.string refresh) := by
  cases verified : p.verified now token with
  | error e => exact absurd h (not_valid_of_error verified).2.1
  | ok claims =>
    refine ⟨claims, rfl, ?_⟩
    simp only [Processor.validateRefresh, verified, softened, bind, Except.bind] at h
    split at h
    · cases h
    · next live =>
      split at h
      · next isRefresh => exact ⟨by simpa using live, Json.isString_eq_true_iff.1 isRefresh⟩
      · cases h

/-- A valid password-setup token for an address verifies, is live, is of the temporary type and
for the purpose of setting a password, and names the address. -/
theorem verified_of_validateTemporary {email : String}
    (h : p.validateTemporary now token email = .ok true) :
    ∃ claims, p.verified now token = .ok claims ∧ isLive claims now = true ∧
      Keyed.lookup claims "type" = some (.string temporary) ∧
      Keyed.lookup claims "purpose" = some (.string passwordSetup) ∧
      Keyed.lookup claims "sub" = some (.string email) := by
  cases verified : p.verified now token with
  | error e => exact absurd h ((not_valid_of_error verified).2.2 email)
  | ok claims =>
    refine ⟨claims, rfl, ?_⟩
    simp only [Processor.validateTemporary, verified, asInvalid, bind, Except.bind] at h
    split at h
    · cases h
    · next isSetup =>
      simp only [Bool.not_eq_true, Bool.not_eq_false', Bool.and_eq_true] at isSetup
      split at h
      · cases h
      · next live =>
        exact ⟨by simpa using live, Json.isString_eq_true_iff.1 isSetup.1,
          Json.isString_eq_true_iff.1 isSetup.2, Json.isString_eq_true_iff.1 (Except.ok.inj h)⟩

end Verified

end Gatehouse.Token

namespace Gatehouse.Account

open Gatehouse.Text Gatehouse.Token Gatehouse.Flow

/-! ## Uses -/

/-- What a token is presented for. -/
inductive Use
  /-- To act as a member. -/
  | bearer
  /-- To renew a session. -/
  | renewal
  /-- To set a first password. -/
  | passwordSetup
deriving DecidableEq, Repr

/-- The type of the tokens that are issued for a use. -/
def Use.type : Use → String
  | .bearer => access
  | .renewal => refresh
  | .passwordSetup => temporary

/-- The types of the uses differ. -/
theorem Use.type_injective {use use' : Use} (h : use.type = use'.type) : use = use' := by
  cases use <;> cases use' <;> first | rfl | exact absurd h (by decide)

/-- A service accepts a token for a use, at the time and with the members of a world: a member
stands behind it, or it renews a session, or it confirms an address. -/
def Accepts (s : Service) (w : World) (t : String) : Use → Prop
  | .bearer => ∃ m, ((s.resolveBearer t).runIn w).1 = .ok (some m)
  | .renewal => ∃ session, ((s.refresh t).runIn w).1 = .ok session
  | .passwordSetup => ∃ email, ((s.setupEmail t).runIn w).1 = .ok email

/-! ### What is accepted -/

section Accepted

variable {s : Service} {w : World} {t : String}

/-- The member whom claims stand for: nobody if they are not live claims of the access type, and
otherwise the enabled member with the address that they name. -/
def bearerOf (claims : Claims) (w : World) : Except Failure (Option Member) :=
  if isLive claims w.clock && Json.isString (Keyed.lookup claims "type") access then
    match subject? claims with
    | some email => .ok ((w.directory.findByEmail email).filter Member.enabled)
    | none => .error (.refused .noSubject)
  else .ok none

/-- Claims stand for a member: they are live, of the access type, and name the address of the
member, who is stored and enabled. -/
structure StandsFor (claims : Claims) (w : World) (m : Member) : Prop where
  live : isLive claims w.clock = true
  type : Keyed.lookup claims "type" = some (.string access)
  subject : Keyed.lookup claims "sub" = some (.string m.email)
  stored : m ∈ w.directory.members
  enabled : m.enabled = true

/-- Claims that name an address stand for the member that is found. -/
theorem bearerOf_eq_some_iff {claims : Claims} {email : String} {m : Member}
    (named : subject? claims = some email) :
    bearerOf claims w = .ok (some m) ↔ StandsFor claims w m := by
  have subject : Keyed.lookup claims "sub" = some (.string email) :=
    (subject?_eq_some_iff.1 named).1
  simp only [bearerOf, named]
  constructor
  · intro found
    split at found
    · next live =>
      rw [Bool.and_eq_true] at live
      rcases Option.filter_eq_some_iff.1 (Except.ok.inj found) with ⟨stored, enabled⟩
      rcases Directory.findByEmail_eq_some_iff.1 stored with ⟨member, rfl⟩
      exact ⟨live.1, Json.isString_eq_true_iff.1 live.2, subject, member, enabled⟩
    · cases found
  · intro h
    have same : m.email = email := by
      have both := h.subject.symm.trans subject
      simpa using both
    have found : w.directory.findByEmail email = some m :=
      Directory.findByEmail_eq_some_iff.2 ⟨h.stored, same⟩
    simp [h.live, h.type, Json.isString, found, Option.filter, h.enabled]

/-- Claims that name an address stand for somebody or for nobody, and are never refused. -/
theorem exists_bearerOf {claims : Claims} {email : String} (named : subject? claims = some email)
    (w : World) : ∃ found, bearerOf claims w = .ok found := by
  simp only [bearerOf, named]
  split <;> exact ⟨_, rfl⟩

/-- A bearer token that verifies stands for whom its claims stand for. -/
theorem run_resolveBearer_of_verified {claims : Claims}
    (h : s.tokens.verified w.clock t = .ok claims) :
    (s.resolveBearer t).runIn w = (bearerOf claims w, w) := by
  have type : s.tokens.tokenType w.clock t = .ok (Keyed.lookup claims "type") := by
    simp [Processor.tokenType, h, bind, Except.bind, pure, Except.pure]
  unfold Service.resolveBearer bearerOf
  simp only [run_bind, run_now, run_lift, validate_of_verified h]
  cases isLive claims w.clock with
  | false => rfl
  | true =>
    simp only [Bool.not_true, Bool.false_eq_true, if_false, run_bind, run_lift, type,
      Bool.true_and]
    cases Json.isString (Keyed.lookup claims "type") access with
    | false => rfl
    | true =>
      simp only [Bool.not_true, Bool.false_eq_true, if_false, if_true, Processor.subject, h,
        bind, Except.bind]
      cases subject? claims <;> rfl

/-- A bearer token that stands for a member verifies and is of the access type. -/
theorem verified_of_bearer {m : Member} (h : ((s.resolveBearer t).runIn w).1 = .ok (some m)) :
    ∃ claims, s.tokens.verified w.clock t = .ok claims ∧
      Keyed.lookup claims "type" = some (.string access) := by
  cases verified : s.tokens.verified w.clock t with
  | ok claims =>
    refine ⟨claims, rfl, ?_⟩
    rw [run_resolveBearer_of_verified verified, bearerOf] at h
    split at h
    · next live =>
      rw [Bool.and_eq_true] at live
      exact Json.isString_eq_true_iff.1 live.2
    · cases h
  | error e =>
    exfalso
    rcases verified_error_cases verified with ⟨b, rfl⟩ | ⟨u, rfl⟩ | ⟨f, rfl⟩
    · rw [run_resolveBearer_of_error verified rfl] at h
      cases h
    · rw [run_resolveBearer_of_unverified verified] at h
      cases h
    · rw [run_resolveBearer_of_error verified rfl] at h
      cases h

/-- A token that renews a session is a valid refresh token. -/
theorem validateRefresh_of_refresh {session : Session}
    (h : ((s.refresh t).runIn w).1 = .ok session) :
    s.tokens.validateRefresh w.clock t = .ok true := by
  rw [Service.refresh, run_audited] at h
  simp only [run_bind, run_now, run_lift, World.clock_logged] at h
  cases valid : s.tokens.validateRefresh w.clock t with
  | error e =>
    rcases exists_asInvalid_error (α := Bool) e with ⟨e', failed⟩
    rw [valid, failed] at h
    cases h
  | ok answer =>
    rw [valid] at h
    cases answer with
    | true => rfl
    | false => cases h

/-- A token that confirms an address is a valid password-setup token for it. -/
theorem validateTemporary_of_setupEmail {email : String}
    (h : ((s.setupEmail t).runIn w).1 = .ok email) :
    s.tokens.validateTemporary w.clock t email = .ok true := by
  rw [run_setupEmail] at h
  exact validateTemporary_of_confirmedEmail h

/-- A password is set only by a token that confirms an address. -/
theorem accepts_of_setInitialPassword {password : Option String} {session : Session}
    (h : ((s.setInitialPassword t password).runIn w).1 = .ok session) :
    Accepts s w t .passwordSetup := by
  rw [Service.setInitialPassword, run_audited] at h
  rw [Accepts, run_setupEmail]
  simp only [run_bind, run_setupEmail, World.clock_logged] at h
  cases confirmed : confirmedEmail s.tokens w.clock t with
  | ok email => exact ⟨email, rfl⟩
  | error e =>
    rw [confirmed] at h
    cases h

/-- A token that is accepted for a use verifies, and claims the type of that use. -/
theorem claims_of_accepts {use : Use} (h : Accepts s w t use) :
    ∃ claims, s.tokens.verified w.clock t = .ok claims ∧
      Keyed.lookup claims "type" = some (.string use.type) := by
  cases use with
  | bearer =>
    rcases h with ⟨m, found⟩
    exact verified_of_bearer found
  | renewal =>
    rcases h with ⟨session, renewed⟩
    rcases verified_of_validateRefresh (validateRefresh_of_refresh renewed) with
      ⟨claims, verified, _, type⟩
    exact ⟨claims, verified, type⟩
  | passwordSetup =>
    rcases h with ⟨email, confirmed⟩
    rcases verified_of_validateTemporary (validateTemporary_of_setupEmail confirmed) with
      ⟨claims, verified, _, type, _⟩
    exact ⟨claims, verified, type⟩

end Accepted

/-! ### What is issued -/

/-- A token was issued for a use and to a subject, by some service and at some time. -/
inductive Issued (t : String) : Use → Option String → Prop
  | access {s : Service} {w : World} {subject : Option String} {scopes : List String}
    {memberId : Option String}
    (h : ((s.issueAccess subject scopes memberId).runIn w).1 = .ok t) : Issued t .bearer subject
  | refresh {s : Service} {w : World} {subject : Option String}
    (h : ((s.issueRefresh subject).runIn w).1 = .ok t) : Issued t .renewal subject
  | temporary {s : Service} {w : World} {grant : SetupGrant}
    (h : ((s.issueTemporary grant).runIn w).1 = .ok t) :
    Issued t .passwordSetup (some grant.email)

/-- What the claims of an issued token say of its use, its subject and its scopes. -/
structure IssuedClaims (claims : Claims) (use : Use) (subject : Option String) : Prop where
  type : Keyed.lookup claims "type" = some (.string use.type)
  subject : Keyed.lookup claims "sub" = some (.ofString? subject)
  scope : ∀ v, Keyed.lookup claims "scope" = some v → ∃ text, v = .string text

/-- A text or nothing is read back. -/
theorem readsBack_ofString? (s : Option String) : (Json.ofString? s).ReadsBack := by
  cases s with
  | none => exact Json.readsBack_null
  | some s => exact Json.readsBack_string s

/-- Claims that a token can be written with: their names differ, also from those of its times
and its id, and their values are read back. -/
structure Writable (claims : Claims) (use : Use) (subject : Option String) : Prop
    extends IssuedClaims claims use subject where
  names : (claims.map Prod.fst ++ ["iat", "exp", "jti"]).Nodup
  values : ∀ f ∈ claims, f.2.ReadsBack

/-- The claims of access tokens are writable, whatever the subject, the scopes and the id. -/
theorem writable_accessClaims (subject : Option String) (scopes : List String)
    (memberId : Option String) :
    Writable (accessClaims subject scopes memberId) .bearer subject := by
  have value := readsBack_ofString? subject
  unfold accessClaims
  simp only
  -- the two optional claims are there or not
  split <;> (split; rotate_left; split)
  all_goals
    refine ⟨⟨?_, ?_, ?_⟩, ?_, ?_⟩ <;>
      simp [Keyed.lookup, Use.type, value, Json.readsBack_string]

/-- The claims of refresh tokens are writable, whatever the subject. -/
theorem writable_refreshClaims (subject : Option String) :
    Writable (refreshClaims subject) .renewal subject := by
  refine ⟨⟨?_, ?_, ?_⟩, ?_, ?_⟩ <;>
    simp [refreshClaims, Keyed.lookup, Use.type, readsBack_ofString?, Json.readsBack_string]

/-- The claims of temporary tokens are writable. -/
theorem writable_temporaryClaims (grant : SetupGrant) :
    Writable (temporaryClaims grant) .passwordSetup (some grant.email) := by
  refine ⟨⟨?_, ?_, ?_⟩, ?_, ?_⟩ <;>
    simp [temporaryClaims, Keyed.lookup, Use.type, Json.ofString?, Json.readsBack_string]

/-- A minted token is composed of its timed claims and some signature. -/
theorem exists_compose_of_mint {s : Service} {claims : Claims} {ttl : Int} {w : World} {t : String}
    (h : ((s.mint claims ttl).runIn w).1 = .ok t) :
    ∃ expiry signature,
      t = compose (.object (timedClaims claims w.clock expiry (w.ids + 1))) signature := by
  unfold Service.mint at h
  simp only [run_bind, run_now, run_liftFault, run_freshId, run_note, run_pure] at h
  cases times : expiryOf w.clock ttl with
  | error f =>
    rw [times] at h
    cases h
  | ok expiry =>
    simp only [times, Except.mapError, Processor.seal] at h
    cases signed : sign s.tokens.secret
        (textBytes (signingText (payload claims w.clock expiry (w.ids + 1)))) with
    | error f =>
      simp only [signed, Except.map] at h
      cases h
    | ok signature =>
      simp only [signed, Except.map, Except.ok.injEq] at h
      exact ⟨expiry, signature, h.symm⟩

/-- Timed claims are read back from a token when they are writable. -/
theorem Writable.read_compose {claims : Claims} {use : Use} {subject : Option String}
    (writable : Writable claims use subject) (issuedAt expiry : Float) (serial : Nat)
    (signature : Bytes) :
    ∃ c, ReadsAs (compose (.object (timedClaims claims issuedAt expiry serial)) signature) c ∧
      c.claims = timedClaims claims issuedAt expiry serial := by
  refine ⟨_, ⟨0, Token.read_compose ?_ ?_ signature 0⟩, rfl⟩
  · simpa [timedClaims] using writable.names
  · intro f hf
    rcases List.mem_append.1 hf with hf | hf
    · exact writable.values f hf
    · simp only [List.mem_cons, List.not_mem_nil, or_false] at hf
      rcases hf with rfl | rfl | rfl
      · exact Json.readsBack_ofFloat _
      · exact Json.readsBack_ofFloat _
      · exact Json.readsBack_string _

/-- What minted claims say of use, subject and scopes is read off the token. -/
theorem issuedClaims_of_mint {s : Service} {claims : Claims} {use : Use} {subject : Option String}
    (writable : Writable claims use subject) {ttl : Int} {w : World} {t : String}
    (h : ((s.mint claims ttl).runIn w).1 = .ok t) :
    ∃ c, ReadsAs t c ∧ IssuedClaims c.claims use subject := by
  rcases exists_compose_of_mint h with ⟨expiry, signature, rfl⟩
  rcases writable.read_compose w.clock expiry (w.ids + 1) signature with ⟨c, read, timed⟩
  refine ⟨c, read, ?_, ?_, ?_⟩
  · rw [timed, lookup_timedClaims _ _ _ _ (by decide)]
    exact writable.type
  · rw [timed, lookup_timedClaims _ _ _ _ (by decide)]
    exact writable.subject
  · rw [timed, lookup_timedClaims _ _ _ _ (by decide)]
    exact writable.scope

/-- An issued token is read as claiming what it was issued with. -/
theorem claims_of_issued {t : String} {use : Use} {subject : Option String}
    (h : Issued t use subject) :
    ∃ c, ReadsAs t c ∧ IssuedClaims c.claims use subject := by
  cases h with
  | access h => exact issuedClaims_of_mint (writable_accessClaims _ _ _) h
  | refresh h => exact issuedClaims_of_mint (writable_refreshClaims _) h
  | temporary h => exact issuedClaims_of_mint (writable_temporaryClaims _) h

/-! ### What succeeds -/

section Succeeding

variable {s : Service}

/-- Under a plain secret a token is minted whenever it has an expiry, at no time at all. -/
theorem exists_run_mint (plain : PlainSecret s.tokens.secret) (claims : Claims) {ttl : Int}
    {w : World} {expiry : Float} (he : expiryOf w.clock ttl = .ok expiry) :
    ∃ token w', (s.mint claims ttl).runIn w = (.ok token, w') ∧ w'.clock = w.clock := by
  simp only [Service.mint, run_bind, run_now, run_liftFault, he, Except.mapError, run_freshId,
    seal_eq_issuedText plain, run_note, run_pure]
  exact ⟨_, _, rfl, rfl⟩

/-- Both tokens of a session have an expiry. -/
structure Lasting (s : Service) (now : Float) : Prop where
  access : ∃ expiry, expiryOf now s.tokens.accessTtl = .ok expiry
  refresh : ∃ expiry, expiryOf now s.tokens.refreshTtl = .ok expiry

/-- Under a plain secret a session is issued whenever its tokens have an expiry. -/
theorem exists_session_of_lasting (plain : PlainSecret s.tokens.secret) {w : World}
    (lasting : Lasting s w.clock) (m : Member) (refreshToken : Option String) :
    ∃ session, ((s.issue m refreshToken).runIn w).1 = .ok session := by
  rcases lasting.access with ⟨ea, access⟩
  rcases lasting.refresh with ⟨er, refresh⟩
  rcases exists_run_mint plain (accessClaims m.email m.role.scopeTexts m.id) access with
    ⟨a, w₁, first, clock⟩
  cases refreshToken with
  | some t =>
    simp only [Service.issue, Service.issueAccess, run_bind, first, run_pure]
    exact ⟨_, rfl⟩
  | none =>
    rcases exists_run_mint (w := w₁) plain (refreshClaims m.email) (clock ▸ refresh) with
      ⟨r, w₂, second, _⟩
    simp only [Service.issue, Service.issueAccess, Service.issueRefresh, run_bind, first, second,
      run_pure]
    exact ⟨_, rfl⟩

/-- A live token whose claims say so is a valid refresh token. -/
theorem validateRefresh_of_verified {p : Processor} {now : Float} {token : Option String}
    {claims : Claims} (h : p.verified now token = .ok claims) (live : isLive claims now = true)
    (type : Keyed.lookup claims "type" = some (.string Token.refresh)) :
    p.validateRefresh now token = .ok true := by
  simp [Processor.validateRefresh, h, softened, live, type, Json.isString, bind, Except.bind, pure,
    Except.pure]

/-- What a token says is what its claims show. -/
theorem exists_claims_shown {q : Processor} {token email : String} {granted : List String}
    {memberId : Option String} {type : String} {expiry : Float}
    (h : Says q token email granted memberId type expiry) (now : Float) :
    ∃ claims, q.verified now token = .ok claims ∧ isLive claims now = decide (now < expiry) ∧
      Keyed.lookup claims "type" = some (.string type) ∧ subject? claims = some email := by
  rcases h.verified now with ⟨claims, verified⟩
  refine ⟨claims, verified, ?_, ?_, ?_⟩
  · exact Except.ok.inj ((validate_of_verified verified).symm.trans (h.valid now))
  · have type := h.type now
    simpa [Processor.tokenType, verified, bind, Except.bind, pure, Except.pure] using type
  · have subject := h.subject now
    simp only [Processor.subject, verified, bind, Except.bind] at subject
    split at subject
    · next named =>
      rw [named, Except.ok.inj subject]
    · cases subject

variable {w : World} {t email : String} {m : Member}

/-- An access token stands for the enabled member with the address that it says, until it
expires, and then for nobody. -/
theorem run_resolveBearer_of_shown {granted : List String} {memberId : Option String}
    {expiry : Float} (shown : Says s.tokens t email granted memberId Token.access expiry)
    (w : World) :
    (s.resolveBearer t).runIn w =
      (.ok (if w.clock < expiry then (w.directory.findByEmail email).filter Member.enabled
        else none), w) := by
  rcases exists_claims_shown shown w.clock with ⟨claims, verified, lives, type, subject⟩
  rw [run_resolveBearer_of_verified verified, bearerOf, lives, type, subject]
  by_cases live : w.clock < expiry <;> simp [live, Json.isString]

/-- A live access token of an enabled member is accepted as a bearer token. -/
theorem accepts_bearer {granted : List String} {memberId : Option String} {expiry : Float}
    (shown : Says s.tokens t email granted memberId Token.access expiry) (live : w.clock < expiry)
    (found : w.directory.findByEmail email = some m) (enabled : m.enabled = true) :
    Accepts s w t .bearer := by
  refine ⟨m, ?_⟩
  rw [run_resolveBearer_of_shown shown]
  simp [live, found, Option.filter, enabled]

/-- A live refresh token of an enabled member renews a session. -/
theorem accepts_renewal (plain : PlainSecret s.tokens.secret) (lasting : Lasting s w.clock)
    {granted : List String} {memberId : Option String} {expiry : Float}
    (shown : Says s.tokens t email granted memberId Token.refresh expiry) (live : w.clock < expiry)
    (found : w.directory.findByEmail email = some m) (enabled : m.enabled = true) :
    Accepts s w t .renewal := by
  rcases exists_claims_shown shown w.clock with ⟨claims, verified, lives, type, _⟩
  have valid : s.tokens.validateRefresh w.clock t = .ok true :=
    validateRefresh_of_verified verified (by rw [lives, decide_eq_true live]) type
  rw [Accepts, Service.refresh, run_audited]
  simp only [run_bind, run_now, run_lift, run_directory, World.clock_logged,
    World.directory_logged, valid, asInvalid, shown.subject, found, enabled, Bool.not_true,
    Bool.false_eq_true, if_false, if_true]
  exact exists_session_of_lasting (w := w.logged _) plain lasting m t

/-- A member is saved under its own address. -/
theorem exists_run_save (new : Member) {m : Member}
    (found : w.directory.findByEmail email = some m) (sameId : new.id = m.id)
    (sameEmail : new.email = m.email) {stamp : String} (hs : Time.stampOf w.clock = .ok stamp) :
    ∃ stored w', (save new).runIn w = (.ok stored, w') ∧ w'.clock = w.clock := by
  have stored := (Directory.findByEmail_eq_some_iff.1 found).1
  have free := Directory.addressFree_of_stored stored sameId sameEmail
  exact ⟨_, _, run_save_of_addressFree free hs, rfl⟩

/-- A live password-setup token sets the password of the member that has its address and no
password yet. -/
theorem exists_session_of_setInitialPassword (plain : PlainSecret s.tokens.secret)
    (lasting : Lasting s w.clock) {claimed : Option Json}
    (confirmed : confirmedEmail s.tokens w.clock t = .ok email)
    (memberId : s.tokens.memberId w.clock t = .ok claimed)
    (found : w.directory.findByEmail email = some m) (unclaimed : m.hasPassword = false)
    {password : Option String} {bytes : Bytes} (hb : Password.secretBytes password = .ok bytes)
    {stamp : String} (hs : Time.stampOf w.clock = .ok stamp) :
    ∃ session, ((s.setInitialPassword t password).runIn w).1 = .ok session := by
  have free : (some m).any Member.hasPassword = false := unclaimed
  rw [Service.setInitialPassword, run_audited]
  obtain ⟨w₁, clock₁, directory₁, hw⟩ : ∃ w₁ : World, w₁.clock = w.clock ∧
    w₁.directory = w.directory ∧ w₁ = w.logged (Audit.attempt "set_initial_password") :=
    ⟨w.logged _, rfl, rfl, rfl⟩
  rw [← hw]
  rw [← clock₁] at lasting confirmed memberId hs
  rw [← directory₁] at found
  obtain ⟨stored, w₂, saved, clock₂⟩ := exists_run_save
    { m with
      passwordDigest := some (Password.Digest.ofSecret 'b' s.verifier.cost
        (Password.salt (w₁.salts + 1)) bytes).render
      enabled := true }
    (w := { w₁ with salts := w₁.salts + 1 }) found rfl rfl hs
  simp only [run_bind, run_setupEmail, run_now, run_lift, run_directory, confirmed, memberId,
    found, free, Bool.false_eq_true, if_false, Service.establish, run_digest, hb, saved]
  exact exists_session_of_lasting plain (by rw [clock₂]; exact lasting) stored none

end Succeeding

/-! ## One use at most -/

/-- Whatever a text is, and whenever and with whichever members it is presented, and even to
services with different secrets: it is accepted for one use at most.  A password is set only by
a token that is accepted for setting one.  A token that was issued for a use, whoever its
subject is, is accepted for no other one. -/
theorem token_uses_never_cross (t : String) :
    (∀ s w use s' w' use', Accepts s w t use → Accepts s' w' t use' → use = use') ∧
      (∀ s w password session, ((s.setInitialPassword t password).runIn w).1 = .ok session →
        Accepts s w t .passwordSetup) ∧
      (∀ use subject, Issued t use subject → ∀ s w use', Accepts s w t use' → use' = use) := by
  refine ⟨?_, ?_, ?_⟩
  · intro s w use s' w' use' accepted accepted'
    rcases claims_of_accepts accepted with ⟨claims, verified, type⟩
    rcases claims_of_accepts accepted' with ⟨claims', verified', type'⟩
    rw [claims_unique verified verified', type'] at type
    simp only [Option.some.injEq, Json.string.injEq] at type
    exact (Use.type_injective type).symm
  · intro s w password session set
    exact accepts_of_setInitialPassword set
  · intro use subject issued s w use' accepted
    rcases claims_of_issued issued with ⟨c, read, carried⟩
    rcases claims_of_accepts accepted with ⟨claims, verified, type⟩
    rcases exists_read_of_verified verified with ⟨c', read', rfl⟩
    rw [ReadsAs.unique ⟨_, read'⟩ read, carried.type] at type
    simp only [Option.some.injEq, Json.string.injEq] at type
    exact (Use.type_injective type).symm

/-- A member without a password. -/
def newcomer : Member :=
  ⟨"m1", "a@x", .member, none, true, "", ""⟩

/-- The world at the end of 2023 with that member alone. -/
def newcomersWorld : World :=
  { World.start 1700000000.5 with directory := ⟨[newcomer], by decide, by decide⟩ }

/-- The newcomer is found under its address. -/
theorem newcomersWorld_newcomer : newcomersWorld.directory.findByEmail "a@x" = some newcomer := by
  decide

/-- The clock of that world shows a finite time. -/
theorem newcomersWorld_clock : (Number.toRat? newcomersWorld.clock).isSome := by
  decide +kernel

/-- Access and temporary tokens of that world last a quarter of an hour. -/
theorem newcomersWorld_short : expiryOf newcomersWorld.clock 900 = .ok 1700000900.5 ∧
    newcomersWorld.clock < 1700000900.5 := by
  have sum : (1700000000.5 : Float) + 900 = 1700000900.5 := by decide +kernel
  refine ⟨?_, show (1700000000.5 : Float) < _ by decide +kernel⟩
  rw [expiryOf, show Number.floatOfInt? 900 = some 900 by decide +kernel]
  exact congrArg Except.ok sum

/-- Refresh tokens of that world last a week. -/
theorem newcomersWorld_long : expiryOf newcomersWorld.clock 604800 = .ok 1700604800.5 ∧
    newcomersWorld.clock < 1700604800.5 := by
  have sum : (1700000000.5 : Float) + 604800 = 1700604800.5 := by decide +kernel
  refine ⟨?_, show (1700000000.5 : Float) < _ by decide +kernel⟩
  rw [expiryOf, show Number.floatOfInt? 604800 = some 604800 by decide +kernel]
  exact congrArg Except.ok sum

/-- At the end of 2023 the three tokens of a newcomer are each accepted for their own use, and
nowhere for any other; the temporary one sets a password, and the access token never does. -/
theorem newcomers_tokens_never_cross :
    ∃ a r t : String,
      (Issued a .bearer "a@x" ∧ Accepts plainService newcomersWorld a .bearer ∧
        ∀ s w use, Accepts s w a use → use = .bearer) ∧
      (Issued r .renewal "a@x" ∧ Accepts plainService newcomersWorld r .renewal ∧
        ∀ s w use, Accepts s w r use → use = .renewal) ∧
      (Issued t .passwordSetup "a@x" ∧ Accepts plainService newcomersWorld t .passwordSetup ∧
        ∀ s w use, Accepts s w t use → use = .passwordSetup) ∧
      (∃ session, ((plainService.setInitialPassword t "password").runIn newcomersWorld).1 =
        .ok session) ∧
      ∀ (s : Service) (w : World) (password : Option String) (session : Session),
        ((s.setInitialPassword a password).runIn w).1 ≠ .ok session := by
  have finite := newcomersWorld_clock
  obtain ⟨shortTtl, live⟩ := newcomersWorld_short
  obtain ⟨longTtl, liveLong⟩ := newcomersWorld_long
  have found := newcomersWorld_newcomer
  have lasting : Lasting plainService newcomersWorld.clock := ⟨⟨_, shortTtl⟩, ⟨_, longTtl⟩⟩
  obtain ⟨stamp, shown⟩ := exists_stamp
  -- the three tokens, what they say, and that they are accepted for what they say
  have bearer : Issued _ .bearer "a@x" :=
    .access
      (run_mint (w := newcomersWorld) plainService_secret (accessClaims "a@x" [] "m1") shortTtl)
  have renewal : Issued _ .renewal "a@x" :=
    .refresh (run_mint (w := newcomersWorld) plainService_secret (refreshClaims "a@x") longTtl)
  have setup : Issued _ .passwordSetup "a@x" :=
    .temporary
      (run_mint (w := newcomersWorld) plainService_secret (temporaryClaims ⟨"a@x", "m1"⟩) shortTtl)
  have saysBearer := says_issuedText plainService_secret
    (carries_accessClaims "a@x" (show ∀ x ∈ ([] : List String), IsWord x by simp) "m1")
    (by decide) (by simp [inOrder]) finite 1700000900.5 1
  have saysRenewal := says_issuedText plainService_secret (carries_refreshClaims "a@x") (by decide)
    (by simp) finite 1700604800.5 1
  have saysSetup := says_issuedText plainService_secret (carries_temporaryClaims ⟨"a@x", "m1"⟩)
    (by decide) (by simp) finite 1700000900.5 1
  have asBearer := accepts_bearer saysBearer live found rfl
  have asRenewal := accepts_renewal plainService_secret lasting saysRenewal liveLong found rfl
  have confirmed := confirmedEmail_issuedText plainService_secret
    (show (⟨"a@x", "m1"⟩ : SetupGrant).email ≠ "" by decide) finite 1 live
  have set := exists_session_of_setInitialPassword plainService_secret lasting confirmed
    (saysSetup.memberId newcomersWorld.clock) found (by decide) secretBytes_password shown
  -- the theorem at each of them
  obtain ⟨onlyBearer, setsPassword, _⟩ := token_uses_never_cross (issuedText "secret"
    (accessClaims "a@x" [] "m1") 1700000000.5 1700000900.5 1)
  obtain ⟨_, _, onlyRenewal⟩ := token_uses_never_cross (issuedText "secret"
    (refreshClaims "a@x") 1700000000.5 1700604800.5 1)
  obtain ⟨_, setsPassword', onlySetup⟩ := token_uses_never_cross (issuedText "secret"
    (temporaryClaims ⟨"a@x", "m1"⟩) 1700000000.5 1700000900.5 1)
  have asBearerOnly : ∀ s w use, Accepts s w (issuedText "secret" (accessClaims "a@x" [] "m1")
      1700000000.5 1700000900.5 1) use → use = .bearer := fun s w use accepted =>
    onlyBearer s w use _ _ _ accepted asBearer
  obtain ⟨session, done⟩ := set
  have asSetup := setsPassword' _ _ _ _ done
  refine ⟨_, _, _, ⟨bearer, asBearer, asBearerOnly⟩,
    ⟨renewal, asRenewal, onlyRenewal _ _ renewal⟩, ⟨setup, asSetup, onlySetup _ _ setup⟩,
    ⟨session, done⟩, ?_⟩
  intro s w password session' done'
  exact absurd (asBearerOnly _ _ _ (setsPassword _ _ _ _ done')) (by decide)

end Gatehouse.Account
