import Gatehouse.Proofs.Account.FailureCauses
import Gatehouse.Proofs.Account.FirstPassword
import Gatehouse.Proofs.Account.Renewal

/-!
# How the validators agree

There are three ways to ask whether a token is valid: at all, as a refresh token, and as a
password-setup token for an address.  They look at signature, expiry, type and purpose in different
orders, and one of them refuses where another one answers no.  Wherever the first one answers, the
other two differ from its answer only by what the claims of the token say, and the address that a
password-setup token is confirmed for is the one that the last of them accepts.

A token whose claims have no number for an expiry counts as expired throughout.

Main results:

- `verified_eq_ok_iff`: the tokens that verify are the ones that were signed under the secret, with
  claims that pass the checks.
- `validateTemporary_eq_ok_iff`: where the validation of a password-setup token has an answer.
- `validators_agree`: what the answers have to do with each other.
-/

namespace Gatehouse.Token

open Gatehouse.Text

/-! ## Tokens with a right signature -/

/-- A text is a token that was signed under the secret of a processor, with certain claims, and can
be read by it. -/
def SignedUnder (p : Processor) (t : String) (claims : Claims) : Prop :=
  ∃ c, Structured p.nesting t c ∧ c.signature = Digest.mac (utf8 p.secret) c.signed ∧
    c.claims = claims

/-- Claims are those of a password-setup token. -/
def ForSetup (claims : Claims) : Prop :=
  Keyed.lookup claims "type" = some (.string temporary) ∧
    Keyed.lookup claims "purpose" = some (.string passwordSetup)

section Validation

variable {p : Processor} {now : Float} {t : String} {claims : Claims} {email : Option String}
  {answer : Bool}

/-- Under a plain secret the tokens that verify are the ones that were signed under it, with claims
that pass the checks. -/
theorem verified_eq_ok_iff (plain : PlainSecret p.secret) :
    p.verified now t = .ok claims ↔ SignedUnder p t claims ∧ check claims now = .ok () := by
  constructor
  · intro verified
    unfold Processor.verified at verified
    split at verified
    · cases verified
    · next c read =>
      rw [plain.verify_eq] at verified
      by_cases signed : Digest.mac (utf8 p.secret) c.signed = c.signature
      · simp only [signed, decide_true] at verified
        split at verified
        · next checked =>
          rcases Except.ok.inj verified with rfl
          exact ⟨⟨c, read_eq_ok_iff.1 read, signed.symm, rfl⟩, checked⟩
        · cases verified
        · cases verified
      · simp only [signed, decide_false] at verified
        cases verified
  · rintro ⟨⟨c, structured, signed, rfl⟩, checked⟩
    simp only [Processor.verified, read_eq_ok_iff.2 structured, plain.verify_eq, signed,
      decide_true, checked]

/-- A text has the claims of one token at most. -/
theorem SignedUnder.unique {q : Processor} {claims' : Claims} (h : SignedUnder p t claims)
    (h' : SignedUnder q t claims') : claims = claims' := by
  rcases h with ⟨c, structured, _, rfl⟩
  rcases h' with ⟨c', structured', _, rfl⟩
  rw [ReadsAs.unique ⟨_, read_eq_ok_iff.2 structured⟩ ⟨_, read_eq_ok_iff.2 structured'⟩]

/-- What holds of some claims of a token that verifies holds of those that it verifies with. -/
theorem exists_signedUnder_iff (plain : PlainSecret p.secret)
    (verified : p.verified now t = .ok claims) (holds : Claims → Prop) :
    (∃ claims', SignedUnder p t claims' ∧ holds claims') ↔ holds claims := by
  have signed := ((verified_eq_ok_iff plain).1 verified).1
  constructor
  · rintro ⟨claims', signed', h⟩
    exact signed'.unique signed ▸ h
  · exact fun h => ⟨claims, signed, h⟩

/-- Where validation answers, the token verifies and the answer is whether it is live, or the
answer is no because it does not verify. -/
theorem validate_eq_ok_cases (h : p.validate now t = .ok answer) :
    (∃ claims, p.verified now t = .ok claims ∧ answer = isLive claims now) ∨
      ∃ u, p.verified now t = .error (.refused (.unverifiedToken u)) ∧ answer = false := by
  cases verified : p.verified now t with
  | ok claims =>
    rw [validate_of_verified verified] at h
    exact .inl ⟨claims, rfl, (Except.ok.inj h).symm⟩
  | error e =>
    rcases verified_error_cases verified with ⟨b, rfl⟩ | ⟨u, rfl⟩ | ⟨f, rfl⟩
    · rw [(validate_of_error verified rfl).1] at h
      cases h
    · rw [(validate_of_unverified verified).1] at h
      exact .inr ⟨u, rfl, (Except.ok.inj h).symm⟩
    · rw [(validate_of_error verified rfl).1] at h
      cases h

/-! ## Password-setup tokens -/

/-- Claims are those of a password-setup token exactly when the check of type and purpose says
so. -/
theorem forSetup_iff :
    (Json.isString (Keyed.lookup claims "type") temporary &&
        Json.isString (Keyed.lookup claims "purpose") passwordSetup) = true ↔ ForSetup claims := by
  rw [Bool.and_eq_true, Json.isString_eq_true_iff, Json.isString_eq_true_iff, ForSetup]

/-- A token that verifies and is not for password setup is refused. -/
theorem validateTemporary_of_not_forSetup (verified : p.verified now t = .ok claims)
    (other : ¬ ForSetup claims) (email : Option String) :
    p.validateTemporary now t email = .error (.refused .notSetup) := by
  have check := Bool.eq_false_iff.2 (mt forSetup_iff.1 other)
  simp [Processor.validateTemporary, verified, asInvalid, check, bind, Except.bind, throw,
    throwThe, MonadExceptOf.throw]

/-- A token that verifies and is for password setup is valid for the address that it names, if it
names one, while it is live. -/
theorem exists_validateTemporary_of_forSetup (verified : p.verified now t = .ok claims)
    (setup : ForSetup claims) (email : Option String) :
    ∃ answer, p.validateTemporary now t email = .ok answer ∧
      (answer = true ↔
        isLive claims now = true ∧ Keyed.lookup claims "sub" = email.map Json.string) := by
  have check := forSetup_iff.2 setup
  cases live : isLive claims now with
  | false =>
    refine ⟨false, ?_, by simp⟩
    simp [Processor.validateTemporary, verified, asInvalid, check, live, bind, Except.bind, pure,
      Except.pure]
  | true =>
    cases email with
    | none =>
      refine ⟨(Keyed.lookup claims "sub").isNone, ?_, by simp⟩
      simp [Processor.validateTemporary, verified, asInvalid, check, live, bind, Except.bind, pure,
        Except.pure]
    | some e =>
      refine ⟨Json.isString (Keyed.lookup claims "sub") e, ?_, by
        simp [Json.isString_eq_true_iff]⟩
      simp [Processor.validateTemporary, verified, asInvalid, check, live, bind, Except.bind, pure,
        Except.pure]

/-- The validation of a password-setup token has an answer exactly for the tokens that verify and
are for password setup, and the answer is whether they are live and name the address. -/
theorem validateTemporary_eq_ok_iff :
    p.validateTemporary now t email = .ok answer ↔
      ∃ claims, p.verified now t = .ok claims ∧ ForSetup claims ∧
        (answer = true ↔
          isLive claims now = true ∧ Keyed.lookup claims "sub" = email.map Json.string) := by
  constructor
  · intro answered
    cases verified : p.verified now t with
    | error e =>
      rcases exists_asInvalid_error (α := Claims) e with ⟨e', same⟩
      rw [validateTemporary_of_error verified same] at answered
      cases answered
    | ok claims =>
      by_cases setup : ForSetup claims
      · rcases exists_validateTemporary_of_forSetup verified setup email with ⟨a, answers, iff⟩
        rcases Except.ok.inj (answers.symm.trans answered) with rfl
        exact ⟨claims, rfl, setup, iff⟩
      · rw [validateTemporary_of_not_forSetup verified setup] at answered
        cases answered
  · rintro ⟨claims, verified, setup, iff⟩
    rcases exists_validateTemporary_of_forSetup verified setup email with ⟨a, answers, iff'⟩
    rw [answers, Bool.eq_iff_iff.2 (iff'.trans iff.symm)]

/-- Where validation answers, the validation of a password-setup token answers or refuses the token
as an invalid one. -/
theorem refuses_validateTemporary (h : p.validate now t = .ok answer)
    (none : ∀ a, p.validateTemporary now t email ≠ .ok a) :
    Refuses (p.validateTemporary now t email) .invalidToken := by
  rcases validate_eq_ok_cases h with ⟨claims, verified, _⟩ | ⟨u, unverified, _⟩
  · by_cases setup : ForSetup claims
    · rcases exists_validateTemporary_of_forSetup verified setup email with ⟨a, answers, _⟩
      exact absurd answers (none a)
    · exact ⟨_, validateTemporary_of_not_forSetup verified setup email, rfl⟩
  · exact ⟨_, validateTemporary_of_error unverified rfl email, rfl⟩

end Validation

end Gatehouse.Token

namespace Gatehouse.Account

open Gatehouse.Text Gatehouse.Token Gatehouse.Flow

/-! ## Agreement -/

/-- Validation as a refresh token answers as validation does, except that a token of another type is
refused where it would be valid. -/
structure RefreshAgrees (p : Processor) (now : Float) (t : String) : Prop where
  rejects_iff : p.validateRefresh now t = .ok false ↔ p.validate now t = .ok false
  accepts_iff : p.validateRefresh now t = .ok true ↔
    p.validate now t = .ok true ∧ ∃ claims, SignedUnder p t claims ∧
      Keyed.lookup claims "type" = some (.string Token.refresh)
  refuses_iff : Refuses (p.validateRefresh now t) .invalidToken ↔
    p.validate now t = .ok true ∧ ∃ claims, SignedUnder p t claims ∧
      Keyed.lookup claims "type" ≠ some (.string Token.refresh)

/-- Validation as a password-setup token accepts the valid tokens of that kind that name the
address, and rejects only tokens of that kind with a right signature that have expired or name
another subject; all others it refuses. -/
structure TemporaryAgrees (p : Processor) (now : Float) (t : String) (email : Option String) :
    Prop where
  accepts_iff : p.validateTemporary now t email = .ok true ↔
    p.validate now t = .ok true ∧ ∃ claims, SignedUnder p t claims ∧ ForSetup claims ∧
      Keyed.lookup claims "sub" = email.map Json.string
  rejects_iff : p.validateTemporary now t email = .ok false ↔
    ∃ claims, SignedUnder p t claims ∧ check claims now = .ok () ∧ ForSetup claims ∧
      (isLive claims now = false ∨ Keyed.lookup claims "sub" ≠ email.map Json.string)
  refuses : (∀ answer, p.validateTemporary now t email ≠ .ok answer) →
    Refuses (p.validateTemporary now t email) .invalidToken

/-- The address that a token confirms is the one for which it is valid as a password-setup token; a
token that confirms none is refused.  Nothing happens to the world. -/
structure ConfirmationAgrees (s : Service) (w : World) (t : String) : Prop where
  confirms_iff : ∀ email, ((s.setupEmail t).runIn w).1 = .ok email ↔
    email ≠ "" ∧ s.tokens.validateTemporary w.clock t email = .ok true
  refuses : (∀ email, ((s.setupEmail t).runIn w).1 ≠ .ok email) →
    Refuses ((s.setupEmail t).runIn w).1 .invalidToken
  untouched : ((s.setupEmail t).runIn w).2 = w

section Agreement

variable {p : Processor} {s : Service} {w : World} {now : Float} {t : String} {answer : Bool}

/-- Validation as a refresh token agrees with validation. -/
theorem refreshAgrees_of_validate (plain : PlainSecret p.secret)
    (h : p.validate now t = .ok answer) : RefreshAgrees p now t := by
  rcases validate_eq_ok_cases h with ⟨claims, verified, _⟩ | ⟨u, unverified, _⟩
  · have valid := validate_of_verified verified
    have validRefresh := validateRefresh_eq_of_verified verified
    have renews := exists_signedUnder_iff plain verified fun claims =>
      Keyed.lookup claims "type" = some (.string Token.refresh)
    have differs := exists_signedUnder_iff plain verified fun claims =>
      Keyed.lookup claims "type" ≠ some (.string Token.refresh)
    cases live : isLive claims now with
    | false =>
      rw [live] at valid validRefresh
      constructor <;> simp [valid, validRefresh, Refuses]
    | true =>
      rw [live, if_pos rfl] at validRefresh
      rw [live] at valid
      by_cases renewal : Keyed.lookup claims "type" = some (.string Token.refresh)
      · rw [if_pos (Json.isString_eq_true_iff.2 renewal)] at validRefresh
        constructor <;> simp [valid, validRefresh, renews, differs, renewal, Refuses]
      · rw [if_neg (mt Json.isString_eq_true_iff.1 renewal)] at validRefresh
        have kind : (Cause.notRefresh (Keyed.lookup claims "type")).kind = .invalidToken := rfl
        constructor <;> simp [valid, validRefresh, renews, differs, renewal, Refuses, kind]
  · rcases validate_of_unverified unverified with ⟨valid, validRefresh⟩
    constructor <;> simp [valid, validRefresh, Refuses]

/-- Validation as a password-setup token agrees with validation. -/
theorem temporaryAgrees_of_validate (plain : PlainSecret p.secret)
    (h : p.validate now t = .ok answer) (email : Option String) :
    TemporaryAgrees p now t email := by
  refine ⟨?_, ?_, refuses_validateTemporary h⟩
  · rw [validateTemporary_eq_ok_iff]
    constructor
    · rintro ⟨claims, verified, setup, iff⟩
      rcases iff.1 rfl with ⟨live, names⟩
      refine ⟨by rw [validate_of_verified verified, live], ?_⟩
      exact ⟨claims, ((verified_eq_ok_iff plain).1 verified).1, setup, names⟩
    · rintro ⟨valid, claims, signed, setup, names⟩
      rcases validate_eq_ok_cases valid with ⟨claims', verified, live⟩ | ⟨_, _, impossible⟩
      · rcases ((verified_eq_ok_iff plain).1 verified).1.unique signed with rfl
        exact ⟨claims', verified, setup, iff_of_true rfl ⟨live.symm, names⟩⟩
      · cases impossible
  · rw [validateTemporary_eq_ok_iff]
    have denied (claims : Claims) : ((false : Bool) = true ↔ isLive claims now = true ∧
        Keyed.lookup claims "sub" = email.map Json.string) ↔
        isLive claims now = false ∨ Keyed.lookup claims "sub" ≠ email.map Json.string := by
      rw [← Bool.not_eq_true, ne_eq, ← not_and_or]
      simp
    constructor
    · rintro ⟨claims, verified, setup, iff⟩
      rcases (verified_eq_ok_iff plain).1 verified with ⟨signed, checked⟩
      exact ⟨claims, signed, checked, setup, (denied claims).1 iff⟩
    · rintro ⟨claims, signed, checked, setup, reason⟩
      exact ⟨claims, (verified_eq_ok_iff plain).2 ⟨signed, checked⟩, setup,
        (denied claims).2 reason⟩

/-- A token is a live password-setup token for an address exactly when it is valid as one, and the
address is not empty. -/
theorem exists_setupToken_iff {email : String} :
    (∃ claims, SetupToken p now t claims email) ↔
      email ≠ "" ∧ p.validateTemporary now t email = .ok true := by
  rw [validateTemporary_eq_ok_iff]
  constructor
  · rintro ⟨claims, setup⟩
    exact ⟨setup.named, claims, setup.verified, ⟨setup.type, setup.purpose⟩,
      iff_of_true rfl ⟨setup.live, setup.subject⟩⟩
  · rintro ⟨named, claims, verified, setup, iff⟩
    rcases iff.1 rfl with ⟨live, subject⟩
    exact ⟨claims, verified, live, setup.1, setup.2, subject, named⟩

/-- Where validation answers, a token that confirms no address is refused as an invalid one. -/
theorem refuses_confirmedEmail (h : p.validate now t = .ok answer)
    (none : ∀ email, confirmedEmail p now t ≠ .ok email) :
    Refuses (confirmedEmail p now t) .invalidToken := by
  rcases validate_eq_ok_cases h with ⟨claims, verified, _⟩ | ⟨u, unverified, _⟩
  · cases named : subject? claims with
    | none =>
      refine ⟨.noSubject, ?_, rfl⟩
      simp [confirmedEmail, Processor.subject, verified, named, asInvalid, bind, Except.bind,
        throw, throwThe, MonadExceptOf.throw]
    | some email =>
      have subject : p.subject now t = .ok email := by
        simp [Processor.subject, verified, named, bind, Except.bind, pure, Except.pure]
      have outcome : confirmedEmail p now t =
          (p.validateTemporary now t email).bind fun valid =>
            if valid then .ok email else .error (.refused .setupExpired) := by
        simp only [confirmedEmail, subject, asInvalid, bind, Except.bind]
        rfl
      by_cases answers : ∃ a, p.validateTemporary now t email = .ok a
      · rcases answers with ⟨a, answers⟩
        rw [answers] at outcome
        cases a with
        | false => exact ⟨_, outcome, rfl⟩
        | true => exact absurd outcome (none email)
      · rcases refuses_validateTemporary h (not_exists.1 answers) with ⟨c, refused, kind⟩
        rw [refused] at outcome
        exact ⟨c, outcome, kind⟩
  · refine ⟨.unverifiedToken u, ?_, rfl⟩
    simp [confirmedEmail, (extract_of_error unverified).1, asInvalid, bind, Except.bind]

/-- Confirming an address agrees with validation as a password-setup token. -/
theorem confirmationAgrees_of_validate (h : s.tokens.validate w.clock t = .ok answer) :
    ConfirmationAgrees s w t := by
  constructor <;> rw [run_setupEmail]
  · intro email
    rw [← exists_setupToken_iff, ← confirmedEmail_iff]
  · exact refuses_confirmedEmail h

end Agreement

/-- The validators agree with each other.  Under a plain secret, at every time and for every text on
which validation answers, validation as a refresh token answers the same up to the type of the
token, validation as a password-setup token answers yes for the valid tokens of that kind that name
the address and no for others of that kind, and an address is confirmed exactly if the latter
accepts it. -/
theorem validators_agree (s : Service) (plain : PlainSecret s.tokens.secret) (w : World)
    (t : String) (answer : Bool) (answered : s.tokens.validate w.clock t = .ok answer) :
    RefreshAgrees s.tokens w.clock t ∧
      (∀ email, TemporaryAgrees s.tokens w.clock t email) ∧ ConfirmationAgrees s w t :=
  ⟨refreshAgrees_of_validate plain answered, temporaryAgrees_of_validate plain answered,
    confirmationAgrees_of_validate answered⟩

/-- The newcomer's token is valid, though not as a refresh token, and confirms the newcomer's
address. -/
theorem validators_agree_on_newcomers_token :
    plainService.tokens.validate newcomersWorld.clock arrivalToken = .ok true ∧
      Refuses (plainService.tokens.validateRefresh newcomersWorld.clock arrivalToken)
        .invalidToken ∧
      plainService.tokens.validateTemporary newcomersWorld.clock arrivalToken "b@x" = .ok false ∧
      ((plainService.setupEmail arrivalToken).runIn newcomersWorld).1 = .ok "a@x" := by
  obtain ⟨claims, setup, _⟩ := exists_newcomersClaims
  have valid : plainService.tokens.validate newcomersWorld.clock arrivalToken = .ok true := by
    rw [validate_of_verified setup.verified, setup.live]
  have signed := (verified_eq_ok_iff plainService_secret).1 setup.verified
  obtain ⟨asRefresh, asSetup, confirmation⟩ := validators_agree plainService plainService_secret
    newcomersWorld arrivalToken true valid
  refine ⟨valid, asRefresh.refuses_iff.2 ⟨valid, claims, signed.1, ?_⟩,
    (asSetup "b@x").rejects_iff.2
      ⟨claims, signed.1, signed.2, ⟨setup.type, setup.purpose⟩, .inr ?_⟩,
    (confirmation.confirms_iff "a@x").2 (exists_setupToken_iff.1 ⟨claims, setup⟩)⟩
  · rw [setup.type]
    simp [temporary, Token.refresh]
  · rw [setup.subject]
    simp

end Gatehouse.Account
