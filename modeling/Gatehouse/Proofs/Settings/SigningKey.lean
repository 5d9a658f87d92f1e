import Gatehouse.Proofs.Account.Orders
import Gatehouse.Web.Handler

/-!
# Signing keys that settings take

Settings ask of a signing key that it is long enough, and of nothing else.  Signing takes the key
as it stands, while verification reads it as JSON first.  A token that is issued under a key is
valid until it expires exactly if one of the values that the key stands for gives the token the
same code as the key itself, with no value before it that is no key at all.

Main results:

- `verifyAny_eq_true_iff`: which signatures a list of candidates verifies.
- `OwnCode`: a key verifies its own code of a message.
- `Issuable.valid_iff_ownCode`: a token is valid until its expiry exactly if its key verifies its
  own code of it.
- `accepted_key_works_iff`: which tokens work under a key that settings take.
-/

namespace Gatehouse.Token

open Gatehouse.Text Gatehouse.Number

/-! ## Candidates -/

/-- A list of candidates verifies a signature exactly if one of them makes it and every candidate
before that one is a key. -/
theorem verifyAny_eq_true_iff {message signature : Bytes} {cs : List Candidate} :
    verifyAny message signature cs = .ok true ↔
      ∃ before c after key, cs = before ++ c :: after ∧ (∀ b ∈ before, ∃ k, b.bytes = .ok k) ∧
        c.bytes = .ok key ∧ Digest.mac key message = signature := by
  induction cs with
  | nil => simp [verifyAny]
  | cons c cs ih =>
    cases bytes : c.bytes with
    | error e =>
      simp only [verifyAny, bytes, reduceCtorEq, false_iff]
      rintro ⟨before, d, after, key, split, keys, decides, _⟩
      cases before with
      | nil =>
        rcases (List.cons.inj split).1 with rfl
        rw [bytes] at decides
        cases decides
      | cons b before =>
        rcases (List.cons.inj split).1 with rfl
        rcases keys c List.mem_cons_self with ⟨k, usable⟩
        rw [bytes] at usable
        cases usable
    | ok key =>
      by_cases made : Digest.mac key message = signature
      · simp only [verifyAny, bytes, made, if_true, true_iff]
        exact ⟨[], c, cs, key, rfl, by simp, bytes, made⟩
      · simp only [verifyAny, bytes, made, if_false, ih]
        constructor
        · rintro ⟨before, d, after, k, rfl, keys, decides, makes⟩
          refine ⟨c :: before, d, after, k, rfl, ?_, decides, makes⟩
          exact List.forall_mem_cons.2 ⟨⟨key, bytes⟩, keys⟩
        · rintro ⟨before, d, after, k, split, keys, decides, makes⟩
          cases before with
          | nil =>
            rcases (List.cons.inj split).1 with rfl
            rcases Except.ok.inj (bytes.symm.trans decides) with rfl
            exact absurd makes made
          | cons b before =>
            exact ⟨before, d, after, k, (List.cons.inj split).2,
              fun x hx => keys x (List.mem_cons_of_mem _ hx), decides, makes⟩

/-! ## A key and its own code -/

/-- A key verifies its own code of a message: one of the values that it stands for gives the
message that code, and every value before that one is a key. -/
def OwnCode (secret : String) (message : Bytes) : Prop :=
  ∃ before c after key, candidates secret = .ok (before ++ c :: after) ∧
    (∀ b ∈ before, ∃ k, b.bytes = .ok k) ∧ c.bytes = .ok key ∧
    Digest.mac key message = Digest.mac (utf8 secret) message

/-- The code of a key is verified exactly if the key verifies its own code. -/
theorem verify_mac_iff {secret : String} {message : Bytes} :
    verify secret message (Digest.mac (utf8 secret) message) = .ok true ↔
      OwnCode secret message := by
  unfold verify OwnCode
  cases candidates secret with
  | error e => simp
  | ok cs => simp only [verifyAny_eq_true_iff, Except.ok.injEq]

/-- A plain secret verifies its own code of every message. -/
theorem PlainSecret.ownCode {secret : String} (plain : PlainSecret secret) (message : Bytes) :
    OwnCode secret message :=
  verify_mac_iff.1 (by simp [plain.verify_eq])

/-- A key that is the JSON text of a string verifies its own code of a message exactly if that
string is a key and gives the message the same code. -/
theorem ownCode_of_string_iff {secret inner : String}
    (h : Json.readUnbounded secret = .ok (.string inner)) (message : Bytes) :
    OwnCode secret message ↔ looksForeign inner = false ∧
      Digest.mac (utf8 inner) message = Digest.mac (utf8 secret) message := by
  have alone : candidates secret = .ok [.text inner] := by
    simp [candidates, h, Candidate.ofJson]
  rw [← verify_mac_iff, verify, alone]
  cases foreign : looksForeign inner with
  | true => simp [verifyAny, Candidate.bytes, foreign]
  | false =>
    by_cases same : Digest.mac (utf8 inner) message = Digest.mac (utf8 secret) message <;>
      simp [verifyAny, Candidate.bytes, foreign, same]

/-! ## Tokens of a key -/

/-- The text that is signed for claims. -/
def signedBytes (claims : Claims) (issuedAt expiry : Float) (serial : Nat) : Bytes :=
  textBytes (signingText (payload claims issuedAt expiry serial))

/-- Claims are sealed under every key that is no key of another kind. -/
theorem seal_eq_ok_iff {p : Processor} {claims : Claims} {now expiry : Float} {serial : Nat}
    {t : String} :
    p.seal claims now expiry serial = .ok t ↔
      looksForeign p.secret = false ∧ t = issuedText p.secret claims now expiry serial := by
  unfold Processor.seal sign
  cases looksForeign p.secret with
  | true => simp [Except.map]
  | false =>
    simp only [Bool.false_eq_true, if_false, Except.map, Except.ok.injEq, true_and]
    exact eq_comm

namespace Issuable

variable {claims : Claims} (h : Issuable claims) {issuedAt expiry : Float} (serial : Nat)
include h

/-- An issued token is valid until its expiry exactly if its key verifies its own code of it. -/
theorem valid_iff_ownCode {p : Processor} (finite : (toRat? issuedAt).isSome) {now : Float}
    (live : now < expiry) :
    p.validate now (issuedText p.secret claims issuedAt expiry serial) = .ok true ↔
      OwnCode p.secret (signedBytes claims issuedAt expiry serial) := by
  have read := read_compose (h.names_timed issuedAt expiry serial)
    (h.values_timed issuedAt expiry serial)
    (Digest.mac (utf8 p.secret) (signedBytes claims issuedAt expiry serial))
  have checked : check (timedClaims claims issuedAt expiry serial) now = .ok () :=
    h.check_timed serial finite now
  have message : textBytes (signingText (.object (timedClaims claims issuedAt expiry serial))) =
      signedBytes claims issuedAt expiry serial := rfl
  rw [message] at read
  rw [← verify_mac_iff, issuedText, message]
  generalize compose (.object (timedClaims claims issuedAt expiry serial))
    (Digest.mac (utf8 p.secret) (signedBytes claims issuedAt expiry serial)) = t at read ⊢
  cases outcome : verify p.secret (signedBytes claims issuedAt expiry serial)
      (Digest.mac (utf8 p.secret) (signedBytes claims issuedAt expiry serial)) with
  | error f =>
    have verified : p.verified now t = .error (.fault f) := by
      simp only [Processor.verified, read, outcome]
    simpa using (not_valid_of_error verified).1
  | ok own =>
    cases own with
    | false =>
      have verified : p.verified now t = .error (.refused (.unverifiedToken .signature)) := by
        simp only [Processor.verified, read, outcome]
      simpa using (not_valid_of_error verified).1
    | true =>
      have verified : p.verified now t = .ok (timedClaims claims issuedAt expiry serial) := by
        simp only [Processor.verified, read, outcome, checked]
      simp [validate_of_verified verified, h.isLive_timed serial now, live]

end Issuable

end Gatehouse.Token

namespace Gatehouse.Account

open Gatehouse.Text Gatehouse.Token Gatehouse.Flow

/-! ## Tokens that work -/

/-- A token is issued and is valid until it expires. -/
def Order.Works (s : Service) (w : World) (o : Order) : Prop :=
  ∃ t expiry, ((o.issue s).runIn w).1 = .ok t ∧ expiryOf w.clock (o.ttl s.tokens) = .ok expiry ∧
    ∀ now, now < expiry → s.tokens.validate now t = .ok true

/-- Minting succeeds exactly if the token has an expiry and the key is no key of another kind. -/
theorem run_mint_eq_ok_iff {s : Service} {claims : Claims} {ttl : Int} {w : World} {t : String} :
    ((s.mint claims ttl).runIn w).1 = .ok t ↔
      looksForeign s.tokens.secret = false ∧ ∃ expiry, expiryOf w.clock ttl = .ok expiry ∧
        t = issuedText s.tokens.secret claims w.clock expiry (w.ids + 1) := by
  unfold Service.mint
  simp only [run_bind, run_now, run_liftFault, run_freshId, run_note, run_pure]
  cases expiryOf w.clock ttl with
  | error f => simp [Except.mapError]
  | ok expiry =>
    simp only [Except.mapError, Except.ok.injEq, exists_eq_left', ← seal_eq_ok_iff]
    cases s.tokens.seal claims w.clock expiry (w.ids + 1) <;> simp

/-- A token works exactly if the key is no key of another kind, the token has an expiry, and the
key verifies its own code of the token, unless no time is before the expiry. -/
theorem Order.works_iff {s : Service} {w : World} (o : Order)
    (finite : (Number.toRat? w.clock).isSome) :
    o.Works s w ↔ looksForeign s.tokens.secret = false ∧
      ∃ expiry, expiryOf w.clock (o.ttl s.tokens) = .ok expiry ∧
        ((∃ now, now < expiry) →
          OwnCode s.tokens.secret (signedBytes o.claims w.clock expiry (w.ids + 1))) := by
  simp only [Order.Works, o.issue_eq_mint, run_mint_eq_ok_iff]
  constructor
  · rintro ⟨t, expiry, ⟨native, expiry', times', rfl⟩, times, works⟩
    rcases Except.ok.inj (times'.symm.trans times) with rfl
    refine ⟨native, _, times, ?_⟩
    rintro ⟨now, live⟩
    exact (o.issuable_claims.valid_iff_ownCode _ finite live).1 (works now live)
  · rintro ⟨native, expiry, times, own⟩
    refine ⟨_, expiry, ⟨native, expiry, times, rfl⟩, times, fun now live => ?_⟩
    exact (o.issuable_claims.valid_iff_ownCode _ finite live).2 (own ⟨now, live⟩)

/-! ## Keys that settings take -/

/-- The signing key of settings is long enough. -/
theorem shortestKey_le_of_load {fresh : String} {environment : Keyed String} {file : Option String}
    {settings : Settings} {lines : List LogLine}
    (accepted : Settings.load fresh environment file = .ok (settings, lines)) :
    Settings.shortestKey ≤ settings.secretKey.length := by
  unfold Settings.load at accepted
  cases inEnvironment : Settings.decodeLists (.of environment file) .environment with
  | error f => simp [inEnvironment, bind, Except.bind] at accepted
  | ok listed =>
    cases inFile : Settings.decodeLists (.of environment file) .file with
    | error f => simp [inEnvironment, inFile, bind, Except.bind] at accepted
    | ok more =>
      simp only [inEnvironment, inFile, bind, Except.bind] at accepted
      split at accepted
      · next gathered _ =>
        cases settled : Settings.settleKey gathered.debug fresh gathered.secretKey with
        | error v => simp [settled, throw, throwThe, MonadExceptOf.throw] at accepted
        | ok key =>
          simp only [settled, pure, Except.pure, Except.ok.injEq, Prod.mk.injEq] at accepted
          rw [← accepted.1]
          exact (Settings.settleKey_ok_iff.1 settled).2.2
      · simp [throw, throwThe, MonadExceptOf.throw] at accepted

/-- Under every key that settings take, a token works exactly if the key is no key of another kind,
the lifetime is in range, and the key verifies its own code of the token, unless no time is before
the expiry.  A key that is no JSON text verifies all its codes; a key that is the JSON text of a
string verifies those that the string makes as well. -/
theorem accepted_key_works_iff (fresh : String) (environment : Keyed String)
    (file : Option String) (settings : Settings) (lines : List LogLine)
    (accepted : Settings.load fresh environment file = .ok (settings, lines))
    (o : Order) (w : World) (finite : (Number.toRat? w.clock).isSome) :
    Settings.shortestKey ≤ settings.secretKey.length ∧
    (o.Works (Web.Site.of settings).service w ↔ looksForeign settings.secretKey = false ∧
      ∃ expiry, expiryOf w.clock (o.ttl (Web.Site.of settings).service.tokens) = .ok expiry ∧
        ((∃ now, now < expiry) →
          OwnCode settings.secretKey (signedBytes o.claims w.clock expiry (w.ids + 1)))) ∧
    (∀ e, Json.readUnbounded settings.secretKey = .error e →
      looksForeign settings.secretKey = false → ∀ message, OwnCode settings.secretKey message) ∧
    (∀ inner, Json.readUnbounded settings.secretKey = .ok (.string inner) →
      ∀ message, OwnCode settings.secretKey message ↔ looksForeign inner = false ∧
        Digest.mac (utf8 inner) message = Digest.mac (utf8 settings.secretKey) message) :=
  ⟨shortestKey_le_of_load accepted, o.works_iff finite,
    fun _ text native => (PlainSecret.of_not_json text native).ownCode,
    fun _ text => ownCode_of_string_iff text⟩

/-- The settings of a process that is given a signing key and nothing else. -/
def usualSettings (key : String) : Settings where
  debug := false
  secretKey := key
  databaseUrl := "sqlite:///<root>/memberauth.db"
  corsOrigins := ["http://localhost", "http://localhost:3000", "http://127.0.0.1"]
  allowedHosts := ["*"]
  accessTtl := 900
  refreshTtl := 604800
  temporaryTtl := 900
  cost := 12
  internalKey := ""
  capacity := 5
  refillTokens := 5
  refillSeconds := 60
  limitedPaths := Settings.usualLimitedPaths
  sweepSeconds := 300
  maxBuckets := 10000

/-- A process may be given any signing key that is long enough. -/
theorem load_usualSettings {key : String} (long : Settings.shortestKey ≤ key.length) :
    Settings.load "" [("SECRET_KEY", key)] none = .ok (usualSettings key, []) := by
  have given : key ≠ "" := by
    rintro rfl
    exact absurd long (by decide)
  have settled : Settings.settleKey false "" key = .ok key :=
    Settings.settleKey_ok_iff.2 ⟨fun empty => absurd empty given, by simp [given], long⟩
  have folded : fold "SECRET_KEY" = "secret_key" := by decide +kernel
  have sources : Settings.Sources.of [("SECRET_KEY", key)] none = ⟨[("secret_key", key)], []⟩ := by
    simp [Settings.Sources.of, Settings.foldNames, folded, Settings.assignAll, Keyed.putAll,
      Keyed.put]
  have gathered : StateT.run (Settings.gather ⟨[("secret_key", key)], []⟩ []) [] =
      (usualSettings key, []) := rfl
  have environment : Settings.decodeLists ⟨[("secret_key", key)], []⟩ .environment = .ok [] := rfl
  have file : Settings.decodeLists ⟨[("secret_key", key)], []⟩ .file = .ok [] := rfl
  have known : (usualSettings key).secretKey = key ∧ (usualSettings key).debug = false :=
    ⟨rfl, rfl⟩
  simp only [Settings.load, sources, environment, file, bind, Except.bind, List.append_nil,
    gathered, known, settled, given, if_false]
  rfl

/-- With thirty-two hexadecimal digits for a key, an access token works. -/
theorem hexadecimal_key_works :
    Settings.load "" [("SECRET_KEY", "0123456789abcdef0123456789abcdef")] none =
        .ok (usualSettings "0123456789abcdef0123456789abcdef", []) ∧
      (Order.access "a@x" ["b", "a"] "m1").Works
        (Web.Site.of (usualSettings "0123456789abcdef0123456789abcdef")).service
        newcomersWorld := by
  have finite := newcomersWorld_clock
  obtain ⟨times, -⟩ := newcomersWorld_short
  have accepted : Settings.load "" [("SECRET_KEY", "0123456789abcdef0123456789abcdef")] none =
      .ok (usualSettings "0123456789abcdef0123456789abcdef", []) := load_usualSettings (by decide)
  obtain ⟨-, works, plain, -⟩ := accepted_key_works_iff "" _ none _ _ accepted
    (.access "a@x" ["b", "a"] "m1") newcomersWorld finite
  have native : looksForeign "0123456789abcdef0123456789abcdef" = false := by decide +kernel
  exact ⟨accepted, works.2 ⟨native, _, times, fun _ => plain (.malformedAt 1) rfl native _⟩⟩

/-- A key in quotes, as an environment may hold it. -/
def quotedKey : String := "\"0123456789abcdef0123456789abcdef\""

/-- The key in quotes is the JSON text of what is between them. -/
theorem readUnbounded_quotedKey :
    Json.readUnbounded quotedKey = .ok (.string "0123456789abcdef0123456789abcdef") := by
  have read : (Json.readUnbounded quotedKey).toOption.bind Json.string? =
      some "0123456789abcdef0123456789abcdef" := by decide +kernel
  cases found : Json.readUnbounded quotedKey with
  | error e => simp [found, Except.toOption] at read
  | ok v =>
    rw [found] at read
    cases v <;> simp_all [Except.toOption, Json.string?]

/-- Settings take a key in quotes, and a refresh token is issued under it that is not valid at the
time of its issue. -/
theorem quoted_key_refuses_own_token :
    Settings.load "" [("SECRET_KEY", quotedKey)] none = .ok (usualSettings quotedKey, []) ∧
      ∃ t expiry,
        (((Order.refresh "a@x").issue (Web.Site.of (usualSettings quotedKey)).service).runIn
          newcomersWorld).1 = .ok t ∧
        expiryOf newcomersWorld.clock 604800 = .ok expiry ∧ newcomersWorld.clock < expiry ∧
        (Web.Site.of (usualSettings quotedKey)).service.tokens.validate newcomersWorld.clock t ≠
          .ok true := by
  have finite := newcomersWorld_clock
  obtain ⟨times, live⟩ := newcomersWorld_long
  have native : looksForeign quotedKey = false := by decide +kernel
  have issues : (((Order.refresh "a@x").issue
      (Web.Site.of (usualSettings quotedKey)).service).runIn newcomersWorld).1 =
        .ok (issuedText quotedKey (refreshClaims "a@x") 1700000000.5 1700604800.5 1) :=
    run_mint_eq_ok_iff.2 ⟨native, _, times, rfl⟩
  refine ⟨load_usualSettings (by decide), _, _, issues, times, live, ?_⟩
  intro valid
  have own := ((Order.refresh "a@x").issuable_claims.valid_iff_ownCode _ finite live).1 valid
  have same := ((ownCode_of_string_iff readUnbounded_quotedKey _).1 own).2
  exact absurd same (by decide +kernel)

end Gatehouse.Account
