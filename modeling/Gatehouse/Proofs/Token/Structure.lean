import Gatehouse.Proofs.Flow
import Gatehouse.Proofs.Json.Nesting
import Gatehouse.Proofs.Token.Secret
import Gatehouse.Proofs.Token.Segments

/-!
# The structure of tokens and the two classes of failure

A text has the structure of a token when it consists of three segments that decode, the
header is a JSON object that names the one algorithm, and the payload is a JSON object.  A
text without that structure is broken, and one whose signature is not that of its first two
segments is unsigned.  Every operation that takes a token tells the two apart, each in its
own way, and none of them signs a token or touches a member.

A payload with more lists and objects inside of each other than are read is the exception, however
much the service reads: such a text is no token, and every operation ends in a fault instead of a
refusal.

Main results:

- `read_eq_ok_iff`, `read_eq_nested_iff`: what is read of a text.
- `ReadsAs.unique`: how much nesting is read makes no difference to what is read.
- `failure_classes_told_apart`: the two classes are told apart at exactly the texts that are not
  nested too deep, and on the others every operation ends in a fault.
-/

namespace Gatehouse.Token

open Gatehouse.Text Gatehouse.Codec

/-! ## Structure -/

/-- Bytes are the text of a JSON object, which nests no deeper than it is read. -/
def IsObject (nesting : Nat) (bytes : Bytes) (fields : Keyed Json) : Prop :=
  ∃ s, ofUtf8? bytes = some s ∧ Json.read nesting s = .ok (.object fields)

/-- A text is three segments with dots between them, all of which decode. -/
structure Segmented (t : String) (h p s : List Char) (header payload signature : Bytes) :
    Prop where
  pieces_eq : pieces '.' t.toList = [h, p, s]
  header : Base64Url.decode? (textBytes h) = some header
  payload : Base64Url.decode? (textBytes p) = some payload
  signature : Base64Url.decode? (textBytes s) = some signature

/-- A text has the structure of a token with the given parts, as far as JSON is read. -/
inductive Structured (nesting : Nat) (t : String) : Compact → Prop
  | intro {h p s : List Char} {header payload signature : Bytes} {fields claims : Keyed Json}
    (segmented : Segmented t h p s header payload signature) (hh : IsObject nesting header fields)
    (alg : Keyed.lookup fields "alg" = some (.string algorithm))
    (hp : IsObject nesting payload claims) :
    Structured nesting t ⟨textBytes (h ++ '.' :: p), claims, signature⟩

/-- A text has three segments that decode and a header object, but its payload is nested
deeper than JSON is read. -/
inductive NestedTooDeep (nesting : Nat) (t : String) : Prop
  | intro {h p s : List Char} {header payload signature : Bytes} {fields : Keyed Json}
    {text : String} (segmented : Segmented t h p s header payload signature)
    (hh : IsObject nesting header fields) (hp : ofUtf8? payload = some text)
    (deep : Json.read nesting text = .error .tooDeep)

/-! ## Reading a text -/

section Reading

variable {nesting : Nat}

/-- A header segment is read exactly when it decodes to an object. -/
theorem headerFields?_eq_some_iff {h : List Char} {fields : Keyed Json} :
    headerFields? nesting h = some fields ↔
      ∃ header, Base64Url.decode? (textBytes h) = some header ∧ IsObject nesting header fields := by
  unfold headerFields? IsObject
  simp only [bind, Option.bind_eq_some_iff]
  constructor
  · intro given
    rcases given with ⟨header, hb, s, hs, h⟩
    split at h
    · next fields' heq =>
      rcases Option.some.inj h with rfl
      exact ⟨header, hb, s, hs, heq⟩
    · simp at h
  · intro given
    rcases given with ⟨header, hb, s, hs, h⟩
    exact ⟨header, hb, s, hs, by simp [h]⟩

/-- A payload is read exactly when it is an object. -/
theorem payloadFields_eq_ok_iff {payload : Bytes} {claims : Keyed Json} :
    payloadFields nesting payload = .ok claims ↔ IsObject nesting payload claims := by
  unfold payloadFields IsObject
  cases h : ofUtf8? payload with
  | none => simp
  | some s =>
    rcases hr : Json.read nesting s with e | v
    · cases e <;> simp [hr]
    · cases v <;> simp [hr]

/-- A payload is a fault exactly when it is nested too deep. -/
theorem payloadFields_eq_fault_iff {payload : Bytes} {f : Fault} :
    payloadFields nesting payload = .error (.fault f) ↔
      f = .nestedTooDeep ∧
        ∃ s, ofUtf8? payload = some s ∧ Json.read nesting s = .error .tooDeep := by
  unfold payloadFields
  cases h : ofUtf8? payload with
  | none => simp [Failure.broken]
  | some s =>
    rcases hr : Json.read nesting s with e | v
    · cases e <;> simp [hr, Failure.broken, eq_comm]
    · cases v <;> simp [hr, Failure.broken]

/-- A payload that is no object is broken or nested too deep. -/
theorem payloadFields_error_cases {payload : Bytes} {e : Failure}
    (h : payloadFields nesting payload = .error e) :
    (∃ b, e = .broken b) ∨ e = .fault .nestedTooDeep := by
  unfold payloadFields at h
  split at h
  · cases h
  · exact .inl ⟨_, (Except.error.inj h).symm⟩
  · exact .inr (Except.error.inj h).symm
  · exact .inl ⟨_, (Except.error.inj h).symm⟩

/-- The parts of a segmented text decide what is read of it. -/
theorem Segmented.read_eq {t : String} {h p s : List Char} {header payload signature : Bytes}
    (seg : Segmented t h p s header payload signature) :
    Compact.read nesting t =
      match headerFields? nesting h with
      | none => .error (.broken .header)
      | some fields =>
        match payloadFields nesting payload with
        | .error e => .error e
        | .ok claims =>
          if Json.isString (Keyed.lookup fields "alg") algorithm then
            .ok ⟨textBytes (h ++ '.' :: p), claims, signature⟩
          else .error (.broken (.algorithm (Keyed.lookup fields "alg"))) := by
  simp only [Compact.read, seg.pieces_eq, Compact.ofSegments, seg.payload, seg.signature]
  cases headerFields? nesting h <;> rfl

/-- A text that does not come apart into three segments is broken. -/
theorem read_of_not_segmented {t : String}
    (h : ¬ ∃ h p s header payload signature, Segmented t h p s header payload signature) :
    ∃ b, Compact.read nesting t = .error (.broken b) := by
  unfold Compact.read
  simp only
  split
  · next hd p s cut =>
    unfold Compact.ofSegments
    split
    · next fields payload signature hh hp hs =>
      rcases headerFields?_eq_some_iff.1 hh with ⟨header, decoded, _⟩
      exact absurd ⟨hd, p, s, header, payload, signature, cut, decoded, hp, hs⟩ h
    · exact ⟨_, rfl⟩
  · exact ⟨_, rfl⟩

/-- A text is read as a token exactly when it has the structure of one. -/
theorem read_eq_ok_iff {t : String} {c : Compact} :
    Compact.read nesting t = .ok c ↔ Structured nesting t c := by
  constructor
  · intro hr
    by_cases hs : ∃ h p s header payload signature, Segmented t h p s header payload signature
    · rcases hs with ⟨h, p, s, header, payload, signature, seg⟩
      rw [seg.read_eq] at hr
      split at hr
      · cases hr
      · next fields hh =>
        split at hr
        · cases hr
        · next claims hp =>
          split at hr
          · next alg =>
            rcases headerFields?_eq_some_iff.1 hh with ⟨header', decoded, object⟩
            rcases Option.some.inj (decoded.symm.trans seg.header) with rfl
            rcases Except.ok.inj hr with rfl
            exact .intro seg object (Json.isString_eq_true_iff.1 alg)
              (payloadFields_eq_ok_iff.1 hp)
          · cases hr
    · rcases read_of_not_segmented hs with ⟨b, hb⟩
      rw [hb] at hr
      cases hr
  · intro given
    rcases given with ⟨seg, hh, alg, hp⟩
    rw [seg.read_eq, headerFields?_eq_some_iff.2 ⟨_, seg.header, hh⟩,
      payloadFields_eq_ok_iff.2 hp]
    simp [alg, Json.isString]

/-- Reading a text is a fault exactly when its payload is nested too deep. -/
theorem read_eq_nested_iff {t : String} {f : Fault} :
    Compact.read nesting t = .error (.fault f) ↔ f = .nestedTooDeep ∧ NestedTooDeep nesting t := by
  constructor
  · intro hr
    by_cases hs : ∃ h p s header payload signature, Segmented t h p s header payload signature
    · rcases hs with ⟨h, p, s, header, payload, signature, seg⟩
      rw [seg.read_eq] at hr
      split at hr
      · cases hr
      · next fields hh =>
        split at hr
        · next e hp =>
          rcases Except.error.inj hr with rfl
          rcases payloadFields_eq_fault_iff.1 hp with ⟨rfl, text, utf8, deep⟩
          rcases headerFields?_eq_some_iff.1 hh with ⟨header', decoded, object⟩
          rcases Option.some.inj (decoded.symm.trans seg.header) with rfl
          exact ⟨rfl, .intro seg object utf8 deep⟩
        · split at hr <;> cases hr
    · rcases read_of_not_segmented hs with ⟨b, hb⟩
      rw [hb] at hr
      cases hr
  · intro given
    rcases given with ⟨rfl, ⟨seg, hh, hp, deep⟩⟩
    rw [seg.read_eq, headerFields?_eq_some_iff.2 ⟨_, seg.header, hh⟩,
      payloadFields_eq_fault_iff.2 ⟨rfl, _, hp, deep⟩]

/-- A text that is not read as a token is broken or nested too deep. -/
theorem read_error_cases {t : String} {e : Failure} (hr : Compact.read nesting t = .error e) :
    (∃ b, e = .broken b) ∨ e = .fault .nestedTooDeep := by
  by_cases segmented :
      ∃ h p s header payload signature, Segmented t h p s header payload signature
  · rcases segmented with ⟨h, p, s, header, payload, signature, seg⟩
    rw [seg.read_eq] at hr
    split at hr
    · exact .inl ⟨_, (Except.error.inj hr).symm⟩
    · split at hr
      · next failed => exact payloadFields_error_cases (Except.error.inj hr ▸ failed)
      · split at hr
        · cases hr
        · exact .inl ⟨_, (Except.error.inj hr).symm⟩
  · rcases read_of_not_segmented segmented with ⟨b, hb⟩
    exact .inl ⟨b, Except.error.inj (hr.symm.trans hb)⟩

/-- A text that has neither the structure of a token nor too deep a payload is broken. -/
theorem read_of_not_structured {t : String} (hs : ¬ ∃ c, Structured nesting t c)
    (hn : ¬ NestedTooDeep nesting t) : ∃ b, Compact.read nesting t = .error (.broken b) := by
  cases hr : Compact.read nesting t with
  | ok c => exact absurd ⟨c, read_eq_ok_iff.1 hr⟩ hs
  | error e =>
    rcases read_error_cases hr with ⟨b, rfl⟩ | rfl
    · exact ⟨b, rfl⟩
    · exact absurd (read_eq_nested_iff.1 hr).2 hn

/-- A text whose payload is nested too deep has not the structure of a token. -/
theorem NestedTooDeep.not_structured {t : String} (h : NestedTooDeep nesting t) :
    ¬ ∃ c, Structured nesting t c := by
  intro given
  rcases given with ⟨c, hc⟩
  have nested := read_eq_nested_iff.2 ⟨rfl, h⟩
  rw [read_eq_ok_iff.2 hc] at nested
  cases nested

/-- A text with the structure of a token has the same structure where more nesting is read. -/
theorem Structured.of_le {more : Nat} {t : String} {c : Compact} (le : nesting ≤ more)
    (h : Structured nesting t c) : Structured more t c := by
  rcases h with ⟨segmented, ⟨s, hs, header⟩, alg, ⟨s', hs', payload⟩⟩
  exact .intro segmented ⟨s, hs, Json.read_of_le le header⟩ alg
    ⟨s', hs', Json.read_of_le le payload⟩

end Reading

/-- What is presented is read as a token with the given parts, with some nesting. -/
def ReadsAs (token : Option String) (c : Compact) : Prop :=
  ∃ nesting, Compact.read nesting token = .ok c

/-- With whatever nesting a text is read, it is read as one token. -/
theorem ReadsAs.unique {token : Option String} {c c' : Compact} (h : ReadsAs token c)
    (h' : ReadsAs token c') : c = c' := by
  rcases h with ⟨n, read⟩
  rcases h' with ⟨m, read'⟩
  cases token with
  | none => cases read
  | some t =>
    have deep := (read_eq_ok_iff.1 read).of_le (Nat.le_max_left n m)
    have deep' := (read_eq_ok_iff.1 read').of_le (Nat.le_max_right n m)
    exact Except.ok.inj ((read_eq_ok_iff.2 deep).symm.trans (read_eq_ok_iff.2 deep'))

/-! ## Operations on a token that does not verify -/

section Failing

variable {p : Processor} {now : Float} {token : Option String} {e : Failure}

/-- Extracting from a token that does not verify fails as its verification does. -/
theorem extract_of_error (h : p.verified now token = .error e) :
    p.subject now token = .error e ∧ p.grantedScopes now token = .error e ∧
      p.memberId now token = .error e ∧ p.tokenType now token = .error e := by
  refine ⟨?_, ?_, ?_, ?_⟩
  · simp [Processor.subject, h, bind, Except.bind]
  · simp [Processor.grantedScopes, h, bind, Except.bind]
  · simp [Processor.memberId, h, bind, Except.bind]
  · simp [Processor.tokenType, h, bind, Except.bind]

/-- A token that cannot be read fails its validation as its reading does. -/
theorem validate_of_error (h : p.verified now token = .error e)
    (he : softened (.error e) = .error e) :
    p.validate now token = .error e ∧ p.validateRefresh now token = .error e := by
  constructor
  · simp [Processor.validate, h, he, bind, Except.bind]
  · simp [Processor.validateRefresh, h, he, bind, Except.bind]

/-- An unsigned token is not valid, which is no failure. -/
theorem validate_of_unverified {u : Unverified}
    (h : p.verified now token = .error (.refused (.unverifiedToken u))) :
    p.validate now token = .ok false ∧ p.validateRefresh now token = .ok false := by
  have soft : softened (.error (.refused (.unverifiedToken u))) = .ok none := rfl
  refine ⟨validate_eq_false_of_unverified h, ?_⟩
  simp [Processor.validateRefresh, h, soft, bind, Except.bind, pure, Except.pure]

/-- A token that does not verify is no password-setup token. -/
theorem validateTemporary_of_error (h : p.verified now token = .error e) {e' : Failure}
    (he : asInvalid (.error e : Except Failure Claims) = .error e') (email : Option String) :
    p.validateTemporary now token email = .error e' := by
  simp [Processor.validateTemporary, h, he, bind, Except.bind]

end Failing

section Flows

open Gatehouse.Account

variable {s : Service} {w : World} {token : Option String} {e e' : Failure}

/-- An operation leaves the members and the record of signed tokens as they are. -/
def Untouched {α : Type} (f : Flow α) (w : World) : Prop :=
  (f.runIn w).2.directory = w.directory ∧ (f.runIn w).2.minted = w.minted

/-- A token that cannot be read has no bearer; the failure is that of its reading. -/
theorem run_resolveBearer_of_error (h : s.tokens.verified w.clock token = .error e)
    (he : softened (.error e) = .error e) :
    (s.resolveBearer token).runIn w = (.error e, w) := by
  simp [Service.resolveBearer, (validate_of_error h he).1]

/-- An unsigned token has no bearer, which is no failure. -/
theorem run_resolveBearer_of_unverified {u : Unverified}
    (h : s.tokens.verified w.clock token = .error (.refused (.unverifiedToken u))) :
    (s.resolveBearer token).runIn w = (.ok none, w) := by
  simp [Service.resolveBearer, (validate_of_unverified h).1]

/-- A token that does not verify confirms no address. -/
theorem run_setupEmail_of_error (h : s.tokens.verified w.clock token = .error e)
    (he : asInvalid (.error e : Except Failure String) = .error e') :
    (s.setupEmail token).runIn w = (.error e', w) := by
  simp [Service.setupEmail, (extract_of_error h).1, he]

/-- A token that does not verify sets no password. -/
theorem run_setInitialPassword_of_error (h : s.tokens.verified w.clock token = .error e)
    (he : asInvalid (.error e : Except Failure String) = .error e') (password : Option String) :
    ((s.setInitialPassword token password).runIn w).1 = .error e' ∧
      Untouched (s.setInitialPassword token password) w := by
  have failed : (s.setupEmail token).runIn (w.logged (Audit.attempt "set_initial_password")) =
      (.error e', w.logged (Audit.attempt "set_initial_password")) :=
    run_setupEmail_of_error h he
  simp [Service.setInitialPassword, run_audited, Untouched, failed]

/-- A token that cannot be read renews nothing. -/
theorem run_refresh_of_error (h : s.tokens.verified w.clock token = .error e)
    (soft : softened (.error e) = .error e)
    (he : asInvalid (.error e : Except Failure Bool) = .error e') :
    ((s.refresh token).runIn w).1 = .error e' ∧ Untouched (s.refresh token) w := by
  simp [Service.refresh, run_audited, Untouched, (validate_of_error h soft).2, he]

/-- An unsigned token renews nothing. -/
theorem run_refresh_of_unverified {u : Unverified}
    (h : s.tokens.verified w.clock token = .error (.refused (.unverifiedToken u))) :
    ((s.refresh token).runIn w).1 = .error (.refused .refreshExpired) ∧
      Untouched (s.refresh token) w := by
  simp [Service.refresh, run_audited, Untouched, (validate_of_unverified h).2, asInvalid]

end Flows

/-! ## The two classes -/

/-- An outcome is a refusal of a kind. -/
def Refuses {α : Type} (outcome : Except Failure α) (kind : Kind) : Prop :=
  ∃ c, outcome = .error (.refused c) ∧ c.kind = kind

/-- How the operations report a broken token: as such, or as an invalid one where only live
password-setup and refresh tokens are of use. -/
structure ReportsBroken (s : Account.Service) (t : String) (w : World) : Prop where
  validate : Refuses (s.tokens.validate w.clock t) .brokenToken
  validateRefresh : Refuses (s.tokens.validateRefresh w.clock t) .brokenToken
  subject : Refuses (s.tokens.subject w.clock t) .brokenToken
  scopes : Refuses (s.tokens.grantedScopes w.clock t) .brokenToken
  memberId : Refuses (s.tokens.memberId w.clock t) .brokenToken
  type : Refuses (s.tokens.tokenType w.clock t) .brokenToken
  bearer : Refuses ((s.resolveBearer t).runIn w).1 .brokenToken
  validateTemporary : ∀ email, Refuses (s.tokens.validateTemporary w.clock t email) .invalidToken
  refresh : Refuses ((s.refresh t).runIn w).1 .invalidToken
  setupEmail : Refuses ((s.setupEmail t).runIn w).1 .invalidToken
  setPassword : ∀ password, Refuses ((s.setInitialPassword t password).runIn w).1 .invalidToken

/-- How the operations report an unsigned token: validation and the look-up of a bearer
answer no, and all the others refuse it as invalid. -/
structure ReportsUnsigned (s : Account.Service) (t : String) (w : World) : Prop where
  validate : s.tokens.validate w.clock t = .ok false
  validateRefresh : s.tokens.validateRefresh w.clock t = .ok false
  subject : Refuses (s.tokens.subject w.clock t) .invalidToken
  scopes : Refuses (s.tokens.grantedScopes w.clock t) .invalidToken
  memberId : Refuses (s.tokens.memberId w.clock t) .invalidToken
  type : Refuses (s.tokens.tokenType w.clock t) .invalidToken
  bearer : ((s.resolveBearer t).runIn w).1 = .ok none
  validateTemporary : ∀ email, Refuses (s.tokens.validateTemporary w.clock t email) .invalidToken
  refresh : Refuses ((s.refresh t).runIn w).1 .invalidToken
  setupEmail : Refuses ((s.setupEmail t).runIn w).1 .invalidToken
  setPassword : ∀ password, Refuses ((s.setInitialPassword t password).runIn w).1 .invalidToken

/-- How the operations end on a token that none of them can read: in a fault. -/
structure ReportsFault (s : Account.Service) (t : String) (w : World) (f : Fault) : Prop where
  validate : s.tokens.validate w.clock t = .error (.fault f)
  validateRefresh : s.tokens.validateRefresh w.clock t = .error (.fault f)
  subject : s.tokens.subject w.clock t = .error (.fault f)
  scopes : s.tokens.grantedScopes w.clock t = .error (.fault f)
  memberId : s.tokens.memberId w.clock t = .error (.fault f)
  type : s.tokens.tokenType w.clock t = .error (.fault f)
  bearer : ((s.resolveBearer t).runIn w).1 = .error (.fault f)
  validateTemporary : ∀ email, s.tokens.validateTemporary w.clock t email = .error (.fault f)
  refresh : ((s.refresh t).runIn w).1 = .error (.fault f)
  setupEmail : ((s.setupEmail t).runIn w).1 = .error (.fault f)
  setPassword : ∀ password, ((s.setInitialPassword t password).runIn w).1 = .error (.fault f)

/-- No operation on the token signs another one or touches a member. -/
structure LeavesAll (s : Account.Service) (t : String) (w : World) : Prop where
  bearer : Untouched (s.resolveBearer t) w
  refresh : Untouched (s.refresh t) w
  setupEmail : Untouched (s.setupEmail t) w
  setPassword : ∀ password, Untouched (s.setInitialPassword t password) w

section Classes

variable {s : Account.Service} {t : String} {w : World}

/-- A token that does not verify leaves everything as it is. -/
theorem leavesAll_of_error {e : Failure} (h : s.tokens.verified w.clock t = .error e)
    (he : (∃ b, e = .broken b) ∨ (∃ u, e = .refused (.unverifiedToken u)) ∨ ∃ f, e = .fault f) :
    LeavesAll s t w := by
  rcases he with ⟨b, rfl⟩ | ⟨u, rfl⟩ | ⟨f, rfl⟩
  · refine ⟨?_, (run_refresh_of_error h rfl rfl).2, ?_,
      fun password => (run_setInitialPassword_of_error h rfl password).2⟩
    · simp [Untouched, run_resolveBearer_of_error h rfl]
    · simp [Untouched, run_setupEmail_of_error h rfl]
  · refine ⟨?_, (run_refresh_of_unverified h).2, ?_,
      fun password => (run_setInitialPassword_of_error h rfl password).2⟩
    · simp [Untouched, run_resolveBearer_of_unverified h]
    · simp [Untouched, run_setupEmail_of_error h rfl]
  · refine ⟨?_, (run_refresh_of_error h rfl rfl).2, ?_,
      fun password => (run_setInitialPassword_of_error h rfl password).2⟩
    · simp [Untouched, run_resolveBearer_of_error h rfl]
    · simp [Untouched, run_setupEmail_of_error h rfl]

/-- A token that cannot be read is reported as broken. -/
theorem reportsBroken_of_read {b : BrokenToken}
    (h : Compact.read s.tokens.nesting t = .error (.broken b)) : ReportsBroken s t w := by
  have verified : s.tokens.verified w.clock t = .error (.broken b) := verified_of_broken h
  rcases extract_of_error verified with ⟨subject, scopes, memberId, type⟩
  rcases validate_of_error verified rfl with ⟨validate, validateRefresh⟩
  exact {
    validate := ⟨_, validate, rfl⟩
    validateRefresh := ⟨_, validateRefresh, rfl⟩
    subject := ⟨_, subject, rfl⟩
    scopes := ⟨_, scopes, rfl⟩
    memberId := ⟨_, memberId, rfl⟩
    type := ⟨_, type, rfl⟩
    bearer := ⟨_, congrArg Prod.fst (run_resolveBearer_of_error verified rfl), rfl⟩
    validateTemporary := fun email => ⟨_, validateTemporary_of_error verified rfl email, rfl⟩
    refresh := ⟨_, (run_refresh_of_error verified rfl rfl).1, rfl⟩
    setupEmail := ⟨_, congrArg Prod.fst (run_setupEmail_of_error verified rfl), rfl⟩
    setPassword := fun password =>
      ⟨_, (run_setInitialPassword_of_error verified rfl password).1, rfl⟩ }

/-- An unsigned token is reported as such. -/
theorem reportsUnsigned_of_verified {u : Unverified}
    (verified : s.tokens.verified w.clock t = .error (.refused (.unverifiedToken u))) :
    ReportsUnsigned s t w := by
  have kind : (Cause.unverifiedToken u).kind = .invalidToken := rfl
  rcases extract_of_error verified with ⟨subject, scopes, memberId, type⟩
  rcases validate_of_unverified verified with ⟨validate, validateRefresh⟩
  exact {
    validate := validate
    validateRefresh := validateRefresh
    subject := ⟨_, subject, kind⟩
    scopes := ⟨_, scopes, kind⟩
    memberId := ⟨_, memberId, kind⟩
    type := ⟨_, type, kind⟩
    bearer := congrArg Prod.fst (run_resolveBearer_of_unverified verified)
    validateTemporary := fun email => ⟨_, validateTemporary_of_error verified rfl email, kind⟩
    refresh := ⟨_, (run_refresh_of_unverified verified).1, rfl⟩
    setupEmail := ⟨_, congrArg Prod.fst (run_setupEmail_of_error verified rfl), kind⟩
    setPassword := fun password =>
      ⟨_, (run_setInitialPassword_of_error verified rfl password).1, kind⟩ }

/-- A fault in reading a token is the fault of every operation on it. -/
theorem reportsFault_of_verified {f : Fault}
    (verified : s.tokens.verified w.clock t = .error (.fault f)) : ReportsFault s t w f := by
  rcases extract_of_error verified with ⟨subject, scopes, memberId, type⟩
  rcases validate_of_error verified rfl with ⟨validate, validateRefresh⟩
  exact {
    validate := validate
    validateRefresh := validateRefresh
    subject := subject
    scopes := scopes
    memberId := memberId
    type := type
    bearer := congrArg Prod.fst (run_resolveBearer_of_error verified rfl)
    validateTemporary := fun email => validateTemporary_of_error verified rfl email
    refresh := (run_refresh_of_error verified rfl rfl).1
    setupEmail := congrArg Prod.fst (run_setupEmail_of_error verified rfl)
    setPassword := fun password => (run_setInitialPassword_of_error verified rfl password).1 }

/-- A text with the structure of a token and a signature that is not its own is refused for
that signature. -/
theorem verified_of_unsigned (secret : PlainSecret s.tokens.secret) {c : Compact}
    (hc : Structured s.tokens.nesting t c)
    (hs : c.signature ≠ Digest.mac (utf8 s.tokens.secret) c.signed) (now : Float) :
    s.tokens.verified now t = .error (.refused (.unverifiedToken .signature)) := by
  rw [Processor.verified, read_eq_ok_iff.2 hc]
  simp only [secret.verify_eq, Ne.symm hs, decide_false]

end Classes

/-- The two classes of failure are told apart at a text: a broken one and an unsigned one are
reported as what they are, and nothing happens. -/
structure ToldApart (s : Account.Service) (t : String) (w : World) : Prop where
  broken : (¬ ∃ c, Structured s.tokens.nesting t c) → ReportsBroken s t w ∧ LeavesAll s t w
  unsigned : ∀ c, Structured s.tokens.nesting t c →
    c.signature ≠ Digest.mac (utf8 s.tokens.secret) c.signed →
    ReportsUnsigned s t w ∧ LeavesAll s t w

/-- Under a plain secret the two classes of failure are told apart at every text whose payload
is not nested too deep, and at no other: on those every operation ends in a fault, though
nothing happens either. -/
theorem failure_classes_told_apart (s : Account.Service) (secret : PlainSecret s.tokens.secret)
    (t : String) (w : World) :
    (ToldApart s t w ↔ ¬ NestedTooDeep s.tokens.nesting t) ∧
      (NestedTooDeep s.tokens.nesting t → ReportsFault s t w .nestedTooDeep ∧ LeavesAll s t w) := by
  have nested (h : NestedTooDeep s.tokens.nesting t) :
      s.tokens.verified w.clock t = .error (.fault .nestedTooDeep) := by
    rw [Processor.verified, read_eq_nested_iff.2 ⟨rfl, h⟩]
  have faults (h : NestedTooDeep s.tokens.nesting t) :
      ReportsFault s t w .nestedTooDeep ∧ LeavesAll s t w :=
    ⟨reportsFault_of_verified (nested h), leavesAll_of_error (nested h) (.inr (.inr ⟨_, rfl⟩))⟩
  refine ⟨⟨?_, ?_⟩, faults⟩
  · intro told h
    rcases (told.broken h.not_structured).1.subject with ⟨c, refused, _⟩
    rw [(faults h).1.subject] at refused
    cases refused
  · intro h
    constructor
    · intro hs
      rcases read_of_not_structured hs h with ⟨b, hb⟩
      exact ⟨reportsBroken_of_read hb,
        leavesAll_of_error (verified_of_broken hb) (.inl ⟨b, rfl⟩)⟩
    · intro c hc hm
      have verified := verified_of_unsigned secret hc hm w.clock
      exact ⟨reportsUnsigned_of_verified verified,
        leavesAll_of_error verified (.inr (.inl ⟨_, rfl⟩))⟩

/-- A token of the usual form whose signature is a single byte. -/
def missignedToken : String :=
  compose (.object (refreshClaims "a@x")) [0]

/-- That token has the structure of one, with whatever nesting it is read. -/
theorem structured_missignedToken (nesting : Nat) :
    Structured nesting missignedToken
      ⟨textBytes (signingText (.object (refreshClaims "a@x"))), refreshClaims "a@x", [0]⟩ := by
  refine read_eq_ok_iff.1 (read_compose (by decide) ?_ [0] nesting)
  intro f hf
  simp only [refreshClaims, List.mem_cons, List.not_mem_nil, or_false] at hf
  rcases hf with rfl | rfl <;> exact Json.readsBack_string _

/-- The usual service reports two segments as broken, and a token of the usual form with a single
byte for its signature as unsigned. -/
theorem failure_classes_of_two_texts :
    PlainSecret plainService.tokens.secret ∧
      ReportsBroken plainService "a.b" (.start 1700000000.5) ∧
      ReportsUnsigned plainService missignedToken (.start 1700000000.5) := by
  have cut : pieces '.' "a.b".toList = [['a'], ['b']] := by decide
  have segments {h p s : List Char} {header payload signature : Bytes} :
      ¬ Segmented "a.b" h p s header payload signature := by
    intro seg
    have same := cut.symm.trans seg.pieces_eq
    simp at same
  have told := (failure_classes_told_apart plainService plainService_secret "a.b"
    (.start 1700000000.5)).1.2 (by rintro ⟨seg, _, _, _⟩; exact segments seg)
  have structured := structured_missignedToken plainService.tokens.nesting
  have told' := (failure_classes_told_apart plainService plainService_secret missignedToken
    (.start 1700000000.5)).1.2 fun deep => deep.not_structured ⟨_, structured⟩
  refine ⟨plainService_secret, (told.broken ?_).1, (told'.unsigned _ structured ?_).1⟩
  · intro given
    rcases given with ⟨_, ⟨seg, _, _, _⟩⟩
    exact segments seg
  · intro same
    have length := congrArg List.length same
    rw [Digest.length_mac] at length
    cases length

/-! ## Payloads that are nested too deep -/

/-- A token under the header of this service whose payload opens a number of lists inside of
each other and closes them again. -/
def nestedToken (n : Nat) : String :=
  String.ofList (segment header ++ '.' :: Base64Url.encodeList
    (utf8 (String.ofList (List.replicate n '[' ++ List.replicate n ']'))) ++ '.' :: [])

/-- With more lists than are read such a token is nested too deep. -/
theorem nestedTooDeep_nestedToken {nesting n : Nat} (h : nesting + 1 < n) :
    NestedTooDeep nesting (nestedToken n) := by
  have cut : pieces '.' (nestedToken n).toList = [segment header, Base64Url.encodeList
      (utf8 (String.ofList (List.replicate n '[' ++ List.replicate n ']'))), []] := by
    rw [nestedToken, String.toList_ofList]
    exact pieces_three (dot_not_mem_encodeList _) (dot_not_mem_encodeList _) (by simp)
  have object : IsObject nesting (utf8 header.render)
      [("alg", .string algorithm), ("typ", .string "JWT")] :=
    ⟨_, ofUtf8?_utf8 _, Json.read_render_object (by decide) (by simp [Json.readsBack_string]) _⟩
  exact .intro ⟨cut, decode?_segment header, decode?_encodeList _, rfl⟩ object (ofUtf8?_utf8 _)
    (Json.read_brackets h _)

/-- A payload of 1500 lists inside of each other is no JSON object, so that the token is a
broken one; but the usual service does not report it as such: validating it is a fault. -/
theorem nested_token_not_told_apart :
    ¬ ToldApart plainService (nestedToken 1500) (.start 1700000000.5) ∧
      (¬ ∃ c, Structured plainService.tokens.nesting (nestedToken 1500) c) ∧
      plainService.tokens.validate 1700000000.5 (nestedToken 1500) =
        .error (.fault .nestedTooDeep) := by
  have nested : NestedTooDeep plainService.tokens.nesting (nestedToken 1500) :=
    nestedTooDeep_nestedToken (by decide)
  have verified : plainService.tokens.verified 1700000000.5 (nestedToken 1500) =
      .error (.fault .nestedTooDeep) := by
    rw [Processor.verified, read_eq_nested_iff.2 ⟨rfl, nested⟩]
  have fault : plainService.tokens.validate 1700000000.5 (nestedToken 1500) =
      .error (.fault .nestedTooDeep) := (validate_of_error verified rfl).1
  refine ⟨?_, nested.not_structured, fault⟩
  intro told
  rcases (told.broken nested.not_structured).1.validate with ⟨c, refused, _⟩
  rw [show (World.start 1700000000.5).clock = 1700000000.5 from rfl, fault] at refused
  cases refused

end Gatehouse.Token
