import Gatehouse.Proofs.Account.Operations
import Gatehouse.Proofs.Account.Opening
import Gatehouse.Proofs.Account.ScopeDemand

/-!
# Why operations fail

The ways in which each operation of the service may fail, given a password of which there is a
digest.  Some failures are refusals of what the client asks for.  All others come from the
clock, the lifetimes, the key, or the bearer token of the request, except that a refresh token may
be one whose verification ends in a fault.

Main results:

- `FailsOnly`, `failsOnly_bind`: the ways in which an operation may fail.
- `failsOnly_signin`, `failsOnly_refresh`, `failsOnly_issueTemporaryToken`, `failsOnly_signup`,
  `failsOnly_setInitialPassword`, `failsOnly_changePassword`, `failsOnly_identify`: these ways, for
  each operation.
-/

namespace Gatehouse

namespace Flow

variable {α β : Type}

/-! ## Ways to fail -/

/-- Whatever else there is in the world, an operation at a time fails only in ways of which
something holds. -/
def FailsOnly (clock : Float) (ways : Failure → Prop) (f : Flow α) : Prop :=
  ∀ w, w.clock = clock → ∀ e, (f.runIn w).1 = .error e → ways e

section FailsOnly

variable {clock : Float} {ways : Failure → Prop} {f : Flow α} {g : α → Flow β}

/-- What implies something else may be replaced by it. -/
theorem FailsOnly.mono {ways' : Failure → Prop} (h : FailsOnly clock ways f)
    (implies : ∀ e, ways e → ways' e) : FailsOnly clock ways' f :=
  fun w at_time e failed => implies e (h w at_time e failed)

/-- An operation that answers in every world does not fail. -/
theorem failsOnly_of_total (h : ∀ w, ∃ a, (f.runIn w).1 = .ok a) : FailsOnly clock ways f := by
  intro w _ e failed
  rcases h w with ⟨a, answered⟩
  rw [answered] at failed
  cases failed

/-- A plain result does not fail. -/
theorem failsOnly_pure (a : α) : FailsOnly clock ways (pure a) :=
  failsOnly_of_total fun _ => ⟨a, rfl⟩

/-- An outcome fails if it is a failure. -/
theorem failsOnly_lift {outcome : Except Failure α} (h : ∀ e, outcome = .error e → ways e) :
    FailsOnly clock ways (lift outcome) :=
  fun _ _ e failed => h e failed

/-- The fault of an outcome is the failure. -/
theorem failsOnly_liftFault {outcome : Except Fault α}
    (h : ∀ f, outcome = .error f → ways (.fault f)) : FailsOnly clock ways (liftFault outcome) := by
  apply failsOnly_lift
  intro e failed
  cases outcome with
  | ok a => cases failed
  | error f =>
    rcases Except.error.inj failed with rfl
    exact h f rfl

/-- A refusal is the failure. -/
theorem failsOnly_refuse {c : Cause} (h : ways (.refused c)) :
    FailsOnly clock ways (refuse c : Flow α) := by
  apply failsOnly_lift
  rintro e ⟨⟩
  exact h

/-- A sequence whose first part leaves the time alone fails in the ways of its parts. -/
theorem failsOnly_bind (untimed : Keeps World.clock f) (hf : FailsOnly clock ways f)
    (hg : ∀ w a w', w.clock = clock → f.runIn w = (.ok a, w') → FailsOnly clock ways (g a)) :
    FailsOnly clock ways (f >>= g) := by
  intro w at_time e failed
  have kept := untimed w
  rw [run_bind] at failed
  rcases run : f.runIn w with ⟨e' | a, w'⟩
  · rw [run] at failed
    rcases Except.error.inj failed with rfl
    exact hf w at_time e' (by rw [run])
  · rw [run] at failed kept
    exact hg w a w' at_time run w' (kept.trans at_time) e failed

/-- What follows a reading of the clock is done with the time. -/
theorem failsOnly_bind_now {g : Float → Flow β} (h : FailsOnly clock ways (g clock)) :
    FailsOnly clock ways (now >>= g) := by
  intro w at_time e failed
  rw [run_bind, run_now, at_time] at failed
  exact h w at_time e failed

/-- What follows an outcome is done with what it answers. -/
theorem failsOnly_bind_lift {outcome : Except Failure α} (hf : ∀ e, outcome = .error e → ways e)
    (hg : ∀ a, outcome = .ok a → FailsOnly clock ways (g a)) :
    FailsOnly clock ways (lift outcome >>= g) :=
  failsOnly_bind (keeps_lift outcome) (failsOnly_lift hf) fun _ a _ _ run =>
    hg a (Prod.mk.inj run).1

/-- What follows an outcome that may be a fault is done with what it answers. -/
theorem failsOnly_bind_liftFault {outcome : Except Fault α}
    (hf : ∀ f, outcome = .error f → ways (.fault f))
    (hg : ∀ a, outcome = .ok a → FailsOnly clock ways (g a)) :
    FailsOnly clock ways (liftFault outcome >>= g) := by
  refine failsOnly_bind (keeps_liftFault outcome) (failsOnly_liftFault hf) fun _ a _ _ run => ?_
  cases outcome with
  | ok b => exact hg a (by rw [Except.ok.inj (Prod.mk.inj run).1])
  | error f => cases (Prod.mk.inj run).1

/-- An operation whose first part answers and leaves the time alone fails in the ways of its
second part. -/
theorem failsOnly_bind_of_total (untimed : Keeps World.clock f)
    (total : ∀ w, ∃ a, (f.runIn w).1 = .ok a) (hg : ∀ a, FailsOnly clock ways (g a)) :
    FailsOnly clock ways (f >>= g) :=
  failsOnly_bind untimed (failsOnly_of_total total) fun _ a _ _ _ => hg a

end FailsOnly

end Flow

namespace Account

open Gatehouse.Text Gatehouse.Token Gatehouse.Flow

/-! ## Reasons apart from what is submitted -/

/-- A refusal is neither that of an invalid request nor that of a broken token. -/
def isOrdinary (c : Cause) : Bool :=
  match c.kind with
  | .invalidRequest | .brokenToken => false
  | _ => true

/-- The three lifetimes of the tokens of a service. -/
def Service.lifetimes (s : Service) : List Int :=
  [s.tokens.accessTtl, s.tokens.refreshTtl, s.tokens.temporaryTtl]

/-- An operation fails for a reason that nothing submitted to it has a part in, apart from the
bearer token. -/
inductive FailsApart (s : Service) (bearer : Option String) (clock : Float) : Failure → Prop
  /-- What is asked for is declined. -/
  | declined {c : Cause} (h : isOrdinary c = true) : FailsApart s bearer clock (.refused c)
  /-- A first password was set already. -/
  | passwordSet : FailsApart s bearer clock (.refused .passwordAlreadySet)
  /-- The clock shows no time that can be written down. -/
  | undated {f : Fault} (h : Time.stampOf clock = .error f) : FailsApart s bearer clock (.fault f)
  /-- One of the service's lifetimes is out of range. -/
  | unending {ttl : Int} {f : Fault} (own : ttl ∈ s.lifetimes) (h : expiryOf clock ttl = .error f) :
    FailsApart s bearer clock (.fault f)
  /-- The secret is no signing key. -/
  | unsigned {message : Bytes} {f : Fault} (h : sign s.tokens.secret message = .error f) :
    FailsApart s bearer clock (.fault f)
  /-- The bearer token does not verify. -/
  | bearer {t : String} {e : Failure} (presented : bearer = some t)
    (h : s.tokens.verified clock t = .error e) : FailsApart s bearer clock e
  /-- The scopes of the bearer token cannot be read. -/
  | scopes {t : String} {claims : Claims} {f : Fault} (presented : bearer = some t)
    (verified : s.tokens.verified clock t = .ok claims) (h : scopes claims = .error f) :
    FailsApart s bearer clock (.fault f)
  /-- The id that the bearer token names cannot be stored. -/
  | claimedId {t : String} {claims : Claims} {v : Json} {f : Fault} (presented : bearer = some t)
    (verified : s.tokens.verified clock t = .ok claims) (named : Keyed.lookup claims "cid" = some v)
    (h : Service.storedId? v = .error f) : FailsApart s bearer clock (.fault f)

/-- Reading the timestamp fails where the clock shows no time that can be written down. -/
theorem failsOnly_timestamp {clock : Float} {ways : Failure → Prop}
    (h : ∀ f, Time.stampOf clock = .error f → ways (.fault f)) :
    FailsOnly clock ways Flow.timestamp := by
  apply failsOnly_bind_now
  exact failsOnly_liftFault h

/-- Auditing an operation leaves it its ways to fail. -/
theorem failsOnly_audited {α : Type} {clock : Float} {ways : Failure → Prop} {name : String}
    {body : Flow α} (h : FailsOnly clock ways body) : FailsOnly clock ways (audited name body) := by
  intro w at_time e failed
  rw [run_audited] at failed
  exact h (w.logged _) at_time e failed

section Ways

variable {s : Service} {bearer : Option String} {clock : Float}

/-! ## Signing -/

/-- Sealing fails for the key. -/
theorem sign_of_seal_error {p : Processor} {claims : Claims} {now expiry : Float} {serial : Nat}
    {f : Fault} (h : p.seal claims now expiry serial = .error f) :
    ∃ message, sign p.secret message = .error f := by
  refine ⟨textBytes (signingText (payload claims now expiry serial)), ?_⟩
  unfold Processor.seal at h
  cases signed : sign p.secret (textBytes (signingText (payload claims now expiry serial))) with
  | ok signature => simp [signed, Except.map] at h
  | error f' => simpa [signed, Except.map] using h

/-- Signing a token fails for the lifetime or the key. -/
theorem failsOnly_mint (claims : Claims) {ttl : Int} (own : ttl ∈ s.lifetimes) :
    FailsOnly clock (FailsApart s bearer clock) (s.mint claims ttl) := by
  apply failsOnly_bind_now
  refine failsOnly_bind_liftFault (fun f unending => .unending own unending) fun expiry _ => ?_
  refine failsOnly_bind_of_total (fun _ => rfl) (fun _ => ⟨_, rfl⟩) fun serial => ?_
  refine failsOnly_bind_liftFault (fun f failed => ?_) fun token _ => ?_
  · rcases sign_of_seal_error failed with ⟨message, unsigned⟩
    exact .unsigned unsigned
  · exact failsOnly_bind_of_total (fun _ => rfl) (fun _ => ⟨_, rfl⟩) fun _ => failsOnly_pure _

/-- Issuing the tokens of a session fails for a lifetime or the key. -/
theorem failsOnly_issue (m : Member) (refreshToken : Option String) :
    FailsOnly clock (FailsApart s bearer clock) (s.issue m refreshToken) := by
  have untimed (claims : Claims) (ttl : Int) : Keeps World.clock (s.mint claims ttl) :=
    keeps_mint (fun _ => rfl) (fun _ _ => rfl) s claims ttl
  have access : s.tokens.accessTtl ∈ s.lifetimes := by simp [Service.lifetimes]
  have refresh : s.tokens.refreshTtl ∈ s.lifetimes := by simp [Service.lifetimes]
  refine failsOnly_bind (untimed _ _) (failsOnly_mint _ access) fun _ _ _ _ _ => ?_
  cases refreshToken with
  | none =>
    exact failsOnly_bind (untimed _ _) (failsOnly_mint _ refresh) fun _ _ _ _ _ =>
      failsOnly_pure _
  | some t => exact failsOnly_pure _

/-- Signing in is declined, or fails as signing does. -/
theorem failsOnly_signin (email password : Option String) :
    FailsOnly clock (FailsApart s bearer clock) (s.signin email password) := by
  apply failsOnly_audited
  refine failsOnly_bind_of_total (keeps_memberAt email) (fun _ => ⟨_, rfl⟩) fun found => ?_
  cases found with
  | none => exact failsOnly_refuse (.declined rfl)
  | some m =>
    simp only
    split
    · exact failsOnly_refuse (.declined rfl)
    · split
      · exact failsOnly_refuse (.declined rfl)
      · exact failsOnly_issue m none

/-- Signing a temporary token fails as signing does. -/
theorem failsOnly_issueTemporaryToken (grant : SetupGrant) :
    FailsOnly clock (FailsApart s bearer clock) (s.issueTemporaryToken grant) :=
  failsOnly_audited (failsOnly_mint _ (by simp [Service.lifetimes]))

/-! ## Reading tokens -/

/-- Where broken tokens count as invalid, reading a token is declined, or verifying it ends in a
fault. -/
inductive ReadingFails (s : Service) (clock : Float) (token : Option String) : Failure → Prop
  | declined {c : Cause} (h : isOrdinary c = true) : ReadingFails s clock token (.refused c)
  | fault {f : Fault} (h : s.tokens.verified clock token = .error (.fault f)) :
    ReadingFails s clock token (.fault f)

section Tokens

variable {token : Option String} {e : Failure}

/-- A token that cannot be read where broken ones count as invalid. -/
theorem readingFails_of_asInvalid {α : Type} {outcome : Except Failure α}
    (source : ∀ e, outcome = .error e →
      s.tokens.verified clock token = .error e ∨ ∃ c, e = .refused c ∧ isOrdinary c = true)
    (h : asInvalid outcome = .error e) : ReadingFails s clock token e := by
  cases outcome with
  | ok a => cases h
  | error e₀ =>
    rcases source e₀ rfl with verified | ⟨c, rfl, ordinary⟩
    · rcases verified_error_cases verified with ⟨b, rfl⟩ | ⟨u, rfl⟩ | ⟨f, rfl⟩
      · rcases Except.error.inj h with rfl
        exact .declined rfl
      · rcases Except.error.inj h with rfl
        exact .declined rfl
      · rcases Except.error.inj h with rfl
        exact .fault verified
    · unfold asInvalid at h
      split at h
      · next broken =>
        rcases Except.error.inj broken with ⟨rfl⟩
        cases ordinary
      · rcases Except.error.inj h with rfl
        exact .declined ordinary

/-- Reading the subject of a token fails as its verification does, or there is none. -/
theorem subject_error_cases (h : s.tokens.subject clock token = .error e) :
    s.tokens.verified clock token = .error e ∨ ∃ c, e = .refused c ∧ isOrdinary c = true := by
  cases verified : s.tokens.verified clock token with
  | error e' =>
    rw [(extract_of_error verified).1] at h
    exact .inl (congrArg Except.error (Except.error.inj h))
  | ok claims =>
    simp only [Processor.subject, verified, bind, Except.bind] at h
    split at h
    · cases h
    · rcases Except.error.inj h with rfl
      exact .inr ⟨_, rfl, rfl⟩

/-- Validating a refresh token fails as its verification does, or it is of another type. -/
theorem validateRefresh_error_cases (h : s.tokens.validateRefresh clock token = .error e) :
    s.tokens.verified clock token = .error e ∨ ∃ c, e = .refused c ∧ isOrdinary c = true := by
  cases verified : s.tokens.verified clock token with
  | error e' =>
    rcases verified_error_cases verified with ⟨b, rfl⟩ | ⟨u, rfl⟩ | ⟨f, rfl⟩
    · rw [(validate_of_error verified rfl).2] at h
      exact .inl (congrArg Except.error (Except.error.inj h))
    · rw [(validate_of_unverified verified).2] at h
      cases h
    · rw [(validate_of_error verified rfl).2] at h
      exact .inl (congrArg Except.error (Except.error.inj h))
  | ok claims =>
    simp only [Processor.validateRefresh, verified, softened, bind, Except.bind] at h
    split at h
    · cases h
    · split at h
      · cases h
      · rcases Except.error.inj h with rfl
        exact .inr ⟨_, rfl, rfl⟩

/-- Validating a temporary token fails as its verification does, or it is of another kind. -/
theorem readingFails_of_validateTemporary {email : Option String}
    (h : s.tokens.validateTemporary clock token email = .error e) :
    ReadingFails s clock token e := by
  unfold Processor.validateTemporary at h
  cases verified : asInvalid (s.tokens.verified clock token) with
  | error e' =>
    rw [verified] at h
    rcases Except.error.inj h with rfl
    exact readingFails_of_asInvalid (fun _ => .inl) verified
  | ok claims =>
    simp only [verified, bind, Except.bind] at h
    split at h
    · rcases Except.error.inj h with rfl
      exact .declined rfl
    · split at h
      · cases h
      · split at h <;> cases h

/-- Confirming the address of a temporary token fails as reading it does. -/
theorem readingFails_of_confirmedEmail (h : confirmedEmail s.tokens clock token = .error e) :
    ReadingFails s clock token e := by
  unfold confirmedEmail at h
  cases subject : asInvalid (s.tokens.subject clock token) with
  | error e' =>
    rw [subject] at h
    rcases Except.error.inj h with rfl
    exact readingFails_of_asInvalid (fun _ => subject_error_cases) subject
  | ok email =>
    cases valid : s.tokens.validateTemporary clock token email with
    | error e' =>
      simp only [subject, valid, bind, Except.bind] at h
      rcases Except.error.inj h with rfl
      exact readingFails_of_validateTemporary valid
    | ok answer =>
      simp only [subject, valid, bind, Except.bind] at h
      split at h
      · cases h
      · rcases Except.error.inj h with rfl
        exact .declined rfl

/-- Reading the id that a token names fails as its verification does. -/
theorem verified_of_memberId_error (h : s.tokens.memberId clock token = .error e) :
    s.tokens.verified clock token = .error e := by
  cases verified : s.tokens.verified clock token with
  | error e' =>
    rw [(extract_of_error verified).2.2.1] at h
    exact congrArg Except.error (Except.error.inj h)
  | ok claims => simp [Processor.memberId, verified, bind, Except.bind, pure, Except.pure] at h

/-- The id that a token names is one of its claims. -/
theorem lookup_of_memberId {claimed : Option Json}
    (h : s.tokens.memberId clock token = .ok claimed) :
    ∃ claims, s.tokens.verified clock token = .ok claims ∧ Keyed.lookup claims "cid" = claimed := by
  cases verified : s.tokens.verified clock token with
  | error e =>
    rw [(extract_of_error verified).2.2.1] at h
    cases h
  | ok claims =>
    refine ⟨claims, rfl, ?_⟩
    simpa [Processor.memberId, verified, bind, Except.bind, pure, Except.pure] using h

/-- A bearer token that cannot be read fails apart from what is submitted. -/
theorem ReadingFails.apart {t : String} (h : ReadingFails s clock t e)
    (presented : bearer = some t) : FailsApart s bearer clock e := by
  cases h with
  | declined h => exact .declined h
  | fault h => exact .bearer presented h

end Tokens

/-- Renewing a session fails apart from what is submitted, or verifying the refresh token ends in a
fault. -/
theorem failsOnly_refresh (bearer token : Option String) :
    FailsOnly clock (fun e => FailsApart s bearer clock e ∨
      ∃ f, e = .fault f ∧ s.tokens.verified clock token = .error (.fault f)) (s.refresh token) := by
  have read {e : Failure} (h : ReadingFails s clock token e) :
      FailsApart s bearer clock e ∨
        ∃ f, e = .fault f ∧ s.tokens.verified clock token = .error (.fault f) := by
    cases h with
    | declined h => exact .inl (.declined h)
    | fault h => exact .inr ⟨_, rfl, h⟩
  have orphaned : FailsApart s bearer clock (.refused .refreshOrphaned) := .declined rfl
  apply failsOnly_audited
  apply failsOnly_bind_now
  have unread (e : Failure)
      (failed : asInvalid (s.tokens.validateRefresh clock token) = .error e) :=
    read (readingFails_of_asInvalid (fun _ => validateRefresh_error_cases) failed)
  refine failsOnly_bind_lift unread fun valid checked => ?_
  cases valid with
  | false => exact failsOnly_refuse (.inl (.declined rfl))
  | true =>
    rcases verified_of_validateRefresh (of_asInvalid_ok checked) with ⟨claims, verified, _⟩
    refine failsOnly_bind_lift (fun e failed => ?_) fun email _ => ?_
    · rcases subject_error_cases failed with unverified | ⟨c, rfl, ordinary⟩
      · rw [verified] at unverified
        cases unverified
      · exact .inl (.declined ordinary)
    · refine failsOnly_bind_of_total keeps_directory (fun _ => ⟨_, rfl⟩) fun d => ?_
      split
      · exact failsOnly_refuse (.inl orphaned)
      · split
        · exact (failsOnly_issue _ _).mono fun _ => .inl
        · exact failsOnly_refuse (.inl orphaned)

/-! ## Writing -/

/-- Rejecting a record is declining to store it. -/
theorem failsOnly_reject (email : Option String) :
    FailsOnly clock (FailsApart s bearer clock) (reject email) :=
  failsOnly_bind_of_total (fun _ => rfl) (fun _ => ⟨_, rfl⟩) fun _ =>
    failsOnly_refuse (.declined rfl)

/-- A record is stored, or rejected. -/
theorem failsOnly_store (stamp : String) (m : Member) :
    FailsOnly clock (FailsApart s bearer clock) (store stamp m) := by
  refine failsOnly_bind_of_total keeps_directory (fun _ => ⟨_, rfl⟩) fun d => ?_
  split
  · exact failsOnly_of_total fun _ => ⟨_, rfl⟩
  · exact failsOnly_reject _

/-- A password of which there is a digest is hashed. -/
theorem total_digest {password : String} (fits : (utf8 password).length ≤ maxSecretBytes)
    (w : World) : ∃ digest, ((s.digest password).runIn w).1 = .ok digest := by
  rw [run_digest, Password.secretBytes, if_neg (not_lt.2 fits)]
  exact ⟨_, rfl⟩

/-- Saving a member fails for the time, or it is rejected. -/
theorem failsOnly_save (m : Member) :
    FailsOnly clock (FailsApart s bearer clock) (save m) :=
  failsOnly_bind keeps_timestamp (failsOnly_timestamp fun _ undated => .undated undated)
    fun _ stamp _ _ _ => failsOnly_store stamp m

/-- Saving a new member fails for the time or for its id, or it is rejected. -/
theorem failsOnly_saveNew {id : Except Fault (Option String)}
    (unstorable : ∀ f, id = .error f → FailsApart s bearer clock (.fault f)) (email : Option String)
    (digest : String) :
    FailsOnly clock (FailsApart s bearer clock) (saveNew id email digest) := by
  refine failsOnly_bind keeps_timestamp (failsOnly_timestamp fun _ undated => .undated undated)
    fun _ stamp _ _ _ => failsOnly_bind_liftFault unstorable fun i _ => ?_
  split
  · exact failsOnly_store stamp _
  · exact failsOnly_reject _

/-- Signing up with a password of which there is a digest is declined, or fails for the time. -/
theorem failsOnly_signup (email : Option String) {password : String}
    (fits : (utf8 password).length ≤ maxSecretBytes) :
    FailsOnly clock (FailsApart s bearer clock) (s.signup email password) := by
  apply failsOnly_audited
  refine failsOnly_bind_of_total (keeps_memberAt email) (fun _ => ⟨_, rfl⟩) fun found => ?_
  cases found with
  | some m => exact failsOnly_refuse (.declined rfl)
  | none =>
    refine failsOnly_bind_of_total (fun _ => rfl) (fun _ => ⟨_, rfl⟩) fun serial => ?_
    refine failsOnly_bind_of_total (keeps_digest apart_clock s password) (total_digest fits)
      fun digest => failsOnly_saveNew (fun _ impossible => ?_) email digest
    cases impossible

/-- Changing a password to one of which there is a digest is declined, or fails for the time. -/
theorem failsOnly_changePassword (email current : Option String) {new : String}
    (fits : (utf8 new).length ≤ maxSecretBytes) :
    FailsOnly clock (FailsApart s bearer clock) (s.changePassword email current new) := by
  apply failsOnly_audited
  refine failsOnly_bind_of_total (keeps_memberAt email) (fun _ => ⟨_, rfl⟩) fun found => ?_
  cases found with
  | none => exact failsOnly_refuse (.declined rfl)
  | some m =>
    simp only
    split
    · exact failsOnly_refuse (.declined rfl)
    · split
      · exact failsOnly_refuse (.declined rfl)
      · refine failsOnly_bind_of_total (keeps_digest apart_clock s new) (total_digest fits)
          fun digest => ?_
        exact failsOnly_bind (keeps_save apart_clock _) (failsOnly_save _) fun _ _ _ _ _ =>
          failsOnly_pure _

/-- Saving the member of a first password fails for the time, or for the id that is claimed for a
new one, or it is rejected. -/
theorem failsOnly_saveFirst (found : Option Member) (email digest : String) {claimed : Option Json}
    (unstorable : ∀ v f, claimed = some v → Service.storedId? v = .error f →
      FailsApart s bearer clock (.fault f)) :
    FailsOnly clock (FailsApart s bearer clock) (saveFirst found email digest claimed) := by
  cases found with
  | some m => exact failsOnly_save _
  | none =>
    have total (w : World) : ∃ id, ((Service.claimedId claimed).runIn w).1 = .ok id := by
      rcases run_claimedId claimed w with ⟨w', run, _⟩
      exact ⟨_, by rw [run]⟩
    refine failsOnly_bind (keeps_claimedId apart_clock claimed) (failsOnly_of_total total)
      fun w id w' _ run => failsOnly_saveNew (fun f failed => ?_) email digest
    rcases run_claimedId claimed w with ⟨w'', run', _⟩
    have same : setupId claimed w.ids = .error f := by
      rw [← failed]
      exact Except.ok.inj (Prod.mk.inj (run'.symm.trans run)).1
    unfold setupId at same
    split at same
    · next v kept => exact unstorable v f (Option.filter_eq_some_iff.1 kept).1 same
    · cases same

/-- Setting a first password of which there is a digest fails apart from what is submitted. -/
theorem failsOnly_setInitialPassword {t password : String} (presented : bearer = some t)
    (fits : (utf8 password).length ≤ maxSecretBytes) :
    FailsOnly clock (FailsApart s bearer clock) (s.setInitialPassword t password) := by
  apply failsOnly_audited
  refine failsOnly_bind (keeps_setupEmail s t) (fun w at_time e failed => ?_)
    fun _ email _ _ _ => failsOnly_bind_now (failsOnly_bind_lift (fun e failed => ?_)
      fun claimed named => ?_)
  · rw [run_setupEmail, at_time] at failed
    exact (readingFails_of_confirmedEmail failed).apart presented
  · exact .bearer presented (verified_of_memberId_error failed)
  · refine failsOnly_bind_of_total keeps_directory (fun _ => ⟨_, rfl⟩) fun d => ?_
    simp only
    split
    · exact failsOnly_refuse .passwordSet
    · rw [establish_eq]
      refine failsOnly_bind_of_total (keeps_digest apart_clock s password) (total_digest fits)
        fun digest => failsOnly_bind (keeps_saveFirst apart_clock _ _ _ _) ?_ fun _ m _ _ _ =>
          failsOnly_issue m none
      refine failsOnly_saveFirst _ email digest fun v f claims unstorable => ?_
      rcases lookup_of_memberId named with ⟨claims', verified, same⟩
      exact .claimedId presented verified (same.trans claims) unstorable

/-! ## Asking for the caller -/

/-- Finding the member behind a bearer token fails apart from what is submitted. -/
theorem failsOnly_resolveBearer {t : String} (presented : bearer = some t) :
    FailsOnly clock (FailsApart s bearer clock) (s.resolveBearer t) := by
  rintro w rfl e failed
  cases verified : s.tokens.verified w.clock t with
  | error e' =>
    rcases verified_error_cases verified with ⟨b, rfl⟩ | ⟨u, rfl⟩ | ⟨f, rfl⟩
    · rw [run_resolveBearer_of_error verified rfl] at failed
      rcases Except.error.inj failed with rfl
      exact .bearer presented verified
    · rw [run_resolveBearer_of_unverified verified] at failed
      cases failed
    · rw [run_resolveBearer_of_error verified rfl] at failed
      rcases Except.error.inj failed with rfl
      exact .bearer presented verified
  | ok claims =>
    simp only [run_resolveBearer_of_verified verified, bearerOf] at failed
    split at failed
    · split at failed
      · cases failed
      · rcases Except.error.inj failed with rfl
        exact .declined rfl
    · cases failed

/-- Reading the scopes of a bearer token fails apart from what is submitted. -/
theorem failsOnly_grantedScopes {t : String} (presented : bearer = some t) :
    FailsOnly clock (FailsApart s bearer clock) (s.grantedScopes t) := by
  apply failsOnly_bind_now
  refine failsOnly_lift fun e failed => ?_
  cases verified : s.tokens.verified clock t with
  | error e' =>
    rw [(extract_of_error verified).2.1] at failed
    rcases Except.error.inj failed with rfl
    exact .bearer presented verified
  | ok claims =>
    simp only [Processor.grantedScopes, verified, bind, Except.bind] at failed
    split at failed
    · cases failed
    · next f unreadable =>
      rcases Except.error.inj failed with rfl
      exact .scopes presented verified unreadable

/-- Asking for the caller of a request fails apart from what the request submits. -/
theorem failsOnly_identify (headers : Web.Headers) :
    FailsOnly clock (FailsApart s (Web.bearerToken? headers) clock) (s.identify none headers) := by
  unfold Service.identify
  simp only
  split
  · exact failsOnly_pure _
  · next t presented =>
    refine failsOnly_bind (keeps_resolveBearer s t) (failsOnly_resolveBearer presented)
      fun _ found _ _ _ => ?_
    cases found with
    | none => exact failsOnly_pure _
    | some m =>
      exact failsOnly_bind (keeps_grantedScopes s t) (failsOnly_grantedScopes presented)
        fun _ _ _ _ _ => failsOnly_pure _

end Ways

end Account

end Gatehouse
