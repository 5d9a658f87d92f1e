import Gatehouse.Proofs.Account.FailureCauses
import Gatehouse.Proofs.Form.Acceptance
import Gatehouse.Proofs.Web.Signing

/-!
# After a form is accepted

What becomes of a request whose body is accepted as a form.  A refusal as an invalid request can
then only say that a password has been set already.  An unexpected failure comes from the clock, the
lifetimes, the key or the bearer token, with two exceptions: a confirmation one of whose texts is
blank makes no grant, and verifying a refresh token may end in a fault.

Main results:

- `status_answer_of_reaches`: the status of the response to a request that reaches an endpoint.
- `answers_run`: how endpoints end once their forms are accepted.
- `accepted_forms_fit`: what accepted forms are good for.
-/

namespace Gatehouse.Web

open Gatehouse.Text Gatehouse.Form Gatehouse.Account Gatehouse.Flow

namespace Site

/-! ## How requests end -/

/-- The status of the response to an operation that fails. -/
def failureStatus : Failure → Nat
  | .refused c => Response.statusOf c.kind
  | _ => 500

/-- The status of the response to an outcome. -/
def statusOf : Except Failure Response → Nat
  | .ok response => response.status
  | .error e => failureStatus e

/-- A refusal is answered with the status of its kind. -/
theorem status_ofRefusal (refusal : Refusal) :
    (Response.ofRefusal refusal).status = Response.statusOf refusal.kind := by
  unfold Response.ofRefusal
  dsimp only
  split <;> rfl

/-- The server answers a request that reaches an endpoint with the status of its outcome. -/
theorem status_answer_of_reaches {site : Site} {r : Request} {s : Server} {e : Endpoint}
    (h : site.Reaches r s e) :
    (site.answer r s).1.status = statusOf ((site.run r e).runIn s.world).1 := by
  rcases reaches_iff.1 h with ⟨hpre, ⟨l, hpass⟩, trusted, found⟩
  have acts : site.inner r (site.run r) = settled r (site.run r e) := by
    simp only [inner, trusted, routed, found]
  simp only [answer, answerBy, marked, hpre, guarded_of_passes hpass, acts, Bool.false_eq_true,
    if_false, run_settled]
  rcases (site.run r e).runIn s.world with ⟨failure | response, w⟩
  · cases failure with
    | refused c => exact (OriginPolicy.decorate_content ..).1.trans (status_ofRefusal _)
    | fault f => rfl
    | cancelled => rfl
  · exact (OriginPolicy.decorate_content ..).1

/-! ## Forms that are accepted -/

/-- The body of a request fills in the form of an endpoint. -/
def FillsIn (r : Request) : Endpoint → Prop
  | .signin => ∃ c, filledIn? r Form.signin = some c
  | .refresh => ∃ f, filledIn? r Form.refresh = some f
  | .temporaryToken => ∃ c, filledIn? r Form.temporaryToken = some c
  | .passwordSetup => ∃ f, filledIn? r Form.passwordSetup = some f
  | .passwordChange => ∃ f, filledIn? r Form.passwordChange = some f
  | .signup => ∃ c, filledIn? r Form.signup = some c
  | .ownRecord | .memberByEmail | .health => False

/-- The form that is filled in is read of the fields of an object. -/
theorem exists_read_of_filledIn {α : Type} {r : Request} {form : Form α} {a : α}
    (h : filledIn? r form = some a) : ∃ fields, form.read fields = .ok a := by
  unfold filledIn? at h
  split at h
  · next submission _ =>
    cases submission with
    | json v =>
      cases v with
      | object fields =>
        refine ⟨fields, ?_⟩
        cases read : form.read fields with
        | ok b => simpa [submitted_object, read, Checked.under, Except.mapError, Except.toOption]
            using h
        | error findings =>
          simp [submitted_object, read, Checked.under, Except.mapError, Except.toOption] at h
      | _ => cases h
    | _ => cases h
  · cases h

/-- What is asked for first decides whether an endpoint acts on a form that is filled in. -/
theorem submittedAfter_of_filledIn {α β : Type} {r : Request} {form : Form α} {a : α}
    (h : filledIn? r form = some a) (first : Flow (Except Response β))
    (act : β → α → Flow Response) :
    submittedAfter r first form act = (do
      match ← first with
      | .error response => return response
      | .ok b => act b a) := by
  unfold filledIn? at h
  split at h
  · next submission read =>
    cases checked : form.submitted submission with
    | ok b =>
      rw [checked] at h
      rcases Option.some.inj h with rfl
      rw [submittedAfter, read]
      refine bind_congr fun answer => ?_
      cases answer with
      | error response => rfl
      | ok b => simp only [checked]
    | error findings =>
      rw [checked] at h
      cases h
  · cases h

/-! ## How endpoints end -/

/-- An endpoint fails on account of its form, although that was accepted. -/
inductive FormFails (site : Site) (r : Request) (clock : Float) : Endpoint → Failure → Prop
  /-- A service with the key confirms texts that make no grant. -/
  | noGrant {c : Confirmation} {f : Fault} (submits : filledIn? r Form.temporaryToken = some c)
    (shared : site.settings.internalKey ≠ "")
    (presents : presentedKey r = site.settings.internalKey)
    (h : Token.SetupGrant.create c.email c.memberId = .error f) :
    FormFails site r clock .temporaryToken (.fault f)
  /-- Verifying the refresh token ends in a fault. -/
  | unverifiable {renewal : Renewal} {f : Fault} (submits : filledIn? r Form.refresh = some renewal)
    (h : site.service.tokens.verified clock renewal.refreshToken = .error (.fault f)) :
    FormFails site r clock .refresh (.fault f)

/-- A response is neither that to an invalid request nor that to an unexpected failure. -/
def IsOrdinary (response : Response) : Prop :=
  response.status ≠ 400 ∧ response.status ≠ 500

/-- Whatever else there is in the world, at a time there is an ordinary response, or a failure in
ways of which something holds. -/
structure Answers (clock : Float) (ways : Failure → Prop) (f : Flow Response) : Prop where
  failsOnly : FailsOnly clock ways f
  ordinary : ∀ w response, w.clock = clock → (f.runIn w).1 = .ok response → IsOrdinary response

section Answers

variable {clock : Float} {ways : Failure → Prop} {f : Flow Response}

/-- A response that is ordinary is an answer. -/
theorem answers_pure {response : Response} (h : IsOrdinary response) :
    Answers clock ways (pure response) := by
  refine ⟨failsOnly_pure response, ?_⟩
  rintro w response' - ⟨⟩
  exact h

/-- What implies something else may be replaced by it. -/
theorem Answers.mono {ways' : Failure → Prop} (h : Answers clock ways f)
    (implies : ∀ e, ways e → ways' e) : Answers clock ways' f :=
  ⟨h.failsOnly.mono implies, h.ordinary⟩

/-- A sequence answers if its second part does, and fails in the ways of its parts. -/
theorem answers_bind {α : Type} {f : Flow α} {g : α → Flow Response}
    (untimed : Keeps World.clock f) (hf : FailsOnly clock ways f)
    (hg : ∀ w a w', w.clock = clock → f.runIn w = (.ok a, w') → Answers clock ways (g a)) :
    Answers clock ways (f >>= g) := by
  refine ⟨failsOnly_bind untimed hf fun w a w' at_time run => (hg w a w' at_time run).failsOnly, ?_⟩
  intro w response at_time answered
  have kept := untimed w
  rw [run_bind] at answered
  rcases run : f.runIn w with ⟨e | a, w'⟩
  · rw [run] at answered
    cases answered
  · rw [run] at answered kept
    exact (hg w a w' at_time run).ordinary w' response (kept.trans at_time) answered

/-- What is answered once an operation has succeeded. -/
theorem answers_bind_pure {α : Type} {f : Flow α} {shown : α → Response}
    (hf : FailsOnly clock ways f) (ordinary : ∀ a, IsOrdinary (shown a)) :
    Answers clock ways (f >>= fun a => pure (shown a)) := by
  refine ⟨fun w at_time e failed => ?_, fun w response at_time answered => ?_⟩
  · rw [run_bind] at failed
    rcases run : f.runIn w with ⟨e' | a, w'⟩
    · rw [run] at failed
      rcases Except.error.inj failed with rfl
      exact hf w at_time _ (by rw [run])
    · rw [run] at failed
      cases failed
  · rw [run_bind] at answered
    rcases run : f.runIn w with ⟨e' | a, w'⟩
    · rw [run] at answered
      cases answered
    · rw [run] at answered
      rcases Except.ok.inj answered with rfl
      exact ordinary a

end Answers

section Endpoints

variable {site : Site} {r : Request} {clock : Float}

/-- An endpoint fails on account of its form, or apart from it. -/
def Fails (site : Site) (r : Request) (clock : Float) (e : Endpoint) (failure : Failure) : Prop :=
  FormFails site r clock e failure ∨
    FailsApart site.service (bearerToken? r.headers) clock failure

/-- A session is an ordinary response. -/
theorem isOrdinary_secret (v : Json) : IsOrdinary (.secret v) :=
  ⟨by nofun, by nofun⟩

/-- A caller who is turned away gets an ordinary response. -/
theorem isOrdinary_ofDenial (d : Denial) : IsOrdinary (.ofDenial d) := by
  cases d with
  | unauthenticated => exact ⟨by decide, by decide⟩
  | missingScope scope => exact ⟨by nofun, by nofun⟩

/-- Asking for the caller fails apart from the form. -/
theorem failsOnly_caller (check : Caller → Except Denial Member) :
    FailsOnly clock (FailsApart site.service (bearerToken? r.headers) clock)
      (site.caller r check) :=
  failsOnly_bind (keeps_identify site.service r.headers) (failsOnly_identify r.headers)
    fun _ _ _ _ _ => failsOnly_pure _

/-- A caller who is not let through is denied. -/
theorem exists_denial_of_run_caller {check : Caller → Except Denial Member} {w w' : World}
    {response : Response} (asked : (site.caller r check).runIn w = (.ok (.error response), w')) :
    ∃ d, response = .ofDenial d := by
  rw [caller, run_bind] at asked
  rcases ran : (site.service.identify none r.headers).runIn w with ⟨e | c, v⟩
  · rw [ran] at asked
    cases (Prod.mk.inj asked).1
  · rw [ran] at asked
    simp only [run_pure] at asked
    cases checked : check c with
    | ok m =>
      rw [checked] at asked
      cases (Prod.mk.inj asked).1
    | error d =>
      rw [checked] at asked
      exact ⟨d, (Except.error.inj (Except.ok.inj (Prod.mk.inj asked).1)).symm⟩

/-- A caller who is not let through gets an ordinary response. -/
theorem isOrdinary_of_run_caller {check : Caller → Except Denial Member} {w w' : World}
    {response : Response} (asked : (site.caller r check).runIn w = (.ok (.error response), w')) :
    IsOrdinary response := by
  rcases exists_denial_of_run_caller asked with ⟨d, rfl⟩
  exact isOrdinary_ofDenial d

/-- How the endpoints end whose forms are accepted. -/
theorem answers_run {e : Endpoint} (accepted : FillsIn r e) :
    Answers clock (Fails site r clock e) (site.run r e) := by
  cases e with
  | signin =>
    rcases accepted with ⟨c, submits⟩
    rw [run, signin, submitted_of_filledIn submits]
    exact (answers_bind_pure (failsOnly_signin c.email c.password)
      fun session => isOrdinary_secret _).mono fun _ => .inr
  | refresh =>
    rcases accepted with ⟨renewal, submits⟩
    rw [run, refresh, submitted_of_filledIn submits]
    refine (answers_bind_pure (failsOnly_refresh (bearerToken? r.headers) renewal.refreshToken)
      fun session => isOrdinary_secret _).mono ?_
    rintro failure (apart | ⟨f, rfl, unverified⟩)
    · exact .inr apart
    · exact .inl (.unverifiable submits unverified)
  | temporaryToken =>
    rcases accepted with ⟨c, submits⟩
    rw [run, temporaryToken, submitted_of_filledIn submits]
    split
    · exact answers_pure ⟨by decide, by decide⟩
    · next shared =>
      split
      · exact answers_pure ⟨by decide, by decide⟩
      · next presents =>
        refine answers_bind (keeps_liftFault _) (failsOnly_liftFault fun f noGrant =>
          .inl (.noGrant submits shared (Decidable.not_not.1 presents) noGrant))
          fun _ grant _ _ _ => ?_
        exact (answers_bind_pure (failsOnly_issueTemporaryToken grant)
          fun token => isOrdinary_secret _).mono fun _ => .inr
  | passwordSetup =>
    rcases accepted with ⟨f, submits⟩
    rcases exists_read_of_filledIn submits with ⟨fields, read⟩
    rw [run, passwordSetup, submitted_of_filledIn submits]
    split
    · exact answers_pure ⟨by decide, by decide⟩
    · next t presented =>
      have short := length_of_passwordSetup read
      exact (answers_bind_pure (failsOnly_setInitialPassword presented short)
        fun session => isOrdinary_secret _).mono fun _ => .inr
  | passwordChange =>
    rcases accepted with ⟨f, submits⟩
    rcases exists_read_of_filledIn submits with ⟨fields, read⟩
    rw [run, passwordChange, submittedAfter_of_filledIn submits]
    refine answers_bind (keeps_caller _) ((failsOnly_caller _).mono fun _ => .inr)
      fun w outcome _ _ asked => ?_
    cases outcome with
    | error response => exact answers_pure (isOrdinary_of_run_caller asked)
    | ok m =>
      exact (answers_bind_pure (failsOnly_changePassword m.email f.currentPassword
        (length_of_passwordChange read)) fun _ => ⟨by nofun, by nofun⟩).mono fun _ => .inr
  | signup =>
    rcases accepted with ⟨c, submits⟩
    rcases exists_read_of_filledIn submits with ⟨fields, read⟩
    rw [run, signup, submitted_of_filledIn submits]
    exact (answers_bind_pure (failsOnly_signup c.email (length_of_signup read))
      fun m => ⟨by nofun, by nofun⟩).mono fun _ => .inr
  | ownRecord | memberByEmail | health => exact accepted.elim

end Endpoints

/-! ## What accepted forms are good for -/

/-- The body of a request submits a new password, in a form that is accepted. -/
inductive SubmitsNew (r : Request) : String → Prop
  | signup {c : Credentials} (submits : filledIn? r Form.signup = some c) : SubmitsNew r c.password
  | passwordSetup {f : FirstPassword} (submits : filledIn? r Form.passwordSetup = some f) :
    SubmitsNew r f.password
  | passwordChange {f : Replacement} (submits : filledIn? r Form.passwordChange = some f) :
    SubmitsNew r f.newPassword

/-- A new password that is submitted is no longer than a secret may be. -/
theorem SubmitsNew.length_le {r : Request} {password : String} (h : SubmitsNew r password) :
    (utf8 password).length ≤ maxSecretBytes := by
  cases h with
  | signup submits =>
    rcases exists_read_of_filledIn submits with ⟨fields, read⟩
    exact length_of_signup read
  | passwordSetup submits =>
    rcases exists_read_of_filledIn submits with ⟨fields, read⟩
    exact length_of_passwordSetup read
  | passwordChange submits =>
    rcases exists_read_of_filledIn submits with ⟨fields, read⟩
    exact length_of_passwordChange read

section Outcomes

variable {site : Site} {r : Request} {e : Endpoint} {failure : Failure} {w : World}

/-- What fails on account of its form fails in that way. -/
theorem FormFails.run_eq (h : FormFails site r w.clock e failure) :
    ((site.run r e).runIn w).1 = .error failure := by
  cases h with
  | noGrant submits shared presents h =>
    rw [run, temporaryToken, submitted_of_filledIn submits, if_neg shared,
      if_neg (not_not.2 presents), run_bind, run_liftFault, h]
    rfl
  | unverifiable submits h =>
    rw [run, refresh, submitted_of_filledIn submits, run_bind,
      run_of_outcome (Token.run_refresh_of_error h rfl rfl).1]

/-- A failure on account of a form is an unexpected one. -/
theorem FormFails.status (h : FormFails site r w.clock e failure) :
    failureStatus failure = 500 := by
  cases h <;> rfl

/-- Of the failures apart from forms, only that of a password that was set already is answered as
an invalid request. -/
theorem eq_passwordSet_of_status {s : Service} {bearer : Option String} {clock : Float}
    (h : FailsApart s bearer clock failure) (status : failureStatus failure = 400) :
    failure = .refused .passwordAlreadySet := by
  cases h with
  | @declined c ordinary =>
    exfalso
    cases kind : c.kind <;>
      simp [isOrdinary, failureStatus, Response.statusOf, kind] at ordinary status
  | passwordSet => rfl
  | bearer presented h =>
    rcases Token.verified_error_cases h with ⟨b, rfl⟩ | ⟨u, rfl⟩ | ⟨f, rfl⟩ <;> cases status
  | undated | unending | unsigned | scopes | claimedId => cases status

end Outcomes

/-- What accepted forms are good for:

- an accepted confirmation makes a grant exactly when neither of its texts is blank, and a text of
  it that is blank holds a separator, for it was trimmed of white space;
- of an accepted new password there is a digest, at every cost and with every salt;
- a request with an accepted form that reaches its endpoint is answered as an invalid request only
  if a password has been set already; and it is answered as an unexpected failure exactly if it
  fails on account of its form, as a confirmation that makes no grant or a refresh token whose
  verification ends in a fault, or if it fails that way for the clock, the lifetimes, the key or its
  bearer token. -/
theorem accepted_forms_fit (site : Site) (r : Request) :
    (∀ c, filledIn? r Form.temporaryToken = some c →
      ((∃ grant, Token.SetupGrant.create c.email c.memberId = .ok grant) ↔
        allBlank c.email = false ∧ allBlank c.memberId = false) ∧
      ∀ t ∈ [c.email, c.memberId], allBlank t = true → ∃ x ∈ t.toList, isSeparator x = true) ∧
    (∀ password, SubmitsNew r password → ∀ (v : Password.Verifier) (serial : Nat),
      ∃ digest, v.hash serial password = .ok digest) ∧
    ∀ s e, FillsIn r e → site.Reaches r s e →
      ((site.answer r s).1.status = 400 →
        ((site.run r e).runIn s.world).1 = .error (.refused .passwordAlreadySet)) ∧
      ((site.answer r s).1.status = 500 ↔
        (∃ failure, FormFails site r s.world.clock e failure) ∨
          ∃ failure, FailsApart site.service (bearerToken? r.headers) s.world.clock failure ∧
            failureStatus failure = 500 ∧
            ((site.run r e).runIn s.world).1 = .error failure) := by
  refine ⟨fun c submits => ⟨Token.SetupGrant.create_ok_iff, fun t ht blank => ?_⟩,
    fun password submits v serial => ?_, fun s e accepted reaches => ?_⟩
  · rcases exists_read_of_filledIn submits with ⟨fields, read⟩
    rcases trimmed_of_temporaryToken read t ht with ⟨⟨given, trimmed⟩, nonempty⟩
    exact exists_separator_of_trimmed trimmed nonempty blank
  · exact ⟨_, by
      rw [Password.Verifier.hash, Password.secretBytes, if_neg (not_lt.2 submits.length_le)]
      rfl⟩
  · have answers : Answers s.world.clock (Fails site r s.world.clock e) (site.run r e) :=
      answers_run accepted
    rw [status_answer_of_reaches reaches]
    cases outcome : ((site.run r e).runIn s.world).1 with
    | ok response =>
      have ordinary := answers.ordinary s.world response rfl outcome
      refine ⟨fun status => absurd status ordinary.1, fun status => absurd status ordinary.2, ?_⟩
      rintro (⟨failure, onAccount⟩ | ⟨failure, _, _, failed⟩)
      · rw [onAccount.run_eq] at outcome
        cases outcome
      · cases failed
    | error failure =>
      have fails := answers.failsOnly s.world rfl failure outcome
      refine ⟨fun status => ?_, fun status => ?_, ?_⟩
      · rcases fails with onAccount | apart
        · rw [statusOf, onAccount.status] at status
          cases status
        · rw [eq_passwordSet_of_status apart status]
      · exact fails.imp (fun onAccount => ⟨failure, onAccount⟩)
          fun apart => ⟨failure, apart, status, rfl⟩
      · rintro (⟨failure', onAccount⟩ | ⟨failure', _, status, failed⟩)
        · rw [onAccount.run_eq] at outcome
          rw [← Except.error.inj outcome]
          exact onAccount.status
        · rw [Except.error.inj failed]
          exact status

/-- A request of the service with the key that confirms a file separator as an address. -/
def separatorRequest : Request :=
  { partnersRequest with
    body := utf8 "\x7b\"email\":\"\\u001c\",\"member_id\":\"m1\"\x7d" }

/-- That request reaches the endpoint for temporary tokens of a server that no one has called. -/
theorem separatorRequest_reaches :
    partneredSite.Reaches separatorRequest freshServer .temporaryToken := by
  have trusted : (HostPolicy.mk partneredSite.settings.allowedHosts).verdict separatorRequest =
      .trusted := HostPolicy.judge_of_open (by decide) _
  have costs : partneredSite.costs separatorRequest = true := by decide +kernel
  exact reaches_iff.2 ⟨by decide,
    (exists_passes_iff costs).2 ⟨by decide +kernel, by decide +kernel⟩, trusted, by decide⟩

/-- A usual confirmation makes a grant; a separator is accepted as an address, and the response says
that something unexpected happened. -/
theorem confirmations_fit_unless_blank :
    filledIn? partnersRequest Form.temporaryToken = some ⟨"a@x", "m1"⟩ ∧
      (∃ grant, Token.SetupGrant.create "a@x" "m1" = .ok grant) ∧
      filledIn? separatorRequest Form.temporaryToken = some ⟨"\x1c", "m1"⟩ ∧
      FillsIn separatorRequest .temporaryToken ∧
      partneredSite.Reaches separatorRequest freshServer .temporaryToken ∧
      (partneredSite.answer separatorRequest freshServer).1.status = 500 := by
  have usual : filledIn? partnersRequest Form.temporaryToken = some ⟨"a@x", "m1"⟩ := by
    decide +kernel
  have separator : filledIn? separatorRequest Form.temporaryToken = some ⟨"\x1c", "m1"⟩ := by
    decide +kernel
  have noGrant : Token.SetupGrant.create "\x1c" "m1" = .error .blankEmail := rfl
  have fails : FormFails partneredSite separatorRequest freshServer.world.clock .temporaryToken
      (.fault .blankEmail) := .noGrant separator (by decide) (by decide) noGrant
  have fits := accepted_forms_fit partneredSite partnersRequest
  have answered := (accepted_forms_fit partneredSite separatorRequest).2.2 freshServer
    .temporaryToken ⟨_, separator⟩ separatorRequest_reaches
  exact ⟨usual, (fits.1 _ usual).1.2 ⟨by decide, by decide⟩, separator, ⟨_, separator⟩,
    separatorRequest_reaches, answered.2.2 (.inl ⟨_, fails⟩)⟩

/-- A body that is accepted, of whose texts no grant can be made: the response to it says that
something unexpected happened. -/
theorem separator_accepted_as_address :
    filledIn? separatorRequest Form.temporaryToken = some ⟨"\x1c", "m1"⟩ ∧
      Token.SetupGrant.create "\x1c" "m1" = .error .blankEmail ∧
      (partneredSite.answer separatorRequest freshServer).1.status = 500 := by
  have submits : filledIn? separatorRequest Form.temporaryToken = some ⟨"\x1c", "m1"⟩ := by
    decide +kernel
  have noGrant : Token.SetupGrant.create "\x1c" "m1" = .error .blankEmail := rfl
  exact ⟨submits, noGrant, by decide +kernel⟩

end Site

end Gatehouse.Web
