import Gatehouse.Proofs.Account.Runs
import Gatehouse.Proofs.Account.Signing

/-!
# The tokens of a session

A session is started by signing in, by renewing one and by setting a first password.  Its member
is stored at that moment, and both of its tokens name the address of the member: the access token
and a new refresh token were signed for it, and a refresh token that was presented is what the
member was found by.

Main results:

- `issued_of_run`: what a session is issued with.
- `Operation.Starts.issued`: every session is issued to a stored member.
- `Operation.Starts.text`: the access token of a session.
- `Operation.Starts.names`: the tokens of a session name its member.
-/

namespace Gatehouse.Account

open Gatehouse.Text Gatehouse.Token Gatehouse.Flow

/-! ## Issuing -/

section Issuing

variable {s : Service} {w : World} {m : Member} {presented : Option String} {session : Session}

/-- A session that was issued is that of the member, with an access token that was signed for it,
and with the refresh token that was presented or one that was signed for it. -/
theorem issued_of_run (run : ((s.issue m presented).runIn w).1 = .ok session) :
    IssuedTo m presented session ∧
      ((s.issueAccess m.email m.role.scopeTexts m.id).runIn w).1 = .ok session.accessToken ∧
      (presented = none →
        ∃ w₁, ((s.issueRefresh m.email).runIn w₁).1 = .ok session.refreshToken) := by
  unfold Service.issue at run
  rw [run_bind] at run
  rcases first : (s.issueAccess m.email m.role.scopeTexts m.id).runIn w with ⟨e | access, w₁⟩
  · rw [first] at run
    cases run
  · rw [first] at run
    cases presented with
    | some t =>
      simp only [run_bind, run_pure] at run
      cases run
      exact ⟨⟨rfl, rfl, fun _ same => Option.some.inj same⟩, rfl, fun none => by cases none⟩
    | none =>
      simp only [run_bind] at run
      rcases second : (s.issueRefresh m.email).runIn w₁ with ⟨e | refresh, w₂⟩
      · rw [second] at run
        cases run
      · rw [second] at run
        cases run
        exact ⟨⟨rfl, rfl, fun _ same => by cases same⟩, rfl, fun _ => ⟨w₁, by rw [second]⟩⟩

/-- A session is issued to its member at the time of a world, on a presented refresh token if
there is one, and the member is stored in the world after that. -/
structure Issuance (s : Service) (w : World) (session : Session) (presented : Option String)
    (w' : World) : Prop where
  stored : session.member ∈ w'.directory.members
  issued : ∃ w₁, w₁.clock = w.clock ∧
    ((s.issue session.member presented).runIn w₁).1 = .ok session

/-- A session that a flow opens is issued to a stored member for whom there are grounds. -/
theorem Opens.issued {grounds : Member → Option String → Prop} {f : Flow Session} {w' : World}
    (h : Opens s grounds f w) (run : f.runIn w = (.ok session, w')) :
    ∃ presented, grounds session.member presented ∧ Issuance s w session presented w' := by
  rcases h with declined | ⟨m, presented, w₁, ground, issued⟩
  · rcases declined.outcome with ⟨e, failed⟩
    rw [run] at failed
    cases failed
  · have outcome := issued.outcome
    have directory := issued.directory
    rw [run] at outcome directory
    rcases (issued_of_run outcome.symm).1.member with rfl
    refine ⟨presented, ground, ?_, w₁, issued.clock, outcome.symm⟩
    rw [directory]
    exact issued.stored

/-- Under a plain secret a token that was signed has an expiry, and its text is known but for its
serial number. -/
theorem text_of_mint (plain : PlainSecret s.tokens.secret) {claims : Claims} {ttl : Int}
    {t : String} (h : ((s.mint claims ttl).runIn w).1 = .ok t) :
    ∃ expiry serial, expiryOf w.clock ttl = .ok expiry ∧
      t = issuedText s.tokens.secret claims w.clock expiry serial := by
  cases times : expiryOf w.clock ttl with
  | ok expiry =>
    rw [run_mint plain claims times] at h
    exact ⟨expiry, w.ids + 1, rfl, (Except.ok.inj h).symm⟩
  | error f =>
    simp [Service.mint, times, Except.mapError] at h

/-- Under a plain secret a temporary token is signed if it has an expiry, at no time at all. -/
theorem run_issueTemporaryToken (plain : PlainSecret s.tokens.secret) (grant : SetupGrant)
    {expiry : Float} (times : expiryOf w.clock s.tokens.temporaryTtl = .ok expiry) :
    ∃ w', (s.issueTemporaryToken grant).runIn w =
        (.ok (issuedText s.tokens.secret (temporaryClaims grant) w.clock expiry (w.ids + 1)), w') ∧
      w'.clock = w.clock ∧ w'.directory = w.directory := by
  rw [Service.issueTemporaryToken, run_audited]
  simp only [Service.issueTemporary, Service.mint, run_bind, run_now, run_liftFault,
    World.clock_logged, times, Except.mapError, run_freshId, World.ids_logged,
    seal_eq_issuedText plain, run_note, run_pure]
  exact ⟨_, rfl, rfl, rfl⟩

end Issuing

/-! ## Scopes -/

/-- The scopes of a role are words. -/
theorem isWord_of_mem_scopeTexts (r : Role) : ∀ x ∈ r.scopeTexts, IsWord x := by
  have words : ∀ scope ∈ Scope.every, IsWord scope.text := by
    have plain : (Scope.every.all fun scope =>
        scope.text ≠ "" && scope.text.toList.all fun c => !isBlank c) = true := by decide
    intro scope member
    have plain := List.all_eq_true.1 plain scope member
    rw [Bool.and_eq_true, decide_eq_true_eq] at plain
    exact ⟨plain.1, fun c hc => by simpa using List.all_eq_true.1 plain.2 c hc⟩
  intro x hx
  rcases List.mem_map.1 hx with ⟨scope, _, rfl⟩
  apply words
  rcases scope with ⟨action, breadth⟩
  cases action <;> cases breadth <;> decide

/-! ## Naming an address -/

/-- A token names an address as its subject. -/
def Names (t email : String) : Prop :=
  ∃ c, ReadsAs t c ∧ Keyed.lookup c.claims "sub" = some (.string email)

/-- A token names one address at most. -/
theorem Names.unique {t email email' : String} (h : Names t email) (h' : Names t email') :
    email = email' := by
  rcases h with ⟨c, read, named⟩
  rcases h' with ⟨c', read', named'⟩
  rw [read'.unique read, named] at named'
  simpa using named'

/-- An issued token names its subject. -/
theorem Issued.names {t email : String} {use : Use} (h : Issued t use (some email)) :
    Names t email := by
  rcases claims_of_issued h with ⟨c, read, claims⟩
  exact ⟨c, read, claims.subject⟩

/-- A token that verifies names the subject of its claims. -/
theorem names_of_verified {p : Processor} {now : Float} {t email : String} {claims : Claims}
    (verified : p.verified now t = .ok claims)
    (named : Keyed.lookup claims "sub" = some (.string email)) : Names t email := by
  rcases exists_read_of_verified verified with ⟨c, read, rfl⟩
  exact ⟨c, ⟨_, read⟩, named⟩

/-! ## Starting a session -/

namespace Operation

/-- The session that an operation answers with. -/
def session? : (o : Operation) → o.Answer → Option Session
  | .signin .., session => some session
  | .refresh .., session => some session
  | .setInitialPassword .., session => some session
  | _, _ => none

/-- An operation starts a session, and leaves a world. -/
def Starts (s : Service) (o : Operation) (w : World) (session : Session) (w' : World) : Prop :=
  ∃ a, (o.flow s).runIn w = (.ok a, w') ∧ o.session? a = some session

variable {s : Service} {o : Operation} {w w' : World} {session : Session}

/-- Every session is issued to a stored member at the time of the operation, and a token that is
presented for it names the member. -/
theorem Starts.issued (h : o.Starts s w session w') :
    ∃ presented, Issuance s w session presented w' ∧
      ∀ t, presented = some t → Names t session.member.email := by
  rcases h with ⟨a, run, answer⟩
  cases o with
  | signin email password =>
    rcases Option.some.inj answer with rfl
    rcases opens_signin.issued run with ⟨_, ⟨_, rfl⟩, issuance⟩
    exact ⟨none, issuance, fun _ same => by cases same⟩
  | refresh token =>
    rcases Option.some.inj answer with rfl
    rcases opens_refresh.issued run with ⟨presented, ⟨renews, rfl⟩, issuance⟩
    refine ⟨presented, issuance, ?_⟩
    rintro t rfl
    rcases renews.verified with ⟨claims, verified, _, _, named⟩
    exact names_of_verified verified named
  | setInitialPassword token password =>
    rcases Option.some.inj answer with rfl
    rcases (opens_setInitialPassword password).issued run with ⟨_, ⟨_, rfl⟩, issuance⟩
    exact ⟨none, issuance, fun _ same => by cases same⟩
  | _ => cases answer

/-- Setting a first password starts the session that it answers with. -/
theorem starts_setInitialPassword {token password : Option String}
    (h : ((s.setInitialPassword token password).runIn w).1 = .ok session) :
    (setInitialPassword token password).Starts s w session
      ((s.setInitialPassword token password).runIn w).2 :=
  ⟨session, Prod.ext h rfl, rfl⟩

/-- The member of a session is stored when the session is started. -/
theorem Starts.stored (h : o.Starts s w session w') : session.member ∈ w'.directory.members := by
  rcases h.issued with ⟨presented, issuance, _⟩
  exact issuance.stored

/-- The access token of a session is signed for its member, with the scopes of its role. -/
theorem Starts.text (plain : PlainSecret s.tokens.secret) (h : o.Starts s w session w') :
    session.scopes = session.member.role.scopeTexts ∧
      ∃ expiry serial, expiryOf w.clock s.tokens.accessTtl = .ok expiry ∧
        session.accessToken = issuedText s.tokens.secret
          (accessClaims session.member.email session.member.role.scopeTexts session.member.id)
          w.clock expiry serial := by
  rcases h.issued with ⟨presented, issuance, _⟩
  rcases issuance.issued with ⟨w₁, clock, issued⟩
  rcases issued_of_run issued with ⟨issuedTo, access, _⟩
  rcases text_of_mint plain access with ⟨expiry, serial, times, text⟩
  rw [clock] at times text
  exact ⟨issuedTo.scopes, expiry, serial, times, text⟩

/-- The access token of a session says who its member is and which scopes the session has. -/
theorem Starts.shown (plain : PlainSecret s.tokens.secret) (h : o.Starts s w session w')
    (named : session.member.email ≠ "") (finite : (Number.toRat? w.clock).isSome) {expiry : Float}
    (times : expiryOf w.clock s.tokens.accessTtl = .ok expiry) :
    Says s.tokens session.accessToken session.member.email session.scopes
      ((some session.member.id).filter (· ≠ "")) access expiry := by
  rcases h.text plain with ⟨scopes, expiry', serial, times', text⟩
  rcases Except.ok.inj (times'.symm.trans times) with rfl
  have words := isWord_of_mem_scopeTexts session.member.role
  have sorted : ∀ x ∈ inOrder session.member.role.scopeTexts, IsWord x :=
    fun x hx => words x (List.mem_mergeSort.1 hx)
  rw [text, scopes]
  exact (says_issuedText plain (carries_accessClaims _ words _) named sorted finite expiry'
    serial).of_inOrder

/-- Both tokens of a session name the address of its member. -/
theorem Starts.names (h : o.Starts s w session w') :
    Names session.accessToken session.member.email ∧
      Names session.refreshToken session.member.email := by
  rcases h.issued with ⟨presented, issuance, named⟩
  rcases issuance.issued with ⟨w₁, _, issued⟩
  rcases issued_of_run issued with ⟨issuedTo, access, refresh⟩
  refine ⟨(Issued.access access).names, ?_⟩
  cases presented with
  | some t =>
    rw [issuedTo.refreshToken t rfl]
    exact named t rfl
  | none =>
    rcases refresh rfl with ⟨w₂, signed⟩
    exact (Issued.refresh signed).names

end Operation

end Gatehouse.Account
