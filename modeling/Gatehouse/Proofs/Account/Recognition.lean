import Gatehouse.Proofs.Account.FirstPassword

/-!
# The password that was set signs in

A password is set by signing up, by setting a first one and by changing one.  Each way, the member
that is stored has a digest that the password is accepted for, so signing in with it succeeds for
that member.  Only a change of the same member's password ends this: what is done for other
addresses leaves the member as it is.

Main results:

- `recognises_of_stored`: a stored digest that the password is accepted for.
- `yields_signup`, `yields_setInitialPassword`, `yields_changePassword`: the member that is stored
  when a password is set.
- `exists_session_of_recognised`: whoever is recognised signs in.
- `password_set_signs_in`: at once and after any calls for other addresses.
-/

namespace Gatehouse.Account

open Gatehouse.Text Gatehouse.Token Gatehouse.Flow

/-! ## Signing in -/

/-- A member that is enabled and has a digest for a password is recognised by it. -/
theorem recognises_of_stored {d : Directory} {email password : Option String} {m : Member}
    {digest : String} (stored : m ∈ d.members) (named : email = some m.email)
    (enabled : m.enabled = true) (has : m.passwordDigest = some digest)
    (accepted : Password.accepts password (some digest) = true) :
    Recognises d email password m where
  stored := stored
  email := named
  enabled := enabled
  hasPassword :=
    (Member.hasPassword_eq_true_iff m).2 ⟨digest, has, Password.ne_empty_of_accepts accepted⟩
  accepted := by rw [has, accepted]

/-- Whoever is recognised signs in. -/
theorem exists_session_of_recognised {s : Service} (plain : PlainSecret s.tokens.secret) {w : World}
    (lasting : Lasting s w.clock) {email password : Option String} {m : Member}
    (h : Recognises w.directory email password m) :
    ∃ session, ((s.signin email password).runIn w).1 = .ok session ∧ session.member = m := by
  have found : email.bind w.directory.findByEmail = some m :=
    bind_findByEmail_eq_some_iff.2 ⟨h.stored, h.email⟩
  rcases exists_session_of_lasting (w := w.logged (Audit.attempt "signin")) plain lasting m none
    with ⟨session, issued⟩
  refine ⟨session, ?_, (issued_of_run issued).1.member⟩
  simp only [Service.signin, run_audited, run_bind, run_memberAt, World.directory_logged, found,
    h.enabled, h.hasPassword, h.accepted, Bool.not_true, Bool.or_self, Bool.false_eq_true, if_false,
    issued]

/-! ## Setting a password -/

section Setting

variable {s : Service} {w : World}

/-- A rejected record is refused. -/
theorem reject_refuses (email : Option String) (w : World) :
    (reject email).runIn w =
      (.error (.refused (.emailRegistered email)), w.logged rejectedWrite) := rfl

/-- A write answers with the record that it stores. -/
theorem yields_store (stamp : String) (r : Member) :
    Yields (fun stored w' => stored ∈ w'.directory.members ∧
      stored = w.directory.stamped stamp r) (store stamp r) w := by
  apply yields_bind_of_run (run_directory w)
  cases saved : w.directory.save? stamp r with
  | some pair =>
    have same := Directory.stored_of_save? saved
    exact yields_of_run (run_of _ w)
      ⟨(Directory.mem_save?_iff saved).2 (.inl rfl), same⟩
  | none => exact yields_of_error (reject_refuses r.email w)

/-- Saving a member answers with the record that it stores. -/
theorem yields_save (r : Member) :
    Yields (fun stored w' => stored ∈ w'.directory.members ∧
      ∃ stamp, stored = w.directory.stamped stamp r) (save r) w := by
  have timed := run_timestamp w
  cases time : Time.stampOf w.clock with
  | error f =>
    rw [time] at timed
    exact yields_bind_of_error timed
  | ok stamp =>
    rw [time] at timed
    apply yields_bind_of_run timed
    exact (yields_store stamp r).mono fun stored w' h => ⟨h.1, stamp, h.2⟩

/-- Saving a new member answers with an enabled member at the address, with the digest. -/
theorem yields_saveNew (id : Except Fault (Option String)) (email : Option String)
    (digest : String) :
    Yields (fun stored w' => stored ∈ w'.directory.members ∧ email = some stored.email ∧
      stored.enabled = true ∧ stored.passwordDigest = some digest) (saveNew id email digest) w := by
  have timed := run_timestamp w
  cases time : Time.stampOf w.clock with
  | error f =>
    rw [time] at timed
    exact yields_bind_of_error timed
  | ok stamp =>
    rw [time] at timed
    apply yields_bind_of_run timed
    cases id with
    | error f => exact yields_bind_of_error (run_liftFault (.error f) w)
    | ok i =>
      apply yields_bind_of_run (run_liftFault (.ok i) w)
      split
      · refine (yields_store stamp _).mono ?_
        rintro stored w' ⟨member, rfl⟩
        exact ⟨member, rfl, rfl, rfl⟩
      · exact yields_of_error (reject_refuses email w)

/-- Saving the member of a first password answers with an enabled member at the address, with the
digest. -/
theorem yields_saveFirst {found : Option Member} {email : String}
    (known : ∀ m, found = some m → m.email = email) (digest : String) (claimed : Option Json) :
    Yields (fun stored w' => stored ∈ w'.directory.members ∧ some email = some stored.email ∧
      stored.enabled = true ∧ stored.passwordDigest = some digest)
      (saveFirst found email digest claimed) w := by
  cases found with
  | some m =>
    refine (yields_save _).mono ?_
    rintro stored w' ⟨member, stamp, rfl⟩
    exact ⟨member, congrArg some (known m rfl).symm, rfl, rfl⟩
  | none =>
    rcases run_claimedId claimed w with ⟨w₁, run, -, -⟩
    exact yields_bind_of_run run (yields_saveNew _ (some email) digest)

/-- Issuing a session answers with the member, and leaves the members alone. -/
theorem yields_issue (m : Member) (presented : Option String) :
    Yields (fun session w' => session.member = m ∧ w'.directory = w.directory)
      (s.issue m presented) w := by
  refine ⟨fun session w' run => ⟨?_, ?_⟩⟩
  · exact (issued_of_run (congrArg Prod.fst run)).1.member
  · have kept := keeps_issue s m presented w
    rwa [run] at kept

variable {cost : Int} (created : Password.Verifier.create cost = .ok s.verifier)
include created

/-- The digest of a password is one that the password is accepted for. -/
theorem yields_digest (password : Option String) :
    Yields (fun digest w' => w'.directory = w.directory ∧
      Password.accepts password (some digest) = true) (s.digest password) w := by
  have run := run_digest s password w
  cases hashable : Password.secretBytes password with
  | error e =>
    rw [hashable] at run
    cases e <;> exact yields_of_error run
  | ok bytes =>
    rw [hashable] at run
    exact yields_of_run run ⟨rfl, Password.accepts_own_digest created hashable _⟩

/-- Signing up stores a member that the password is accepted for. -/
theorem yields_signup (email password : Option String) :
    Yields (fun m w' => Recognises w'.directory email password m) (s.signup email password) w := by
  apply yields_audited fun _ _ _ => id
  apply yields_bind_of_run (run_memberAt email _)
  rw [World.directory_logged]
  cases email.bind w.directory.findByEmail with
  | some m => exact yields_of_error (run_refuse _ _)
  | none =>
    apply yields_bind_of_run (run_freshId _)
    apply yields_bind (yields_digest created password)
    rintro digest w₁ ⟨-, accepted⟩
    refine (yields_saveNew _ email digest).mono ?_
    rintro m w' ⟨stored, named, enabled, has⟩
    exact recognises_of_stored stored named enabled has accepted

/-- Setting a first password stores a member that the password is accepted for, at the address that
the token is for. -/
theorem yields_setInitialPassword {token : Option String} {email : String}
    (confirmed : confirmedEmail s.tokens w.clock token = .ok email) (password : Option String) :
    Yields (fun session w' => Recognises w'.directory (some email) password session.member)
      (s.setInitialPassword token password) w := by
  apply yields_audited fun _ _ _ => id
  apply yields_bind_of_run
    ((run_setupEmail s token _).trans (by rw [World.clock_logged, confirmed]))
  apply yields_bind_of_run (run_now _)
  rw [World.clock_logged]
  cases names : s.tokens.memberId w.clock token with
  | error e => exact yields_bind_of_error (run_lift (.error e) _)
  | ok claimed =>
    apply yields_bind_of_run (run_lift (.ok claimed) _)
    apply yields_bind_of_run (run_directory _)
    have known : ∀ m, w.directory.findByEmail email = some m → m.email = email :=
      fun m found => (Directory.findByEmail_eq_some_iff.1 found).2
    simp only
    split
    · exact yields_of_error (run_refuse _ _)
    · rw [establish_eq]
      apply yields_bind (yields_digest created password)
      rintro digest w₁ ⟨-, accepted⟩
      apply yields_bind (yields_saveFirst known digest claimed)
      rintro m w₂ ⟨stored, named, enabled, has⟩
      refine (yields_issue m none).mono ?_
      rintro session w₃ ⟨rfl, kept⟩
      rw [← kept] at stored
      exact recognises_of_stored stored named enabled has accepted

/-- Changing the password of an enabled member stores it with a digest that the new password is
accepted for. -/
theorem yields_changePassword {email : Option String} {m : Member}
    (stored : m ∈ w.directory.members) (named : email = some m.email) (enabled : m.enabled = true)
    (current new : Option String) :
    Yields (fun _ w' => ∃ m', m'.id = m.id ∧ Recognises w'.directory email new m')
      (s.changePassword email current new) w := by
  have found : email.bind w.directory.findByEmail = some m :=
    bind_findByEmail_eq_some_iff.2 ⟨stored, named⟩
  apply yields_audited fun _ _ _ => id
  apply yields_bind_of_run (run_memberAt email _)
  rw [World.directory_logged, found]
  simp only
  split
  · exact yields_of_error (run_refuse _ _)
  · split
    · exact yields_of_error (run_refuse _ _)
    · apply yields_bind (yields_digest created new)
      rintro digest w₁ ⟨-, accepted⟩
      apply yields_bind (yields_save _)
      rintro m' w₂ ⟨member, stamp, same⟩
      have recognised : Recognises w₂.directory email new m' := by
        subst same
        exact recognises_of_stored member named enabled rfl accepted
      exact yields_of_run (run_pure () w₂) ⟨m', by rw [same, Directory.stamped_id], recognised⟩

end Setting

/-- A flow sets the password of the member with an id and an address: signing up, setting a first
password with a live token for the address, or changing the password of an enabled member. -/
inductive SetsPassword (s : Service) (w : World) (email password : Option String) :
    String → World → Prop
  | signup {m : Member} {w' : World} (run : (s.signup email password).runIn w = (.ok m, w')) :
    SetsPassword s w email password m.id w'
  | first {token : Option String} {claims : Claims} {e : String} {session : Session} {w' : World}
    (setup : SetupToken s.tokens w.clock token claims e) (named : email = some e)
    (run : (s.setInitialPassword token password).runIn w = (.ok session, w')) :
    SetsPassword s w email password session.member.id w'
  | change {m : Member} {current : Option String} {w' : World}
    (stored : m ∈ w.directory.members) (named : email = some m.email) (enabled : m.enabled = true)
    (run : (s.changePassword email current password).runIn w = (.ok (), w')) :
    SetsPassword s w email password m.id w'

/-- A member whose password was set is recognised by it. -/
theorem SetsPassword.recognised {s : Service} {cost : Int}
    (created : Password.Verifier.create cost = .ok s.verifier) {w w' : World}
    {email password : Option String} {id : String} (set : SetsPassword s w email password id w') :
    ∃ m, m.id = id ∧ Recognises w'.directory email password m := by
  cases set with
  | signup run => exact ⟨_, rfl, (yields_signup created email password).of_run _ _ run⟩
  | first setup named run =>
    rcases named with rfl
    exact ⟨_, rfl, (yields_setInitialPassword created setup.confirmed password).of_run _ _ run⟩
  | change stored named enabled run =>
    exact (yields_changePassword created stored named enabled _ password).of_run _ _ run

/-! ## Later calls -/

/-- An operation is not the change of the password of an address, and it enrols nobody under an id
that a member has. -/
structure Operation.Elsewhere (s : Service) (email : Option String) (w : World) (o : Operation) :
    Prop where
  unchanged : ∀ current new, o ≠ .changePassword email current new
  fresh : o.EnrolsFresh s w

/-- Whoever is recognised by a password stays as it is through calls for other addresses. -/
theorem recognised_runAll {s : Service} {w : World} {email password : Option String} {m : Member}
    (h : Recognises w.directory email password m) {calls : List Call}
    (along : Along s (fun w o => o.Elsewhere s email w) calls w) {d : Directory}
    (same : d = (runAll s (calls.map .call) w).directory) : Recognises d email password m := by
  have stored : m ∈ (runAll s (calls.map .call) w).directory.members := by
    refine along.invariant (fun d => m ∈ d.members) ?_ h.stored
    intro w o elsewhere before
    rcases claimed_flow elsewhere.fresh before h.hasPassword with
      kept | ⟨current, new, stamp, digest, changed, _⟩
    · exact kept
    · exact absurd (h.email ▸ changed) (elsewhere.unchanged current new)
  exact ⟨same ▸ stored, h.email, h.enabled, h.hasPassword, h.accepted⟩

/-- Whoever the members were, once a password has been set for an address, signing in with the
address and that password succeeds for the very member that was stored: at once, and in any world
with the members that there are after any calls that do not change the password of the address and
enrol new members under fresh ids, as long as the tokens of a session have an expiry there. -/
theorem password_set_signs_in (s : Service) (plain : PlainSecret s.tokens.secret) {cost : Int}
    (created : Password.Verifier.create cost = .ok s.verifier) (w w' : World)
    (email password : Option String) (id : String) (set : SetsPassword s w email password id w')
    (calls : List Call) (along : Along s (fun w o => o.Elsewhere s email w) calls w')
    (later : World) (same : later.directory = (runAll s (calls.map .call) w').directory)
    (lasting : Lasting s later.clock) :
    ∃ m ∈ w'.directory.members, m.id = id ∧
      ∃ session, ((s.signin email password).runIn later).1 = .ok session ∧ session.member = m := by
  rcases set.recognised created with ⟨m, hid, recognised⟩
  refine ⟨m, recognised.stored, hid, ?_⟩
  exact exists_session_of_recognised plain lasting (recognised_runAll recognised along same)

/-- Calls of others after the newcomer has set a password. -/
def othersCalls : List Call :=
  [⟨1700000000.5, .signup "b@x" "secret"⟩, ⟨1700000000.5, .signin "b@x" "secret"⟩,
    ⟨1700000000.5, .refresh "token"⟩, ⟨1700000000.5, .issueTemporaryToken ⟨"c@x", "m3"⟩⟩,
    ⟨1700000000.5, .changePassword "b@x" "secret" "other"⟩]

/-- The newcomer sets a first password, others come and go, and the newcomer signs in with it. -/
theorem newcomer_signs_in_later :
    ∃ session w' later, SetsPassword plainService newcomersWorld "a@x" "password" session w' ∧
      Along plainService (fun w o => o.Elsewhere plainService "a@x" w) othersCalls w' ∧
      later.directory = (runAll plainService (othersCalls.map .call) w').directory ∧
      ∃ session', ((plainService.signin "a@x" "password").runIn later).1 = .ok session' := by
  obtain ⟨claims, setup, known⟩ := exists_newcomersClaims
  obtain ⟨session, w', run, only⟩ := exists_newcomersSession setup known
  have set : SetsPassword plainService newcomersWorld "a@x" "password" session.member.id w' :=
    .first setup rfl run
  have along : Along plainService (fun w o => o.Elsewhere plainService "a@x" w) othersCalls w' := by
    refine ⟨⟨by simp, enrolsFresh_signup_iff.2 ?_⟩, ⟨by simp, fun _ _ => id⟩,
      ⟨by simp, fun _ _ => id⟩, ⟨by simp, fun _ _ => id⟩, ⟨by simp, fun _ _ => id⟩, trivial⟩
    exact fun m stored => ne_idText (by rw [only m stored]; decide) _
  obtain ⟨later, now, same⟩ : ∃ later : World, later.clock = newcomersWorld.clock ∧
      later.directory = (runAll plainService (othersCalls.map .call) w').directory :=
    ⟨{ newcomersWorld with
        directory := (runAll plainService (othersCalls.map .call) w').directory }, rfl, rfl⟩
  rcases password_set_signs_in plainService plainService_secret plainService_verifier newcomersWorld
    w' "a@x" "password" session.member.id set othersCalls along later same
    (now ▸ newcomersWorld_lasting) with ⟨m, -, -, session', signed, -⟩
  exact ⟨_, w', later, set, along, same, session', signed⟩

end Gatehouse.Account
