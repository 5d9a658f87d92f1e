import Gatehouse.Proofs.Account.Binding

/-!
# The first password of an address

A live password-setup token for an address sets its first password once.  Where the address has a
member, that member gets the password and nobody else changes; where it has none, one member is
added under the id that the token names.  From then on every such token for the address is refused,
whatever calls are made in between, as long as they enrol new members under fresh ids.

Main results:

- `confirmedEmail_iff`: the claims of a token that confirms an address.
- `firstPassword_of_confirmed`: everything that one call comes to.
- `claimed_flow`: a member that has a password stays, but for a change of that password.
- `first_password_set_once`: the call, and all later calls.
-/

namespace Gatehouse.Account

open Gatehouse.Text Gatehouse.Token Gatehouse.Flow

/-! ## Live tokens -/

/-- A token with certain claims is a live password-setup token for an address. -/
structure SetupToken (p : Processor) (now : Float) (token : Option String) (claims : Claims)
    (email : String) : Prop where
  verified : p.verified now token = .ok claims
  live : isLive claims now = true
  type : Keyed.lookup claims "type" = some (.string temporary)
  purpose : Keyed.lookup claims "purpose" = some (.string passwordSetup)
  subject : Keyed.lookup claims "sub" = some (.string email)
  named : email ≠ ""

section Tokens

variable {p : Processor} {now : Float} {token : Option String} {claims : Claims} {email : String}

/-- A live password-setup token confirms its address. -/
theorem SetupToken.confirmed (h : SetupToken p now token claims email) :
    confirmedEmail p now token = .ok email := by
  have subject : subject? claims = some email := subject?_eq_some_iff.2 ⟨h.subject, h.named⟩
  simp [confirmedEmail, Processor.subject, Processor.validateTemporary, h.verified, h.live, h.type,
    h.purpose, h.subject, subject, asInvalid, Json.isString, bind, Except.bind, pure, Except.pure]

/-- A token confirms an address exactly when it is a live password-setup token for it. -/
theorem confirmedEmail_iff :
    confirmedEmail p now token = .ok email ↔ ∃ claims, SetupToken p now token claims email := by
  constructor
  · intro confirmed
    rcases verified_of_validateTemporary (validateTemporary_of_confirmedEmail confirmed) with
      ⟨claims, verified, live, type, purpose, subject⟩
    refine ⟨claims, verified, live, type, purpose, subject, ?_⟩
    rintro rfl
    -- an empty subject counts as none
    have none : subject? claims = none := by
      cases named : subject? claims with
      | none => rfl
      | some e =>
        rcases subject?_eq_some_iff.1 named with ⟨same, nonempty⟩
        rw [subject] at same
        cases same
        exact absurd rfl nonempty
    simp [confirmedEmail, Processor.subject, verified, none, asInvalid, bind, Except.bind, throw,
      throwThe, MonadExceptOf.throw] at confirmed
  · rintro ⟨claims, h⟩
    exact h.confirmed

/-- A live password-setup token names what it has for a member id. -/
theorem SetupToken.memberId (h : SetupToken p now token claims email) :
    p.memberId now token = .ok (Keyed.lookup claims "cid") := by
  simp [Processor.memberId, h.verified, bind, Except.bind, pure, Except.pure]

end Tokens

/-! ## One call -/

/-- What setting a first password for an address comes to, with an id for a new member. -/
inductive FirstPassword (s : Service) (w : World) (email id : String) (password : Option String) :
    Except Failure Session → Directory → Prop
  /-- The address has a password already. -/
  | claimed {m : Member} {outcome : Except Failure Session}
    (found : w.directory.findByEmail email = some m) (hasPassword : m.hasPassword = true)
    (refused : Refuses outcome .invalidRequest) :
    FirstPassword s w email id password outcome w.directory
  /-- The password is missing or too long. -/
  | unhashable {outcome : Except Failure Session}
    (unclaimed : (w.directory.findByEmail email).any Member.hasPassword = false)
    (unfit : password = none ∨ ∃ text, password = some text ∧ maxSecretBytes < (utf8 text).length)
    (refused : Refuses outcome .invalidRequest) :
    FirstPassword s w email id password outcome w.directory
  /-- The clock shows no time. -/
  | untimed {fault : Fault}
    (unclaimed : (w.directory.findByEmail email).any Member.hasPassword = false)
    (fits : ∃ text, password = some text ∧ (utf8 text).length ≤ maxSecretBytes)
    (time : Time.stampOf w.clock = .error fault) :
    FirstPassword s w email id password (.error (.fault fault)) w.directory
  /-- One member is added at the end. -/
  | added {stamp digest : String} {outcome : Except Failure Session} {after : Directory}
    (free : w.directory.findByEmail email = none)
    (fits : ∃ text, password = some text ∧ (utf8 text).length ≤ maxSecretBytes)
    (time : Time.stampOf w.clock = .ok stamp)
    (accepted : Password.accepts password (some digest) = true)
    (members : after.members =
      w.directory.members ++ [⟨id, email, .member, some digest, true, stamp, stamp⟩])
    (answered : PlainSecret s.tokens.secret → Lasting s w.clock →
      ∃ session, outcome = .ok session) :
    FirstPassword s w email id password outcome after
  /-- The member with the address gets the password, is enabled, and keeps all the rest. -/
  | updated {m : Member} {stamp digest : String} {outcome : Except Failure Session}
    {after : Directory} (found : w.directory.findByEmail email = some m)
    (unclaimed : m.hasPassword = false)
    (fits : ∃ text, password = some text ∧ (utf8 text).length ≤ maxSecretBytes)
    (time : Time.stampOf w.clock = .ok stamp)
    (accepted : Password.accepts password (some digest) = true)
    (members : after.members = w.directory.members.map fun x =>
      if x.email = email then
        { x with passwordDigest := some digest, enabled := true, updatedAt := stamp }
      else x)
    (answered : PlainSecret s.tokens.secret → Lasting s w.clock →
      ∃ session, outcome = .ok session) :
    FirstPassword s w email id password outcome after

section Call

variable {s : Service} {w : World} {token password : Option String} {email id : String}
  {claimed : Option Json}

/-- Once the address is confirmed, the flow is refused if its member has a password, and
otherwise gives it one. -/
theorem run_setInitialPassword_of_confirmed
    (confirmed : confirmedEmail s.tokens w.clock token = .ok email)
    (names : s.tokens.memberId w.clock token = .ok claimed) (password : Option String) :
    ((s.setInitialPassword token password).runIn w).1 =
      if (w.directory.findByEmail email).any Member.hasPassword then
        .error (.refused .passwordAlreadySet)
      else
        ((s.establish (w.directory.findByEmail email) email claimed password).runIn
          (w.logged (Audit.attempt "set_initial_password"))).1 := by
  simp only [Service.setInitialPassword, run_audited, run_bind, run_setupEmail, run_now, run_lift,
    run_directory, World.clock_logged, World.directory_logged, confirmed, names]
  split <;> rfl

/-- A live token for an address that has a password is refused and leaves everything alone. -/
theorem refuses_setInitialPassword_of_claimed {m : Member}
    (confirmed : confirmedEmail s.tokens w.clock token = .ok email)
    (names : s.tokens.memberId w.clock token = .ok claimed)
    (found : w.directory.findByEmail email = some m) (hasPassword : m.hasPassword = true)
    (password : Option String) :
    Refuses ((s.setInitialPassword token password).runIn w).1 .invalidRequest ∧
      Untouched (s.setInitialPassword token password) w := by
  have any : (w.directory.findByEmail email).any Member.hasPassword = true := by
    rw [found]
    exact hasPassword
  refine ⟨⟨.passwordAlreadySet, ?_, rfl⟩, ?_⟩
  · rw [run_setInitialPassword_of_confirmed confirmed names password, if_pos any]
  · simp [Untouched, Service.setInitialPassword, run_audited, run_setupEmail, confirmed, names, any]

/-- A password that cannot be hashed is refused at once, and it is missing or too long. -/
theorem refuses_digest_of_error {e : Password.SecretFault}
    (failed : Password.secretBytes password = .error e) (w : World) :
    (∃ c, (s.digest password).runIn w = (.error (.refused c), w) ∧ c.kind = .invalidRequest) ∧
      (password = none ∨
        ∃ text, password = some text ∧ maxSecretBytes < (utf8 text).length) := by
  refine ⟨?_, Password.secretBytes_eq_error_iff.1 ⟨e, failed⟩⟩
  rw [run_digest, failed]
  cases e with
  | missing => exact ⟨.secretMissing, rfl, rfl⟩
  | tooLong => exact ⟨.secretTooLong, rfl, rfl⟩

/-- A password that may be hashed is there and not too long. -/
theorem fits_of_secretBytes {bytes : Bytes} (h : Password.secretBytes password = .ok bytes) :
    ∃ text, password = some text ∧ (utf8 text).length ≤ maxSecretBytes := by
  cases password with
  | none => cases h
  | some text =>
    refine ⟨text, rfl, Nat.le_of_not_lt fun long => ?_⟩
    rw [Password.secretBytes, if_pos long] at h
    cases h

/-- A new member at a free address is saved, and answered with its times. -/
theorem run_saveNew_of_free {stamp : String} (time : Time.stampOf w.clock = .ok stamp)
    (free : w.directory.findByEmail email = none) (id digest : String) :
    (saveNew (.ok (some id)) email digest).runIn w =
      (.ok (w.directory.stamped stamp ⟨id, email, .member, some digest, true, "", ""⟩),
        { w with directory :=
            w.directory.afterSave stamp ⟨id, email, .member, some digest, true, "", ""⟩ }) := by
  have allowed : Member.addressFree w.directory.members
      ⟨id, email, .member, some digest, true, "", ""⟩ := Directory.addressFree_of_free free
  simp only [saveNew, run_bind, run_timestamp, time, Except.mapError, run_liftFault,
    run_store_of_addressFree allowed]

/-- The member of a first password is saved: the one that was found, or a new one. -/
theorem exists_run_saveFirst {stamp : String} (time : Time.stampOf w.clock = .ok stamp)
    (known : setupId claimed w.ids = .ok (some id)) (email digest : String) :
    ∃ stored w', (saveFirst (w.directory.findByEmail email) email digest claimed).runIn w =
        (.ok stored, w') ∧ w'.clock = w.clock := by
  cases found : w.directory.findByEmail email with
  | some m => exact exists_run_save _ found rfl rfl time
  | none =>
    rcases run_claimedId claimed w with ⟨w₁, run, directory, clock⟩
    rw [← clock] at time
    rw [← directory] at found
    refine ⟨_, _, Eq.trans ?_ (run_saveNew_of_free time found id digest), clock⟩
    simp only [saveFirst, run_bind, run, known]

/-- A password that may be hashed is set, and a session is issued. -/
theorem exists_session_of_establish (plain : PlainSecret s.tokens.secret)
    (lasting : Lasting s w.clock) {bytes : Bytes}
    (hashable : Password.secretBytes password = .ok bytes) {stamp : String}
    (time : Time.stampOf w.clock = .ok stamp) (known : setupId claimed w.ids = .ok (some id)) :
    ∃ session, ((s.establish (w.directory.findByEmail email) email claimed password).runIn w).1 =
      .ok session := by
  obtain ⟨digest, hashed⟩ : ∃ digest,
      (s.digest password).runIn w = (.ok digest, { w with salts := w.salts + 1 }) := by
    rw [run_digest, hashable]
    exact ⟨_, rfl⟩
  rcases exists_run_saveFirst (w := { w with salts := w.salts + 1 }) time known email digest
    with ⟨stored, w₂, saved, clock⟩
  simp only at saved
  rw [establish_eq, run_bind, hashed]
  simp only
  rw [run_bind, saved]
  exact exists_session_of_lasting plain (by rw [clock]; exact lasting) stored none

/-- Where the clock shows no time, a password that may be hashed is not set. -/
theorem run_establish_of_untimed {bytes : Bytes}
    (hashable : Password.secretBytes password = .ok bytes) {fault : Fault}
    (time : Time.stampOf w.clock = .error fault) (found : Option Member) :
    ((s.establish found email claimed password).runIn w).1 = .error (.fault fault) := by
  rw [establish_eq, run_bind, run_digest, hashable]
  simp only
  cases found with
  | some m =>
    simp only [saveFirst, save, run_bind, run_timestamp, time, Except.mapError]
  | none =>
    rcases run_claimedId claimed { w with salts := w.salts + 1 } with ⟨w₁, run, directory, clock⟩
    simp only [saveFirst, saveNew, run_bind, run, run_timestamp, clock, time, Except.mapError]

/-- The write of the flow once the address is confirmed and has no password. -/
theorem directory_of_unclaimed
    (confirmed : confirmedEmail s.tokens w.clock token = .ok email)
    (names : s.tokens.memberId w.clock token = .ok claimed)
    (unclaimed : (w.directory.findByEmail email).any Member.hasPassword = false)
    (password : Option String) :
    ((s.setInitialPassword token password).runIn w).2.directory =
      afterWrite w.directory (establishWrite s password w email claimed) := by
  rw [directory_setInitialPassword, setupWrite, confirmed, names]
  simp only [unclaimed, Bool.false_eq_true, if_false]

/-- After a member got its first password, its digest and its time are new and it is enabled; all
the rest is as it was. -/
theorem members_afterSave_password {d : Directory} {m : Member} (stored : m ∈ d.members)
    (stamp digest : String) :
    (d.afterSave stamp { m with passwordDigest := some digest, enabled := true }).members =
      d.members.map fun x =>
        if x.email = m.email then
          { x with passwordDigest := some digest, enabled := true, updatedAt := stamp }
        else x :=
  Directory.members_afterSave_changed stored
    (fun x => { x with passwordDigest := some digest, enabled := true }) rfl rfl stamp

/-- A member that is enrolled under a new id gets the time of its enrolment. -/
theorem stamped_enrolled {d : Directory} {id : String} (new : ∀ m ∈ d.members, m.id ≠ id)
    (stamp email digest : String) :
    d.stamped stamp ⟨id, email, .member, some digest, true, "", ""⟩ =
      ⟨id, email, .member, some digest, true, stamp, stamp⟩ := by
  have absent : d.findById id = none := by simpa [Directory.findById] using new
  simp [Directory.stamped, absent]

/-- After a member was enrolled under a new id and at a free address, it comes last. -/
theorem members_afterSave_enrolled {d : Directory} {id email : String}
    (new : ∀ m ∈ d.members, m.id ≠ id) (free : d.findByEmail email = none)
    (stamp digest : String) :
    (d.afterSave stamp ⟨id, email, .member, some digest, true, "", ""⟩).members =
      d.members ++ [⟨id, email, .member, some digest, true, stamp, stamp⟩] := by
  rw [Directory.members_afterSave_of_new new free, stamped_enrolled new]

/-- One call with a live token, whatever the members and the password are, as long as no member
with another address has the id for a new member. -/
theorem firstPassword_of_confirmed {cost : Int}
    (created : Password.Verifier.create cost = .ok s.verifier)
    (confirmed : confirmedEmail s.tokens w.clock token = .ok email)
    (names : s.tokens.memberId w.clock token = .ok claimed)
    (known : setupId claimed w.ids = .ok (some id))
    (sole : ∀ m ∈ w.directory.members, m.id = id → m.email = email) (password : Option String) :
    FirstPassword s w email id password ((s.setInitialPassword token password).runIn w).1
      ((s.setInitialPassword token password).runIn w).2.directory := by
  cases unclaimed : (w.directory.findByEmail email).any Member.hasPassword with
  | true =>
    rcases (Option.any_eq_true ..).1 unclaimed with ⟨m, found, hasPassword⟩
    rcases refuses_setInitialPassword_of_claimed confirmed names found hasPassword
      password with ⟨refused, untouched⟩
    rw [untouched.1]
    exact .claimed found hasPassword refused
  | false =>
    have outcome := run_setInitialPassword_of_confirmed confirmed names password
    have directory := directory_of_unclaimed confirmed names unclaimed password
    rw [unclaimed, if_neg Bool.false_ne_true] at outcome
    cases hashable : Password.secretBytes password with
    | error e =>
      rcases refuses_digest_of_error (s := s) hashable
        (w.logged (Audit.attempt "set_initial_password")) with ⟨⟨c, refused, kind⟩, unfit⟩
      rw [directory, establishWrite, hashable]
      refine .unhashable unclaimed unfit ⟨c, ?_, kind⟩
      rw [outcome, establish_eq, run_bind, refused]
    | ok bytes =>
      have fits := fits_of_secretBytes hashable
      cases time : Time.stampOf w.clock with
      | error fault =>
        rw [directory, establishWrite, hashable, time, outcome,
          run_establish_of_untimed hashable (w := w.logged _) time]
        exact .untimed unclaimed fits time
      | ok stamp =>
        have accepted := Password.accepts_own_digest created hashable (w.salts + 1)
        have answered : PlainSecret s.tokens.secret → Lasting s w.clock →
            ∃ session, ((s.setInitialPassword token password).runIn w).1 = .ok session := by
          intro plain lasting
          rw [outcome]
          exact exists_session_of_establish (w := w.logged _) plain lasting hashable time known
        rw [directory, establishWrite, hashable, time]
        simp only [setupRecord]
        cases found : w.directory.findByEmail email with
        | none =>
          have new : ∀ m ∈ w.directory.members, m.id ≠ id := fun m member same =>
            Directory.findByEmail_eq_none_iff.1 found m member (sole m member same)
          simp only [known, Option.map_some, afterWrite]
          exact .added found fits time accepted (members_afterSave_enrolled new found stamp _)
            answered
        | some m =>
          rw [found] at unclaimed
          rcases Directory.findByEmail_eq_some_iff.1 found with ⟨stored, rfl⟩
          simp only [Option.map_some, afterWrite]
          exact .updated found unclaimed fits time accepted
            (members_afterSave_password stored stamp _) answered

end Call

/-! ## Members that have a password -/

/-- Whoever an operation enrols, it enrols under an id that no member has. -/
def Operation.EnrolsFresh (s : Service) (w : World) (o : Operation) : Prop :=
  ∀ m ∈ w.directory.members, ¬ o.Enrols s w m.id

/-- Signing up enrols under a fresh id exactly when the id that is drawn belongs to nobody. -/
theorem enrolsFresh_signup_iff {s : Service} {w : World} {email password : Option String} :
    (Operation.signup email password).EnrolsFresh s w ↔
      ∀ m ∈ w.directory.members, m.id ≠ idText (w.ids + 1) := Iff.rfl

section Claimed

variable {s : Service} {w : World}

/-- A member that has a password stays as it is, unless its password is changed. -/
theorem claimed_flow {o : Operation} (fresh : o.EnrolsFresh s w) {m : Member}
    (stored : m ∈ w.directory.members) (hasPassword : m.hasPassword = true) :
    m ∈ ((o.flow s).runIn w).2.directory.members ∨
      ∃ current new stamp digest, o = .changePassword (some m.email) current new ∧ digest ≠ "" ∧
        ((o.flow s).runIn w).2.directory =
          w.directory.afterSave stamp { m with passwordDigest := some digest } := by
  by_cases writes : o.writes = true
  · cases o with
    | signup email password =>
      left
      rcases Operation.signup_cases (s := s) (w := w) email password with
        kept | ⟨stamp, e, digest, free, after⟩
      · exact kept ▸ stored
      · change m ∈ ((s.signup email password).runIn w).2.directory.members
        rw [after]
        refine (Directory.mem_afterSave_of_ne ?_).2 stored
        exact fresh m stored
    | setInitialPassword token password =>
      left
      change m ∈ ((s.setInitialPassword token password).runIn w).2.directory.members
      rw [directory_setInitialPassword]
      cases write : setupWrite s token password w with
      | none => exact stored
      | some pair =>
        have other : m.id ≠ pair.2.id := by
          intro same
          rcases setupWrite_cases write with ⟨n, hn, unclaimed, hid⟩ | new
          · rw [Directory.eq_of_id_eq stored hn (same.trans hid), unclaimed] at hasPassword
            cases hasPassword
          · exact fresh m stored (same ▸ new)
        exact (Directory.mem_afterSave_of_ne other).2 stored
    | changePassword email current new =>
      rcases Operation.changePassword_cases (s := s) (w := w) email current new with
        kept | ⟨stamp, n, digest, member, named, nonempty, after⟩
      · exact .inl (kept ▸ stored)
      · by_cases same : m.id = n.id
        · rcases Directory.eq_of_id_eq stored member same with rfl
          exact .inr ⟨current, new, stamp, digest, by rw [named], nonempty, after⟩
        · left
          change m ∈ ((s.changePassword email current new).runIn w).2.directory.members
          rw [after]
          refine (Directory.mem_afterSave_of_ne ?_).2 stored
          exact same
    | _ => cases writes
  · left
    rw [o.keeps_of_reads s (Bool.eq_false_iff.2 writes) w]
    exact stored

/-- An address has a member with a password. -/
def Claimed (email : String) (d : Directory) : Prop :=
  ∃ m ∈ d.members, m.email = email ∧ m.hasPassword = true

/-- An address that has a password keeps having one. -/
theorem claimed_kept {email : String} {o : Operation} (fresh : o.EnrolsFresh s w)
    (claimed : Claimed email w.directory) : Claimed email ((o.flow s).runIn w).2.directory := by
  rcases claimed with ⟨m, stored, named, hasPassword⟩
  rcases claimed_flow fresh stored hasPassword with
    kept | ⟨current, new, stamp, digest, rfl, nonempty, after⟩
  · exact ⟨m, kept, named, hasPassword⟩
  · rw [after]
    have changed := Directory.stamped_mem_afterSave_of_stored stored
      (r := { m with passwordDigest := some digest }) rfl rfl stamp
    exact ⟨_, changed, named, (Member.hasPassword_eq_true_iff _).2 ⟨digest, rfl, nonempty⟩⟩

/-- An address that has a password has one after any calls. -/
theorem claimed_runAll {email : String} {calls : List Call}
    (along : Along s (fun w o => o.EnrolsFresh s w) calls w)
    (claimed : Claimed email w.directory) :
    Claimed email (runAll s (calls.map .call) w).directory :=
  along.invariant (Claimed email) (fun _ _ fresh before => claimed_kept fresh before) claimed

end Claimed

/-! ## The first password -/

section Once

variable {s : Service} {w : World} {email id : String} {password : Option String}

/-- A first password was set if the call answered with a session. -/
theorem FirstPassword.claimed_of_ok {session : Session} {after : Directory}
    (h : FirstPassword s w email id password (.ok session) after) : Claimed email after := by
  cases h with
  | claimed found hasPassword refused =>
    rcases refused with ⟨c, failed, _⟩
    cases failed
  | unhashable unclaimed unfit refused =>
    rcases refused with ⟨c, failed, _⟩
    cases failed
  | @added stamp digest _ _ free fits time accepted members answered =>
    refine ⟨⟨id, email, .member, some digest, true, stamp, stamp⟩, by simp [members], rfl, ?_⟩
    exact (Member.hasPassword_eq_true_iff _).2 ⟨digest, rfl, Password.ne_empty_of_accepts accepted⟩
  | @updated m stamp digest _ _ found unclaimed fits time accepted members answered =>
    rcases Directory.findByEmail_eq_some_iff.1 found with ⟨stored, rfl⟩
    refine ⟨{ m with passwordDigest := some digest, enabled := true, updatedAt := stamp }, ?_, rfl,
      ?_⟩
    · rw [members]
      exact List.mem_map.2 ⟨m, stored, by simp⟩
    · exact (Member.hasPassword_eq_true_iff _).2
        ⟨digest, rfl, Password.ne_empty_of_accepts accepted⟩

/-- After a first password the ids are those that there were, and the one for a new member. -/
theorem FirstPassword.id_cases {outcome : Except Failure Session} {after : Directory}
    (h : FirstPassword s w email id password outcome after) {m : Member}
    (stored : m ∈ after.members) : m.id = id ∨ ∃ x ∈ w.directory.members, x.id = m.id := by
  cases h with
  | claimed | unhashable | untimed => exact .inr ⟨m, stored, rfl⟩
  | added free fits time accepted members answered =>
    rw [members, List.mem_append, List.mem_singleton] at stored
    rcases stored with before | rfl
    · exact .inr ⟨m, before, rfl⟩
    · exact .inl rfl
  | updated found unclaimed fits time accepted members answered =>
    rw [members] at stored
    rcases List.mem_map.1 stored with ⟨x, before, rfl⟩
    refine .inr ⟨x, before, ?_⟩
    split <;> rfl

end Once

/-- A live password-setup token for an address, and an id for a new member that belongs to no
member with another address: whoever the members are and whatever the password is, the call comes
to what a first password should.  Once it has answered with a session, every live password-setup
token for the address is refused and changes nothing, in any world with the members that there are
after any calls that enrol new members under fresh ids. -/
theorem first_password_set_once (s : Service) {cost : Int}
    (created : Password.Verifier.create cost = .ok s.verifier) (w : World) (token : Option String)
    (claims : Claims) (email id : String)
    (setup : SetupToken s.tokens w.clock token claims email)
    (known : setupId (Keyed.lookup claims "cid") w.ids = .ok (some id))
    (sole : ∀ m ∈ w.directory.members, m.id = id → m.email = email) (password : Option String) :
    FirstPassword s w email id password ((s.setInitialPassword token password).runIn w).1
        ((s.setInitialPassword token password).runIn w).2.directory ∧
      ∀ session w', (s.setInitialPassword token password).runIn w = (.ok session, w') →
        ∀ calls, Along s (fun w o => o.EnrolsFresh s w) calls w' →
        ∀ later : World, later.directory = (runAll s (calls.map .call) w').directory →
        ∀ token' claims' password', SetupToken s.tokens later.clock token' claims' email →
          Refuses ((s.setInitialPassword token' password').runIn later).1 .invalidRequest ∧
            Untouched (s.setInitialPassword token' password') later := by
  have first := firstPassword_of_confirmed created setup.confirmed setup.memberId known sole
    password
  refine ⟨first, ?_⟩
  intro session w' run calls along later same token' claims' password' again
  rw [run] at first
  rcases claimed_runAll along first.claimed_of_ok with ⟨m, stored, named, hasPassword⟩
  have found : later.directory.findByEmail email = some m := by
    rw [same]
    exact Directory.findByEmail_eq_some_iff.2 ⟨stored, named⟩
  exact refuses_setInitialPassword_of_claimed again.confirmed again.memberId found hasPassword
    password'

/-- An id that a token names as a text is the one for a new member, unless it is empty. -/
theorem setupId_of_text {id : String} (nonempty : id ≠ "") (ids : Nat) :
    setupId (some (.string id)) ids = .ok (some id) := by
  simp [setupId, isVoid, Option.filter, nonempty, Service.storedId?]

/-- The verifier of the plain service has the least cost. -/
theorem plainService_verifier : Password.Verifier.create 4 = .ok plainService.verifier := rfl

/-- The newcomer's token is a live password-setup token, and names the newcomer's id. -/
theorem exists_newcomersClaims :
    ∃ claims, SetupToken plainService.tokens newcomersWorld.clock arrivalToken claims "a@x" ∧
      setupId (Keyed.lookup claims "cid") newcomersWorld.ids = .ok (some "m1") := by
  have finite := newcomersWorld_clock
  obtain ⟨-, live⟩ := newcomersWorld_short
  have confirmed := confirmedEmail_issuedText plainService_secret
    (show (⟨"a@x", "m1"⟩ : SetupGrant).email ≠ "" by decide) finite 1 live
  have shown := says_issuedText plainService_secret (carries_temporaryClaims ⟨"a@x", "m1"⟩)
    (by decide) (by simp) finite 1700000900.5 1
  rcases confirmedEmail_iff.1 confirmed with ⟨claims, setup⟩
  have cid : Keyed.lookup claims "cid" = some (.string "m1") :=
    Except.ok.inj (setup.memberId.symm.trans (shown.memberId newcomersWorld.clock))
  exact ⟨claims, setup, by rw [cid, setupId_of_text (by decide)]⟩

/-- Nobody else has the newcomer's id. -/
theorem newcomersWorld_sole :
    ∀ m ∈ newcomersWorld.directory.members, m.id = "m1" → m.email = "a@x" := by
  decide

/-- The newcomer sets a password with its token, and is still the only member. -/
theorem exists_newcomersSession {claims : Claims}
    (setup : SetupToken plainService.tokens newcomersWorld.clock arrivalToken claims "a@x")
    (known : setupId (Keyed.lookup claims "cid") newcomersWorld.ids = .ok (some "m1")) :
    ∃ session w', (plainService.setInitialPassword arrivalToken "password").runIn newcomersWorld =
        (.ok session, w') ∧ ∀ m ∈ w'.directory.members, m.id = "m1" := by
  obtain ⟨stamp, shown⟩ := exists_stamp
  obtain ⟨session, done⟩ := exists_session_of_setInitialPassword plainService_secret
    newcomersWorld_lasting setup.confirmed setup.memberId newcomersWorld_newcomer (by decide)
    secretBytes_password shown
  have first := firstPassword_of_confirmed plainService_verifier setup.confirmed setup.memberId
    known newcomersWorld_sole "password"
  refine ⟨session, _, run_of_outcome done, ?_⟩
  intro m stored
  have only : ∀ x ∈ newcomersWorld.directory.members, x.id = "m1" := by decide
  rcases first.id_cases stored with same | ⟨x, before, same⟩
  · exact same
  · rw [← same, only x before]

/-- A fresh id has at least as many characters as its fixed part. -/
theorem length_idText (serial : Nat) : 24 ≤ (idText serial).length := by
  have front : "00000000-0000-4000-8000-".length = 24 := by decide
  unfold idText
  rw [String.length_append, front]
  exact Nat.le_add_right 24 _

/-- A short id is not a fresh one. -/
theorem ne_idText {id : String} (short : id.length < 24) (serial : Nat) : id ≠ idText serial := by
  intro same
  have long := length_idText serial
  rw [← same] at long
  exact Nat.lt_irrefl _ (Nat.lt_of_lt_of_le short long)

/-- Calls after the newcomer has set a password: someone else signs up, and the newcomer changes
the password. -/
def laterCalls : List Call :=
  [⟨1700000000.5, .signup "b@x" "password"⟩,
    ⟨1700000000.5, .changePassword "a@x" "password" "other"⟩]

/-- The newcomer sets a password; after the later calls its token is refused. -/
theorem newcomers_token_works_once :
    ∃ claims session w' later,
      SetupToken plainService.tokens newcomersWorld.clock arrivalToken claims "a@x" ∧
      (plainService.setInitialPassword arrivalToken "password").runIn newcomersWorld =
        (.ok session, w') ∧
      Along plainService (fun w o => o.EnrolsFresh plainService w) laterCalls w' ∧
      later.directory = (runAll plainService (laterCalls.map .call) w').directory ∧
      Refuses ((plainService.setInitialPassword arrivalToken "another").runIn later).1
        .invalidRequest := by
  obtain ⟨claims, setup, known⟩ := exists_newcomersClaims
  obtain ⟨session, w', run, only⟩ := exists_newcomersSession setup known
  have once := first_password_set_once plainService plainService_verifier newcomersWorld
    arrivalToken claims "a@x" "m1" setup known newcomersWorld_sole "password"
  have along : Along plainService (fun w o => o.EnrolsFresh plainService w) laterCalls w' := by
    refine ⟨enrolsFresh_signup_iff.2 ?_, fun _ _ => id, trivial⟩
    exact fun m stored => ne_idText (by rw [only m stored]; decide) _
  obtain ⟨later, now, same⟩ : ∃ later : World, later.clock = newcomersWorld.clock ∧
      later.directory = (runAll plainService (laterCalls.map .call) w').directory :=
    ⟨{ newcomersWorld with directory := (runAll plainService (laterCalls.map .call) w').directory },
      rfl, rfl⟩
  have refused := once.2 session w' run laterCalls along later same arrivalToken claims "another"
    (now ▸ setup)
  exact ⟨claims, session, w', later, setup, run, along, same, refused.1⟩

end Gatehouse.Account
