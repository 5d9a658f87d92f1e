import Gatehouse.Proofs.Account.Sessions

/-!
# Whom a token stands for

A token names an address, and whoever has that address is the one that it stands for.  So the
tokens of a session stay bound to the id of its member for as long as the member keeps its
address: only a save that gives the member another one, or an enrolment under its id, can make
them stand for somebody else.

Main results:

- `Identifies.names`: a token that is taken names the address of the member.
- `Step.Moves.readdresses`: the steps that give a member another address.
- `exists_move`: an address that is lost in a run was lost in a step of it.
- `session_tokens_bound_to_address`: whom the tokens of a session stand for after any run.
-/

namespace Gatehouse

namespace Directory

/-! ## Addresses of ids -/

/-- The address of the member with an id. -/
def addressOf (d : Directory) (id : String) : Option String :=
  (d.findById id).map Member.email

/-- The address of an id is that of the member with the id. -/
theorem addressOf_eq_some_iff {d : Directory} {id email : String} :
    d.addressOf id = some email ↔ ∃ m ∈ d.members, m.id = id ∧ m.email = email := by
  simp only [addressOf, Option.map_eq_some_iff, findById_eq_some_iff, and_assoc]

/-- A write leaves the address of an id as it is, unless it stores another one under the id. -/
theorem addressOf_afterSave {d : Directory} {now : String} {r : Member} {id email : String}
    (h : d.addressOf id = some email) (same : r.id = id → r.email = email) :
    (d.afterSave now r).addressOf id = some email := by
  rcases addressOf_eq_some_iff.1 h with ⟨m, stored, rfl, rfl⟩
  rw [addressOf_eq_some_iff]
  by_cases hid : m.id = r.id
  · cases saved : d.save? now r with
    | none => exact ⟨m, by rw [afterSave, saved]; exact stored, rfl, rfl⟩
    | some pair =>
      rcases pair with ⟨x, d'⟩
      refine ⟨x, by rw [afterSave, saved]; exact (mem_save?_iff saved).2 (.inl rfl), ?_, ?_⟩
      · rw [stored_of_save? saved, stamped_id, hid]
      · rw [stored_of_save? saved, stamped_email, same hid.symm]
  · exact ⟨m, (mem_afterSave_of_ne hid).2 stored, rfl, rfl⟩

end Directory

namespace Account

open Gatehouse.Text Gatehouse.Token Gatehouse.Flow

/-! ## Who is taken to present a token -/

/-- A service takes a token for that of a member: as a bearer token, or for renewing a session. -/
def Identifies (s : Service) (w : World) (t : String) (m : Member) : Prop :=
  ((s.resolveBearer t).runIn w).1 = .ok (some m) ∨
    ∃ session, ((s.refresh t).runIn w).1 = .ok session ∧ session.member = m

section Identifies

variable {s : Service} {w : World} {t : String} {m : Member}

/-- A bearer token that is taken verifies, and its claims stand for the member. -/
theorem standsFor_of_bearer (h : ((s.resolveBearer t).runIn w).1 = .ok (some m)) :
    ∃ claims, s.tokens.verified w.clock t = .ok claims ∧ StandsFor claims w m := by
  rcases verified_of_bearer h with ⟨claims, verified, _⟩
  rw [run_resolveBearer_of_verified verified] at h
  refine ⟨claims, verified, ?_⟩
  cases named : subject? claims with
  | some email => exact (bearerOf_eq_some_iff named).1 h
  | none =>
    simp only [bearerOf, named] at h
    split at h <;> cases h

/-- A token that is taken for that of a member names its address, and the member is stored and
enabled. -/
theorem Identifies.names (h : Identifies s w t m) :
    Names t m.email ∧ m ∈ w.directory.members ∧ m.enabled = true := by
  rcases h with bearer | ⟨session, renewed, rfl⟩
  · rcases standsFor_of_bearer bearer with ⟨claims, verified, stands⟩
    exact ⟨names_of_verified verified stands.subject, stands.stored, stands.enabled⟩
  · have run : (s.refresh t).runIn w = (.ok session, ((s.refresh t).runIn w).2) := by rw [← renewed]
    rcases opens_refresh.issued run with ⟨_, ⟨renews, _⟩, _⟩
    rcases renews.verified with ⟨claims, verified, _, _, named⟩
    exact ⟨names_of_verified verified named, renews.stored, renews.enabled⟩

end Identifies

/-! ## Losing an address -/

/-- A step takes an address away from the member with an id. -/
def Step.Moves (s : Service) (w : World) (id email : String) (step : Step) : Prop :=
  w.directory.addressOf id = some email ∧ (step.run s w).directory.addressOf id ≠ some email

/-- A step is asked for another address: a save is handed one for the id, or an operation enrols a
new member under the id. -/
def Step.Readdresses (s : Service) (w : World) (id email : String) : Step → Prop
  | .save c => c.draft.id = some id ∧ c.draft.email ≠ some email
  | .call c => c.operation.Enrols s { w with clock := c.clock } id

section Moves

variable {s : Service} {w : World} {id email : String}

/-- An address is taken away only by a step that is asked for another one. -/
theorem Step.Moves.readdresses {step : Step} (h : step.Moves s w id email) :
    step.Readdresses s w id email := by
  rcases h with ⟨before, lost⟩
  rcases step.wrote s w with kept | ⟨stamp, r, writes, after⟩
  · rw [kept] at lost
    exact absurd before lost
  · have moved : r.id = id ∧ r.email ≠ email := by
      by_contra still
      rw [after] at lost
      exact lost (Directory.addressOf_afterSave before fun hid =>
        Classical.byContradiction fun other => still ⟨hid, other⟩)
    rcases moved with ⟨rfl, other⟩
    cases step with
    | save c =>
      rcases writes with ⟨hid, hemail⟩
      exact ⟨hid, fun same => other (Option.some.inj (hemail.symm.trans same))⟩
    | call c =>
      cases writes with
      | enrolled enrols => exact enrols
      | @password m stored digest enabled =>
        have same : w.directory.addressOf m.id = some m.email :=
          Directory.addressOf_eq_some_iff.2 ⟨m, stored, rfl, rfl⟩
        exact absurd (Option.some.inj (same.symm.trans before)) other

/-- An address that is lost in a run is lost in one of its steps. -/
theorem exists_move {steps : List Step} (before : w.directory.addressOf id = some email)
    (lost : (runAll s steps w).directory.addressOf id ≠ some email) :
    ∃ first step rest, steps = first ++ step :: rest ∧
      step.Moves s (runAll s first w) id email := by
  induction steps generalizing w with
  | nil => exact absurd before lost
  | cons step steps ih =>
    by_cases kept : (step.run s w).directory.addressOf id = some email
    · rcases ih kept lost with ⟨first, moving, rest, rfl, moves⟩
      exact ⟨step :: first, moving, rest, rfl, moves⟩
    · exact ⟨[], step, steps, rfl, before, kept⟩

end Moves

/-! ## The tokens of a session -/

/-- Whatever happens after a session was started, at whatever times: when one of its tokens is
taken for that of a member, the member is stored and enabled and has the address that the
member of the session had.  It has the id of that member as well, unless in between a step took
the address away from the member with that id: a save that was handed another one, or an
operation that enrolled a new member under the id. -/
theorem session_tokens_bound_to_address (s : Service) (o : Operation) (w w' : World)
    (session : Session) (started : o.Starts s w session w') (t : String)
    (carried : t = session.accessToken ∨ t = session.refreshToken) (steps : List Step)
    (clock : Float) (m : Member)
    (taken : Identifies s { runAll s steps w' with clock := clock } t m) :
    m ∈ (runAll s steps w').directory.members ∧ m.enabled = true ∧
      m.email = session.member.email ∧
      (m.id = session.member.id ∨
        ∃ before step after, steps = before ++ step :: after ∧
          step.Moves s (runAll s before w') session.member.id session.member.email ∧
          step.Readdresses s (runAll s before w') session.member.id session.member.email) := by
  rcases taken.names with ⟨names, stored, enabled⟩
  have issued : Names t session.member.email := by
    rcases carried with rfl | rfl
    · exact started.names.1
    · exact started.names.2
  have email := names.unique issued
  refine ⟨stored, enabled, email, ?_⟩
  by_cases kept : (runAll s steps w').directory.addressOf session.member.id =
    some session.member.email
  · left
    rcases Directory.addressOf_eq_some_iff.1 kept with ⟨n, member, hid, hemail⟩
    rw [Directory.eq_of_email_eq stored member (email.trans hemail.symm), hid]
  · right
    have had := Directory.addressOf_eq_some_iff.2 ⟨_, started.stored, rfl, rfl⟩
    rcases exists_move had kept with ⟨before, step, after, split, moves⟩
    exact ⟨before, step, after, split, moves, moves.readdresses⟩

/-! ### A member that moves -/

/-- The only member is enabled and has an id and an address, if there is one at all. -/
def Solely (d : Directory) (id email : String) : Prop :=
  ∀ m ∈ d.members, m.id = id ∧ m.email = email ∧ m.enabled = true

section Solely

variable {d : Directory} {id email : String} {r : Member}

/-- The only member stays the only one when it is written under its address. -/
theorem Solely.kept (h : Solely d id email) (hid : r.id = id) (hemail : r.email = email)
    (enabled : r.enabled = true) (now : String) : Solely (d.afterSave now r) id email := by
  intro m member
  rcases Directory.mem_afterSave member with rfl | before
  · exact ⟨hid, hemail, enabled⟩
  · exact h m before

/-- The only member is written under its address. -/
theorem Solely.written (h : Solely d id email) (hid : r.id = id) (now : String) :
    d.stamped now r ∈ (d.afterSave now r).members := by
  cases saved : d.save? now r with
  | none =>
    rcases Directory.save?_eq_none_iff.1 saved with ⟨m, member, _, other⟩
    exact absurd ((h m member).1.trans hid.symm) other
  | some pair =>
    rcases pair with ⟨stored, d'⟩
    rw [Directory.afterSave, saved, ← Directory.stored_of_save? saved]
    exact (Directory.mem_save?_iff saved).2 (.inl rfl)

/-- Other addresses than that of the only member are free. -/
theorem Solely.free {other : String} (h : Solely d id email) (differs : email ≠ other) :
    d.findByEmail other = none := by
  rw [Directory.findByEmail_eq_none_iff]
  intro m member same
  exact differs ((h m member).2.1.symm.trans same)

/-- The only member stays the only one when it moves to another address. -/
theorem Solely.moved (h : Solely d id email) (hid : r.id = id) (differs : email ≠ r.email)
    (enabled : r.enabled = true) (now : String) : Solely (d.afterSave now r) id r.email := by
  rcases Directory.exists_save?_of_free (h.free differs) now with ⟨d', saved⟩
  intro m member
  rw [Directory.afterSave, saved] at member
  rcases (Directory.mem_save?_iff saved).1 member with rfl | ⟨before, other⟩
  · exact ⟨hid, rfl, enabled⟩
  · exact absurd ((h m before).1.trans hid.symm) other

end Solely

/-- A record of a plain member without a password, as it is handed in at the end of 2023. -/
def plainSaving (id email : String) : Saving :=
  ⟨1700000000.5, id, email, .string "MEMBER", none, true, ""⟩

/-- A plain member that is handed in then is written. -/
theorem exists_written (id email : String) (w : World) :
    ∃ stamp, ((plainSaving id email).run w).2.directory =
        w.directory.afterSave stamp ⟨id, email, .member, none, true, "", ""⟩ ∧
      ((plainSaving id email).run w).2.clock = 1700000000.5 := by
  rcases exists_stamp with ⟨stamp, shown⟩
  exact ⟨stamp, Saving.directory_run shown rfl rfl rfl w, keeps_saveDraft apart_clock _ _⟩

/-- The world after a first member was saved. -/
def arrivedWorld : World :=
  runAll plainService [.save (plainSaving "m1" "a@x")] (World.start 1700000000.5)

/-- The first member is found in that world. -/
theorem arrivedWorld_member :
    ∃ m, arrivedWorld.directory.findByEmail "a@x" = some m ∧ m.hasPassword = false ∧
      m.id = "m1" := by
  have found : (arrivedWorld.directory.findByEmail "a@x").any
      (fun m => !m.hasPassword && m.id = "m1") = true := by decide +kernel
  rcases (Option.any_eq_true ..).1 found with ⟨m, member, known⟩
  simp only [Bool.and_eq_true, Bool.not_eq_true', decide_eq_true_eq] at known
  exact ⟨m, member, known.1, known.2⟩

/-- The first member is the only one in that world. -/
theorem arrivedWorld_solely : Solely arrivedWorld.directory "m1" "a@x" := by
  have all : (arrivedWorld.directory.members.all
      fun m => m.id = "m1" && (m.email = "a@x" && m.enabled)) = true := by decide +kernel
  intro m member
  simpa using List.all_eq_true.1 all m member

/-- A token with which the first member may set a password. -/
def arrivalToken : String :=
  issuedText "secret" (temporaryClaims ⟨"a@x", "m1"⟩) 1700000000.5 1700000900.5 1

/-- A partner has that token signed. -/
theorem run_arrivalToken :
    ∃ w, (plainService.issueTemporaryToken ⟨"a@x", "m1"⟩).runIn arrivedWorld =
        (.ok arrivalToken, w) ∧
      w.clock = 1700000000.5 ∧ w.directory = arrivedWorld.directory := by
  have clock : arrivedWorld.clock = 1700000000.5 := by decide +kernel
  have serial : arrivedWorld.ids = 0 := by decide +kernel
  have times : expiryOf arrivedWorld.clock 900 = .ok 1700000900.5 := clock ▸ newcomersWorld_short.1
  have run := run_issueTemporaryToken plainService_secret ⟨"a@x", "m1"⟩ times
  rwa [clock, serial] at run

/-- The first member sets a password with that token and so starts a session; it stays the only
member. -/
theorem exists_arrival {w : World} (clock : w.clock = 1700000000.5)
    (directory : w.directory = arrivedWorld.directory) :
    ∃ session w',
      (Operation.setInitialPassword arrivalToken "password").Starts plainService w session w' ∧
      Solely w'.directory "m1" "a@x" := by
  have finite := newcomersWorld_clock
  obtain ⟨-, live⟩ := newcomersWorld_short
  obtain ⟨m, found, unclaimed, -⟩ := arrivedWorld_member
  rw [← directory] at found
  obtain ⟨stamp, shown⟩ := exists_stamp
  rw [← clock] at shown
  have same : newcomersWorld.clock = w.clock := clock.symm
  have shows := says_issuedText plainService_secret (carries_temporaryClaims ⟨"a@x", "m1"⟩)
    (by decide) (by simp) finite 1700000900.5 1
  have confirmed : confirmedEmail plainService.tokens w.clock arrivalToken = .ok "a@x" :=
    confirmedEmail_issuedText plainService_secret
      (show (⟨"a@x", "m1"⟩ : SetupGrant).email ≠ "" by decide) finite 1 (same ▸ live)
  obtain ⟨session, done⟩ := exists_session_of_setInitialPassword plainService_secret
    (same ▸ newcomersWorld_lasting) confirmed (shows.memberId w.clock) found unclaimed
    secretBytes_password shown
  refine ⟨session, _, Operation.starts_setInitialPassword done, ?_⟩
  have only : Solely w.directory "m1" "a@x" := directory ▸ arrivedWorld_solely
  rw [directory_setInitialPassword]
  cases write : setupWrite plainService arrivalToken "password" w with
  | none => exact only
  | some pair =>
    rcases pair with ⟨stamp, r⟩
    rcases setupWrite_record write with ⟨n, stored, _, digest, rfl⟩ | ⟨new, _⟩
    · have known := only n stored
      refine only.kept ?_ ?_ rfl stamp
      · exact known.1
      · exact known.2.1
    · rcases new with ⟨email, _, _, _, confirmed', _, free, _⟩
      rcases Except.ok.inj (confirmed.symm.trans confirmed') with rfl
      rw [found] at free
      cases free

/-- The access token of the session stands for whoever has the address of the first member. -/
theorem identifies_of_arrival {w w' later : World} {session : Session} {m : Member}
    (clock : w.clock = 1700000000.5)
    (started : (Operation.setInitialPassword arrivalToken "password").Starts plainService w session
      w')
    (only : Solely w'.directory "m1" "a@x") (now : later.clock = 1700000000.5)
    (stored : m ∈ later.directory.members) (email : m.email = "a@x") (enabled : m.enabled = true) :
    Identifies plainService later session.accessToken m := by
  have finite := newcomersWorld_clock
  obtain ⟨shortTtl, live⟩ := newcomersWorld_short
  have same : newcomersWorld.clock = w.clock := clock.symm
  have named : session.member.email = "a@x" := (only _ started.stored).2.1
  have shown := started.shown plainService_secret (by rw [named]; decide)
    (same ▸ finite) (same ▸ shortTtl)
  left
  rw [run_resolveBearer_of_shown shown, named, Directory.findByEmail_eq_some_iff.2 ⟨stored, email⟩]
  have live : later.clock < 1700000900.5 := now ▸ live
  simp [live, Option.filter, enabled]

/-- A first member that starts a session and is then saved without a password, under its old
address, is the one for whom its access token is taken. -/
theorem token_stays_with_first_member :
    ∃ session w w' m,
      (Operation.setInitialPassword arrivalToken "password").Starts plainService w session w' ∧
      Identifies plainService (runAll plainService [.save (plainSaving "m1" "a@x")] w')
        session.accessToken m ∧
      m.passwordDigest = none ∧ m.id = session.member.id := by
  obtain ⟨w, signed, clock, directory⟩ := run_arrivalToken
  obtain ⟨session, w', started, only⟩ := exists_arrival clock directory
  obtain ⟨stamp, saved, now⟩ := exists_written "m1" "a@x" w'
  have stored := only.written (r := ⟨"m1", "a@x", .member, none, true, "", ""⟩) rfl stamp
  rw [← saved] at stored
  have taken := identifies_of_arrival clock started only now stored rfl rfl
  refine ⟨session, w, w', _, started, taken, rfl, ?_⟩
  rcases (session_tokens_bound_to_address plainService _ w w' session started _ (.inl rfl)
    [.save (plainSaving "m1" "a@x")] _ _ taken).2.2.2 with
    same | ⟨before, step, after, split, _, readdresses⟩
  · exact same
  · cases before with
    | nil =>
      rcases (List.cons.inj split).1 with rfl
      exact absurd (congrArg some (only _ started.stored).2.1).symm readdresses.2
    | cons first rest => simp at split

/-- From an empty store: a first member is saved, a partner has a temporary token signed for it,
and it sets a password and so starts a session.  Then it moves to another address, and a second
member is saved under the old one.  Now the access token of the first member is taken for that of
the second. -/
theorem successor_takes_token :
    ∃ session w w' m,
      (plainService.issueTemporaryToken ⟨"a@x", "m1"⟩).runIn arrivedWorld =
        (.ok arrivalToken, w) ∧
      (Operation.setInitialPassword arrivalToken "password").Starts plainService w session w' ∧
      Identifies plainService
        (runAll plainService [.save (plainSaving "m1" "b@x"), .save (plainSaving "m2" "a@x")] w')
        session.accessToken m ∧
      session.member.id = "m1" ∧ m.id = "m2" := by
  obtain ⟨w, signed, clock, directory⟩ := run_arrivalToken
  obtain ⟨session, w', started, only⟩ := exists_arrival clock directory
  obtain ⟨stamp₁, moved, -⟩ := exists_written "m1" "b@x" w'
  obtain ⟨stamp₂, succeeded, now⟩ := exists_written "m2" "a@x" ((plainSaving "m1" "b@x").run w').2
  have elsewhere := only.moved (r := ⟨"m1", "b@x", .member, none, true, "", ""⟩) rfl (by decide)
    rfl stamp₁
  rw [← moved] at elsewhere
  have stored := Directory.stamped_mem_afterSave (m := ⟨"m2", "a@x", .member, none, true, "", ""⟩)
    (elsewhere.free (by decide)) stamp₂
  rw [← succeeded] at stored
  exact ⟨session, w, w', _, signed, started,
    identifies_of_arrival clock started only now stored rfl rfl, (only _ started.stored).1, rfl⟩

end Account

end Gatehouse
