import Gatehouse.Proofs.Member.Writing
import Gatehouse.Proofs.Password.Digests
import Gatehouse.Proofs.Token.RoundTrip

/-!
# Setting a first password

A live password-setup token names an address and a member id.  The flow looks its member up
by the address, refuses when that member has a password, and otherwise writes one record:
the member with that address, or a new member under the id that the token names.  A new
member takes the place of whoever has that id.

Main results:

- `directory_setInitialPassword`: the one write of the flow, if there is one.
- `claimed_member_unchanged_iff`: a member with a password stays as it is exactly unless a new
  member is written under its id.
- `writesNewUnder_of_issued`: an issued token for a free address writes a new member under the
  id that it names, whoever has that id.
- `exists_stamped_mem_of_found`: the member without a password that a token is for is written with
  the new one.
-/

namespace Gatehouse.Account

open Gatehouse.Text Gatehouse.Token Gatehouse.Flow

/-! ## The parts of the flow -/

/-- The address that a token confirms at a time. -/
def confirmedEmail (p : Processor) (now : Float) (token : Option String) :
    Except Failure String := do
  let email ← asInvalid (p.subject now token)
  let valid ← p.validateTemporary now token email
  if valid then return email else throw (.refused .setupExpired)

/-- The id that a new member is stored under: the one that the token names, or a fresh one. -/
def setupId (claimed : Option Json) (ids : Nat) : Except Fault (Option String) :=
  match claimed.filter fun v => !isVoid v with
  | some v => Service.storedId? v
  | none => .ok (some (idText (ids + 1)))

/-- Confirming an address touches nothing. -/
theorem run_setupEmail (s : Service) (token : Option String) (w : World) :
    (s.setupEmail token).runIn w = (confirmedEmail s.tokens w.clock token, w) := by
  unfold Service.setupEmail confirmedEmail
  rw [run_bind, run_now]
  simp only [run_bind, run_lift]
  cases asInvalid (s.tokens.subject w.clock token) with
  | error e => rfl
  | ok email =>
    simp only [bind, Except.bind]
    cases s.tokens.validateTemporary w.clock token email with
    | error e => rfl
    | ok valid => cases valid <;> rfl

/-- A token that confirms an address is a valid password-setup token for it. -/
theorem validateTemporary_of_confirmedEmail {p : Processor} {now : Float} {token : Option String}
    {email : String} (h : confirmedEmail p now token = .ok email) :
    p.validateTemporary now token email = .ok true := by
  unfold confirmedEmail at h
  simp only [bind, Except.bind] at h
  split at h
  · cases h
  · split at h
    · cases h
    · next valid =>
      split at h
      · next confirmed =>
        rcases Except.ok.inj h with rfl
        rw [valid, confirmed]
      · cases h

/-- A password is hashed with a fresh salt, unless it cannot be hashed at all. -/
theorem run_digest (s : Service) (password : Option String) (w : World) :
    (s.digest password).runIn w =
      match Password.secretBytes password with
      | .error .missing => (.error (.refused .secretMissing), w)
      | .error .tooLong => (.error (.refused .secretTooLong), w)
      | .ok bytes =>
        (.ok (Password.Digest.ofSecret 'b' s.verifier.cost (Password.salt (w.salts + 1))
          bytes).render, { w with salts := w.salts + 1 }) := by
  unfold Service.digest
  split <;> simp_all

/-- Finding the id for a new member changes no member. -/
theorem run_claimedId (claimed : Option Json) (w : World) :
    ∃ w', (Service.claimedId claimed).runIn w = (.ok (setupId claimed w.ids), w') ∧
      w'.directory = w.directory ∧ w'.clock = w.clock := by
  unfold Service.claimedId setupId
  cases claimed.filter fun v => !isVoid v with
  | some v => exact ⟨w, rfl, rfl, rfl⟩
  | none => exact ⟨_, rfl, rfl, rfl⟩

/-- A new member is written under the current time and its id, if there are both. -/
theorem directory_saveNew (id : Except Fault (Option String)) (email digest : String) (w : World) :
    ((saveNew id email digest).runIn w).2.directory =
      match Time.stampOf w.clock, id with
      | .ok stamp, .ok (some i) =>
        w.directory.afterSave stamp ⟨i, email, .member, some digest, true, "", ""⟩
      | _, _ => w.directory := by
  unfold saveNew
  rw [run_bind, run_timestamp]
  cases Time.stampOf w.clock with
  | error f => rfl
  | ok stamp =>
    simp only [Except.mapError, run_bind, run_liftFault]
    rcases id with f | i
    · rfl
    · cases i with
      | none => exact directory_reject _ w
      | some i => exact directory_store stamp _ w

/-! ## The one write of the flow -/

/-- The record that the flow writes for an address with a digest, if it gets so far. -/
def setupRecord (w : World) (email digest : String) (claimed : Option Json) : Option Member :=
  match w.directory.findByEmail email with
  | some m => some { m with passwordDigest := some digest, enabled := true }
  | none =>
    match setupId claimed w.ids with
    | .ok (some i) => some ⟨i, email, .member, some digest, true, "", ""⟩
    | _ => none

/-- The write of the flow once an address is confirmed: the time and the record. -/
def establishWrite (s : Service) (password : Option String) (w : World) (email : String)
    (claimed : Option Json) : Option (String × Member) :=
  match Password.secretBytes password, Time.stampOf w.clock with
  | .ok bytes, .ok stamp =>
    (setupRecord w email (Password.Digest.ofSecret 'b' s.verifier.cost
      (Password.salt (w.salts + 1)) bytes).render claimed).map (stamp, ·)
  | _, _ => none

/-- The write of the flow. -/
def setupWrite (s : Service) (token password : Option String) (w : World) :
    Option (String × Member) :=
  match confirmedEmail s.tokens w.clock token, s.tokens.memberId w.clock token with
  | .ok email, .ok claimed =>
    if (w.directory.findByEmail email).any Member.hasPassword then none
    else establishWrite s password w email claimed
  | _, _ => none

/-- The directory after a write, if there is one. -/
def afterWrite (d : Directory) : Option (String × Member) → Directory
  | some (stamp, r) => d.afterSave stamp r
  | none => d

/-- Once the address is confirmed and not claimed, the flow changes the directory by its write. -/
theorem directory_establish (s : Service) (password : Option String) (email : String)
    (claimed : Option Json) (w : World) :
    ((s.establish (w.directory.findByEmail email) email claimed password).runIn w).2.directory =
      afterWrite w.directory (establishWrite s password w email claimed) := by
  unfold Service.establish establishWrite setupRecord
  rw [run_bind, run_digest]
  cases Password.secretBytes password with
  | error e => cases e <;> rfl
  | ok bytes =>
    simp only
    cases w.directory.findByEmail email with
    | some m =>
      simp only
      rw [part_bind_of_keeps fun stored => keeps_issue s stored none, directory_save]
      cases Time.stampOf w.clock <;> rfl
    | none =>
      obtain ⟨w', run, directory, clock⟩ := run_claimedId claimed
        { w with salts := w.salts + 1 }
      simp only at run directory clock ⊢
      rw [run_bind, run]
      simp only
      rw [part_bind_of_keeps fun stored => keeps_issue s stored none, directory_saveNew, directory,
        clock]
      cases Time.stampOf w.clock with
      | error f => rfl
      | ok stamp =>
        rcases setupId claimed w.ids with f | i
        · rfl
        · cases i <;> rfl

/-- The flow changes the directory by its write and by nothing else, however it ends. -/
theorem directory_setInitialPassword (s : Service) (token password : Option String) (w : World) :
    ((s.setInitialPassword token password).runIn w).2.directory =
      afterWrite w.directory (setupWrite s token password w) := by
  unfold Service.setInitialPassword
  rw [run_audited, World.directory_logged]
  obtain ⟨w₁, hw⟩ : ∃ w₁, w₁ = w.logged (Audit.attempt "set_initial_password") := ⟨_, rfl⟩
  have same : setupWrite s token password w = setupWrite s token password w₁ := by
    rw [hw]
    rfl
  rw [same, show w.directory = w₁.directory by rw [hw]; rfl, ← hw]
  unfold setupWrite
  rw [run_bind, run_setupEmail]
  cases confirmedEmail s.tokens w₁.clock token with
  | error e => rfl
  | ok email =>
    simp only
    rw [run_bind, run_now]
    simp only
    rw [run_bind, run_lift]
    cases s.tokens.memberId w₁.clock token with
    | error e => rfl
    | ok claimed =>
      simp only
      rw [run_bind, run_directory]
      simp only
      split
      · rfl
      · exact directory_establish s password email claimed w₁

/-! ## Members that have a password -/

/-- The flow writes a new member under an id: the token is live, no member has its address, the
password can be hashed, the clock shows a time, and the id is the one of the new member. -/
def WritesNewUnder (s : Service) (token password : Option String) (w : World) (id : String) :
    Prop :=
  ∃ email claimed bytes stamp,
    confirmedEmail s.tokens w.clock token = .ok email ∧
    s.tokens.memberId w.clock token = .ok claimed ∧
    w.directory.findByEmail email = none ∧
    Password.secretBytes password = .ok bytes ∧
    Time.stampOf w.clock = .ok stamp ∧
    setupId claimed w.ids = .ok (some id)

/-- The record of a write is that of the member with the address, which has no password yet, with
a digest and enabled, or that of a new member at an address that nobody has. -/
theorem setupWrite_record {s : Service} {token password : Option String} {w : World}
    {stamp : String} {r : Member} (h : setupWrite s token password w = some (stamp, r)) :
    (∃ m ∈ w.directory.members, m.hasPassword = false ∧
        ∃ digest, r = { m with passwordDigest := some digest, enabled := true }) ∨
      (WritesNewUnder s token password w r.id ∧ ∃ email digest,
        w.directory.findByEmail email = none ∧
          r = ⟨r.id, email, .member, some digest, true, "", ""⟩) := by
  unfold setupWrite at h
  split at h
  · next email claimed he hc =>
    split at h
    · cases h
    · next unclaimed =>
      unfold establishWrite at h
      split at h
      · next bytes stamp' hb hs =>
        rcases Option.map_eq_some_iff.1 h with ⟨record, hr, pair⟩
        rcases Prod.mk.inj pair with ⟨rfl, rfl⟩
        unfold setupRecord at hr
        cases found : w.directory.findByEmail email with
        | some m =>
          left
          rw [found] at hr unclaimed
          rcases Option.some.inj hr with rfl
          exact ⟨m, (Directory.findByEmail_eq_some_iff.1 found).1, by simpa using unclaimed, _, rfl⟩
        | none =>
          right
          rw [found] at hr
          simp only at hr
          split at hr
          · next i hi =>
            rcases Option.some.inj hr with rfl
            exact ⟨⟨email, claimed, bytes, stamp', he, hc, found, hb, hs, hi⟩, email, _, found, rfl⟩
          · cases hr
      · cases h
  · cases h

/-- The record of a write is that of a member without a password, or it is a new one. -/
theorem setupWrite_cases {s : Service} {token password : Option String} {w : World}
    {stamp : String} {r : Member} (h : setupWrite s token password w = some (stamp, r)) :
    (∃ m ∈ w.directory.members, m.hasPassword = false ∧ r.id = m.id) ∨
      WritesNewUnder s token password w r.id := by
  rcases setupWrite_record h with ⟨m, stored, unclaimed, digest, rfl⟩ | ⟨new, _⟩
  · exact .inl ⟨m, stored, unclaimed, rfl⟩
  · exact .inr new

/-- Where a new member is written, it has the address of the token, which no member had. -/
theorem exists_setupWrite {s : Service} {token password : Option String} {w : World} {id : String}
    (h : WritesNewUnder s token password w id) :
    ∃ stamp email digest,
      setupWrite s token password w =
        some (stamp, ⟨id, email, .member, some digest, true, "", ""⟩) ∧
      w.directory.findByEmail email = none := by
  rcases h with ⟨email, claimed, bytes, stamp, he, hc, found, hb, hs, hi⟩
  refine ⟨stamp, email, (Password.Digest.ofSecret 'b' s.verifier.cost
    (Password.salt (w.salts + 1)) bytes).render, ?_, found⟩
  simp [setupWrite, he, hc, found, establishWrite, hb, hs, setupRecord, hi]

/-- A member under whose id a new member is written is gone: its id now has another address, the
plain role and a new digest, and nobody has its address any more. -/
theorem overwritten_member {s : Service} {token password : Option String} {w : World} {m : Member}
    (hm : m ∈ w.directory.members) (new : WritesNewUnder s token password w m.id) :
    ∃ d', ((s.setInitialPassword token password).runIn w).2.directory = d' ∧
      m ∉ d'.members ∧ d'.findByEmail m.email = none ∧
      ∃ email digest stamp, w.directory.findByEmail email = none ∧
        d'.findById m.id = some ⟨m.id, email, .member, some digest, true, m.createdAt, stamp⟩ := by
  rcases exists_setupWrite new with ⟨stamp, email, digest, write, free⟩
  obtain ⟨d', saved⟩ := Directory.exists_save?_of_free
    (m := ⟨m.id, email, .member, some digest, true, "", ""⟩) free stamp
  have after : ((s.setInitialPassword token password).runIn w).2.directory = d' := by
    rw [directory_setInitialPassword, write, afterWrite, Directory.afterSave, saved]
  have stored : w.directory.stamped stamp ⟨m.id, email, .member, some digest, true, "", ""⟩ =
      ⟨m.id, email, .member, some digest, true, m.createdAt, stamp⟩ := by
    simp [Directory.stamped, Directory.findById_eq_some_iff.2 ⟨hm, rfl⟩]
  rw [stored] at saved
  have emails := Directory.findByEmail_eq_none_iff.1 free
  have absent : d'.findByEmail m.email = none := by
    rw [Directory.findByEmail_eq_none_iff]
    intro x hx same
    rcases (Directory.mem_save?_iff saved).1 hx with rfl | ⟨hx, hid⟩
    · exact emails m hm same.symm
    · have one : x = m := Directory.eq_of_email_eq hx hm same
      exact hid (show x.id = m.id by rw [one])
  refine ⟨d', after, fun kept => Directory.findByEmail_eq_none_iff.1 absent m kept rfl, absent,
    email, digest, stamp, free, ?_⟩
  exact Directory.findById_eq_some_iff.2 ⟨(Directory.mem_save?_iff saved).2 (.inl rfl), rfl⟩

/-- A member that has a password stays entirely as it is, exactly unless the flow writes a new
member under its id. -/
theorem claimed_member_unchanged_iff (s : Service) (token password : Option String) (w : World)
    (m : Member) (hm : m ∈ w.directory.members) (claimed : m.hasPassword = true) :
    m ∈ ((s.setInitialPassword token password).runIn w).2.directory.members ↔
      ¬ WritesNewUnder s token password w m.id := by
  constructor
  · intro kept new
    rcases overwritten_member hm new with ⟨d', after, gone, _⟩
    exact gone (after ▸ kept)
  · intro notNew
    rw [directory_setInitialPassword]
    cases write : setupWrite s token password w with
    | none => exact hm
    | some pair =>
      rcases pair with ⟨stamp, r⟩
      have otherId : m.id ≠ r.id := by
        intro hid
        rcases setupWrite_cases write with ⟨n, hn, unclaimed, hrn⟩ | new
        · rw [Directory.eq_of_id_eq hm hn (hid.trans hrn), unclaimed] at claimed
          cases claimed
        · exact notNew (hid ▸ new)
      exact (Directory.mem_afterSave_of_ne otherId).2 hm

/-- A token for the address of a member writes no new member. -/
theorem not_writesNewUnder_of_found {s : Service} {token password : Option String} {w : World}
    {email : String} {m : Member} (confirmed : confirmedEmail s.tokens w.clock token = .ok email)
    (found : w.directory.findByEmail email = some m) (id : String) :
    ¬ WritesNewUnder s token password w id := by
  rintro ⟨email', _, _, _, confirmed', _, free, _⟩
  obtain rfl : email = email' := Except.ok.inj (confirmed.symm.trans confirmed')
  rw [found] at free
  cases free

/-- A token for the address of a member without a password writes that member with one. -/
theorem exists_stamped_mem_of_found {s : Service} {token password : Option String} {w : World}
    {email : String} {claimed : Option Json} {m : Member}
    (confirmed : confirmedEmail s.tokens w.clock token = .ok email)
    (memberId : s.tokens.memberId w.clock token = .ok claimed)
    (found : w.directory.findByEmail email = some m) (unclaimed : m.hasPassword = false)
    {bytes : Bytes} (hb : Password.secretBytes password = .ok bytes) {stamp : String}
    (hs : Time.stampOf w.clock = .ok stamp) :
    w.directory.stamped stamp
        { m with
          passwordDigest := some (Password.Digest.ofSecret 'b' s.verifier.cost
            (Password.salt (w.salts + 1)) bytes).render
          enabled := true } ∈
      ((s.setInitialPassword token password).runIn w).2.directory.members := by
  rw [directory_setInitialPassword]
  simp only [setupWrite, confirmed, memberId, found, Option.any_some, unclaimed, establishWrite, hb,
    hs, setupRecord, Option.map_some, afterWrite, Bool.false_eq_true, if_false]
  have stored := (Directory.findByEmail_eq_some_iff.1 found).1
  apply Directory.stamped_mem_afterSave_of_stored stored <;> rfl

/-- The end of 2023 can be shown as a time. -/
theorem exists_stamp : ∃ stamp, Time.stampOf 1700000000.5 = .ok stamp := by
  have ok : (Time.stampOf 1700000000.5).isOk = true := by decide +kernel
  cases shown : Time.stampOf 1700000000.5 with
  | ok stamp => exact ⟨stamp, rfl⟩
  | error f =>
    rw [shown] at ok
    cases ok

/-- A password that is short enough is hashed by its bytes. -/
theorem secretBytes_password : Password.secretBytes "password" = .ok (utf8 "password") := by
  have short : ¬ maxSecretBytes < (utf8 "password").length := by decide +kernel
  simp only [Password.secretBytes, short, if_false]

/-- An administrator that has a password. -/
def administrator : Member :=
  ⟨"m1", "victim@x", .admin, some "digest", true, "", ""⟩

/-- The world at the end of 2023 with that administrator as the only member. -/
def administeredWorld : World :=
  { World.start 1700000000.5 with
    directory := ⟨[administrator], by decide, by decide⟩ }

/-- A live temporary token confirms the address that it was issued for. -/
theorem confirmedEmail_issuedText {p : Processor} (plain : PlainSecret p.secret)
    {grant : SetupGrant} (hemail : grant.email ≠ "") {issuedAt expiry : Float}
    (hx : (Number.toRat? issuedAt).isSome) (serial : Nat) {now : Float} (live : now < expiry) :
    confirmedEmail p now (issuedText p.secret (temporaryClaims grant) issuedAt expiry serial) =
      .ok grant.email := by
  have stated := says_issuedText plain (carries_temporaryClaims grant) hemail (by simp) hx expiry
    serial
  have valid := validateTemporary_issuedText plain grant hx expiry serial now
  simp [confirmedEmail, stated.subject, valid, live, asInvalid, bind, Except.bind, pure,
    Except.pure]

/-- A live token that was issued for an address without a member writes a new member under the
id that it was issued for. -/
theorem writesNewUnder_of_issued {s : Service} (plain : PlainSecret s.tokens.secret)
    {grant : SetupGrant} {issuedAt expiry : Float} (hx : (Number.toRat? issuedAt).isSome)
    (serial : Nat) {password : Option String} {w : World} (live : w.clock < expiry)
    (free : w.directory.findByEmail grant.email = none) (hemail : grant.email ≠ "")
    (hid : grant.memberId ≠ "") {bytes : Bytes} (hb : Password.secretBytes password = .ok bytes)
    {stamp : String} (hs : Time.stampOf w.clock = .ok stamp) :
    WritesNewUnder s
      (issuedText s.tokens.secret (temporaryClaims grant) issuedAt expiry serial)
      password w grant.memberId := by
  have stated := says_issuedText plain (carries_temporaryClaims grant) hemail (by simp) hx expiry
    serial
  refine ⟨grant.email, some (.string grant.memberId), bytes, stamp,
    confirmedEmail_issuedText plain hemail hx serial live, stated.memberId w.clock, free, hb, hs,
    ?_⟩
  simp [setupId, isVoid, Option.filter, hid, Service.storedId?]

/-- A member that has no password yet. -/
def invited : Member :=
  ⟨"m2", "invited@x", .member, none, true, "", ""⟩

/-- The world at the end of 2023 with the administrator and the invited member. -/
def invitingWorld : World :=
  { World.start 1700000000.5 with
    directory := ⟨[administrator, invited], by decide, by decide⟩ }

/-- A password-setup token of 2023 for an address, which names the id of the administrator. -/
def setupTokenFor (email : String) : String :=
  issuedText "secret" (temporaryClaims ⟨email, "m1"⟩) 1700000000.5 1700000900.5 1

/-- Live tokens that name the id of the administrator leave it as it is, both the one for its own
address and the one for the address of the invited member, to whom it gives a password. -/
theorem administrator_unchanged_by_live_tokens :
    administrator ∈ invitingWorld.directory.members ∧ administrator.hasPassword = true ∧
      (∀ email ∈ ["victim@x", "invited@x"],
        confirmedEmail plainService.tokens invitingWorld.clock (setupTokenFor email) = .ok email ∧
          administrator ∈ ((plainService.setInitialPassword (setupTokenFor email)
            "password").runIn invitingWorld).2.directory.members) ∧
      ∃ m ∈ ((plainService.setInitialPassword (setupTokenFor "invited@x")
        "password").runIn invitingWorld).2.directory.members,
        m.id = "m2" ∧ m.email = "invited@x" ∧ m.hasPassword = true := by
  have member : administrator ∈ invitingWorld.directory.members := by decide
  have claimed : administrator.hasPassword = true := by decide
  have finite : (Number.toRat? 1700000000.5).isSome := by decide +kernel
  have live : invitingWorld.clock < 1700000900.5 :=
    show (1700000000.5 : Float) < 1700000900.5 by decide +kernel
  have confirmed : ∀ email, email ≠ "" →
      confirmedEmail plainService.tokens invitingWorld.clock (setupTokenFor email) = .ok email :=
    fun email hemail => confirmedEmail_issuedText plainService_secret
      (show (⟨email, "m1"⟩ : SetupGrant).email ≠ "" from hemail) finite 1 live
  have found : invitingWorld.directory.findByEmail "invited@x" = some invited := by decide
  have unchanged : ∀ email m, email ≠ "" → invitingWorld.directory.findByEmail email = some m →
      administrator ∈ ((plainService.setInitialPassword (setupTokenFor email)
        "password").runIn invitingWorld).2.directory.members :=
    fun email m hemail found => (claimed_member_unchanged_iff plainService (setupTokenFor email)
      "password" invitingWorld administrator member claimed).2
        (not_writesNewUnder_of_found (confirmed email hemail) found _)
  refine ⟨member, claimed, ?_, ?_⟩
  · intro email he
    simp only [List.mem_cons, List.not_mem_nil, or_false] at he
    rcases he with rfl | rfl
    · exact ⟨confirmed _ (by decide), unchanged _ administrator (by decide) (by decide)⟩
    · exact ⟨confirmed _ (by decide), unchanged _ invited (by decide) found⟩
  · have stated := says_issuedText plainService_secret
      (carries_temporaryClaims ⟨"invited@x", "m1"⟩) (by decide) (by simp) finite 1700000900.5 1
    obtain ⟨stamp, shown⟩ := exists_stamp
    exact ⟨_, exists_stamped_mem_of_found (confirmed _ (by decide)) (stated.memberId _) found rfl
      secretBytes_password shown, rfl, rfl,
      (Member.hasPassword_eq_true_iff _).2 ⟨_, rfl, Password.render_ne_empty _⟩⟩

/-- A token for a free address that names the id of the administrator takes its record: after
the flow the administrator is gone. -/
theorem administrator_overwritten :
    administrator ∈ administeredWorld.directory.members ∧ administrator.hasPassword = true ∧
      administrator ∉ ((plainService.setInitialPassword
        (issuedText "secret" (temporaryClaims ⟨"new@x", "m1"⟩) 1700000000.5 1700000900.5 1)
        "password").runIn administeredWorld).2.directory.members := by
  have member : administrator ∈ administeredWorld.directory.members := by decide
  have live : administeredWorld.clock < 1700000900.5 :=
    show (1700000000.5 : Float) < 1700000900.5 by decide +kernel
  obtain ⟨stamp, shown⟩ := exists_stamp
  have new : WritesNewUnder plainService
      (issuedText "secret" (temporaryClaims ⟨"new@x", "m1"⟩) 1700000000.5 1700000900.5 1)
      "password" administeredWorld "m1" :=
    writesNewUnder_of_issued plainService_secret (by decide +kernel) 1 live (by decide)
      (by decide) (by decide) secretBytes_password shown
  rcases overwritten_member member new with ⟨d', after, gone, _⟩
  exact ⟨member, by decide, after ▸ gone⟩

end Gatehouse.Account
