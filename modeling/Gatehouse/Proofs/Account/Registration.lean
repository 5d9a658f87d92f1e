import Gatehouse.Proofs.Account.FirstPassword

/-!
# Signing up and changing a password

Two flows write a password that the caller has chosen: signing up, where the address is free, and
changing a password, where the address has a password and the caller knows it.  In both the
condition is checked first, so that a password is looked at only where it may be set, and the
password is hashed before anything is written.  What is written then is one record: a new member
with the password, or the member as it was with the password in place of the old one.

Main results:

- `exists_run_digest`: a password that fits is hashed to a digest that it is accepted for.
- `WritesPassword.of_run`: what a flow comes to that hashes a password, once a condition holds, and
  writes it.
- `signup_and_change_write_exactly`: when the two flows succeed, how they fail, and what they write.
-/

namespace Gatehouse.Account

open Gatehouse.Text Gatehouse.Token Gatehouse.Flow

/-! ## Hashing -/

/-- A password may be hashed: it is there, and takes no more than 72 bytes. -/
def Fits (password : Option String) : Prop :=
  ∃ text, password = some text ∧ (utf8 text).length ≤ maxSecretBytes

section Hashing

variable {α : Type} {s : Service} {password : Option String}

/-- A password that does not fit is refused before anything else. -/
theorem refuses_of_unfit (unfit : ¬ Fits password) (write : String → Flow α) (w : World) :
    Refuses ((s.digest password >>= write).runIn w).1 .invalidRequest := by
  cases hashable : Password.secretBytes password with
  | ok bytes => exact absurd (fits_of_secretBytes hashable) unfit
  | error e =>
    rcases (refuses_digest_of_error (s := s) hashable w).1 with ⟨c, refused, kind⟩
    exact ⟨c, by rw [run_bind, refused], kind⟩

/-- A password that fits is hashed, to a digest that it is accepted for. -/
theorem exists_run_digest {cost : Int} (created : Password.Verifier.create cost = .ok s.verifier)
    (fits : Fits password) (w : World) :
    ∃ digest, Password.accepts password (some digest) = true ∧
      (s.digest password).runIn w = (.ok digest, { w with salts := w.salts + 1 }) := by
  cases hashable : Password.secretBytes password with
  | error e =>
    rcases fits with ⟨text, rfl, short⟩
    rcases Password.secretBytes_eq_error_iff.1 ⟨e, hashable⟩ with missing | ⟨_, same, long⟩
    · cases missing
    · rcases Option.some.inj same with rfl
      exact absurd short (Nat.not_le_of_lt long)
  | ok bytes =>
    refine ⟨_, Password.accepts_own_digest created hashable (w.salts + 1), ?_⟩
    rw [run_digest, hashable]

end Hashing

/-! ## Flows that write a password -/

/-- How a flow goes that writes a password if a condition holds, and is refused otherwise.  What a
success comes to is said of the time, the digest, the answer and the members after it. -/
structure WritesPassword {α : Type} (f : Flow α) (w : World) (condition : Prop) (otherwise : Kind)
    (password : Option String) (effect : String → String → α → Directory → Prop) : Prop where
  /-- It succeeds exactly if the condition holds and the password fits, at a time that the clock
  shows. -/
  succeeds_iff : (∃ a, (f.runIn w).1 = .ok a) ↔
    condition ∧ Fits password ∧ ∃ stamp, Time.stampOf w.clock = .ok stamp
  /-- A success has its effect, with a digest that the password is accepted for. -/
  written : ∀ a, (f.runIn w).1 = .ok a → ∃ stamp digest, Time.stampOf w.clock = .ok stamp ∧
    Password.accepts password (some digest) = true ∧ effect stamp digest a (f.runIn w).2.directory
  /-- The condition comes first, whatever the password is. -/
  refused : ¬ condition → Refuses (f.runIn w).1 otherwise
  unfit : condition → ¬ Fits password → Refuses (f.runIn w).1 .invalidRequest
  untimed : condition → Fits password → ∀ fault, Time.stampOf w.clock = .error fault →
    (f.runIn w).1 = .error (.fault fault)
  /-- A failure changes no member. -/
  kept : ∀ e, (f.runIn w).1 = .error e → (f.runIn w).2.directory = w.directory
  /-- No token is signed. -/
  unsigned : (f.runIn w).2.minted = w.minted

/-- A flow goes on as another one does in its world: at the same time, to the same outcome, leaving
the same members. -/
structure GoesOn {α : Type} (f : Flow α) (w : World) (g : Flow α) (w₁ : World) : Prop where
  clock : w₁.clock = w.clock
  outcome : (f.runIn w).1 = (g.runIn w₁).1
  directory : (f.runIn w).2.directory = (g.runIn w₁).2.directory

/-- The last part of a flow that writes a password: it saves a digest under the time of the
clock. -/
structure WritesDigest {α : Type} (write : String → Flow α) (w : World)
    (effect : String → String → α → Directory → Prop) : Prop where
  timed : ∀ stamp, Time.stampOf w.clock = .ok stamp → ∀ digest,
    ∃ a w₁, (write digest).runIn w = (.ok a, w₁) ∧ effect stamp digest a w₁.directory
  untimed : ∀ fault, Time.stampOf w.clock = .error fault → ∀ digest,
    ((write digest).runIn w).1 = .error (.fault fault)

section Writing

variable {α : Type} {s : Service} {f : Flow α} {w w₁ : World} {write : String → Flow α}
  {password : Option String} {effect : String → String → α → Directory → Prop} {cost : Int}

/-- A flow that goes on with a password that does not fit is refused. -/
theorem GoesOn.refuses (goes : GoesOn f w (s.digest password >>= write) w₁)
    (unfit : ¬ Fits password) : Refuses (f.runIn w).1 .invalidRequest := by
  rw [goes.outcome]
  exact refuses_of_unfit unfit write w₁

/-- A flow that goes on with a password that fits has its effect, at a time that the clock shows. -/
theorem GoesOn.timed (goes : GoesOn f w (s.digest password >>= write) w₁)
    (writes : WritesDigest write { w₁ with salts := w₁.salts + 1 } effect)
    (created : Password.Verifier.create cost = .ok s.verifier) (fits : Fits password)
    {stamp : String} (time : Time.stampOf w.clock = .ok stamp) :
    ∃ a digest, (f.runIn w).1 = .ok a ∧ Password.accepts password (some digest) = true ∧
      effect stamp digest a (f.runIn w).2.directory := by
  rcases exists_run_digest created fits w₁ with ⟨digest, accepted, hashed⟩
  rcases writes.timed stamp (by rw [← time, ← goes.clock]) digest with ⟨a, w₂, saved, done⟩
  have rest : (s.digest password >>= write).runIn w₁ = (.ok a, w₂) := by
    rw [run_bind, hashed]
    exact saved
  refine ⟨a, digest, ?_, accepted, ?_⟩
  · rw [goes.outcome, rest]
  · rw [goes.directory, rest]
    exact done

/-- A flow that goes on with a password that fits fails with the clock, if that shows no time. -/
theorem GoesOn.untimed (goes : GoesOn f w (s.digest password >>= write) w₁)
    (writes : WritesDigest write { w₁ with salts := w₁.salts + 1 } effect)
    (created : Password.Verifier.create cost = .ok s.verifier) (fits : Fits password)
    {fault : Fault} (time : Time.stampOf w.clock = .error fault) :
    (f.runIn w).1 = .error (.fault fault) := by
  rcases exists_run_digest created fits w₁ with ⟨digest, -, hashed⟩
  rw [goes.outcome, run_bind, hashed]
  exact writes.untimed fault (by rw [← time, ← goes.clock]) digest

/-- A flow that is refused unless a condition holds, and otherwise hashes the password and saves the
digest, writes a password. -/
theorem WritesPassword.of_run (created : Password.Verifier.create cost = .ok s.verifier)
    {condition : Prop} {otherwise : Kind} (atomic : Atomic World.directory f w)
    (unsigned : Keeps World.minted f) (refused : ¬ condition → Refuses (f.runIn w).1 otherwise)
    (run : condition → ∃ (write : String → Flow α) (w₁ : World),
      GoesOn f w (s.digest password >>= write) w₁ ∧
      WritesDigest write { w₁ with salts := w₁.salts + 1 } effect) :
    WritesPassword f w condition otherwise password effect := by
  have unfit (holds : condition) (unfit : ¬ Fits password) :
      Refuses (f.runIn w).1 .invalidRequest := by
    rcases run holds with ⟨_, _, goes, -⟩
    exact goes.refuses unfit
  have untimed (holds : condition) (fits : Fits password) (fault : Fault)
      (time : Time.stampOf w.clock = .error fault) : (f.runIn w).1 = .error (.fault fault) := by
    rcases run holds with ⟨_, _, goes, writes⟩
    exact goes.untimed writes created fits time
  -- whatever stands in the way of a success is a failure of its own
  have needs {a : α} (succeeded : (f.runIn w).1 = .ok a) :
      condition ∧ Fits password ∧ ∃ stamp, Time.stampOf w.clock = .ok stamp := by
    have holds : condition := by
      by_contra missing
      rcases refused missing with ⟨c, failed, -⟩
      cases failed.symm.trans succeeded
    have fits : Fits password := by
      by_contra misfit
      rcases unfit holds misfit with ⟨c, failed, -⟩
      cases failed.symm.trans succeeded
    refine ⟨holds, fits, ?_⟩
    cases time : Time.stampOf w.clock with
    | ok stamp => exact ⟨stamp, rfl⟩
    | error fault => cases (untimed holds fits fault time).symm.trans succeeded
  refine ⟨⟨fun ⟨_, succeeded⟩ => needs succeeded, ?_⟩, ?_, refused, unfit, untimed, atomic,
    unsigned w⟩
  · rintro ⟨holds, fits, stamp, time⟩
    rcases run holds with ⟨_, _, goes, writes⟩
    rcases goes.timed writes created fits time with ⟨a, -, succeeded, -⟩
    exact ⟨a, succeeded⟩
  · intro a succeeded
    rcases needs succeeded with ⟨holds, fits, stamp, time⟩
    rcases run holds with ⟨_, _, goes, writes⟩
    rcases goes.timed writes created fits time with ⟨a', digest, answered, accepted, done⟩
    rcases Except.ok.inj (answered.symm.trans succeeded) with rfl
    exact ⟨stamp, digest, time, accepted, done⟩

end Writing

/-! ## Signing up -/

section Signup

variable {s : Service} {w : World} {email : String} {password : Option String}

/-- Signing up at the address of a member is refused, whatever the password is. -/
theorem refuses_signup_of_taken {m : Member} (found : w.directory.findByEmail email = some m) :
    Refuses ((s.signup email password).runIn w).1 .duplicateMember := by
  refine ⟨.emailTaken m.email, ?_, rfl⟩
  simp only [Service.signup, run_audited, run_bind, run_memberAt, World.directory_logged,
    Option.bind_some, found, run_refuse]

/-- At a free address signing up goes on with the password, under an id that is drawn. -/
theorem goesOn_signup (free : w.directory.findByEmail email = none) :
    GoesOn (s.signup email password) w
      (s.digest password >>= saveNew (.ok (some (idText (w.ids + 1)))) email)
      { w.logged (Audit.attempt "signup") with ids := w.ids + 1 } := by
  refine ⟨rfl, ?_, ?_⟩ <;>
    simp only [Service.signup, run_audited, run_bind, run_memberAt, World.directory_logged,
      Option.bind_some, free, run_freshId, World.ids_logged]

/-- A new member at a free address is saved with its times, and comes last if its id is new. -/
theorem writesDigest_saveNew {id : String} (free : w.directory.findByEmail email = none) :
    WritesDigest (saveNew (.ok (some id)) email) w fun stamp digest m after =>
      (∀ x ∈ w.directory.members, x.id ≠ id) →
        m = ⟨id, email, .member, some digest, true, stamp, stamp⟩ ∧
          after.members = w.directory.members ++ [m] := by
  constructor
  · intro stamp time digest
    refine ⟨_, _, run_saveNew_of_free time free id digest, ?_⟩
    intro new
    exact ⟨stamped_enrolled new stamp email digest,
      Directory.members_afterSave_of_new new free stamp⟩
  · intro fault time digest
    simp only [saveNew, run_bind, run_timestamp, time, Except.mapError]

end Signup

/-! ## Changing a password -/

/-- A password is the one of an address: the member with the address has a password, and accepts
this one. -/
def Knows (d : Directory) (email : String) (password : Option String) : Prop :=
  ∃ m ∈ d.members, m.email = email ∧ m.hasPassword = true ∧
    Password.accepts password m.passwordDigest = true

section Change

variable {s : Service} {w : World} {email : String} {current new : Option String}

/-- Changing a password is refused to someone who does not know it, whatever the new one is. -/
theorem refuses_changePassword (unknown : ¬ Knows w.directory email current) :
    Refuses ((s.changePassword email current new).runIn w).1 .invalidCredentials := by
  simp only [Service.changePassword, run_audited, run_bind, run_memberAt, World.directory_logged,
    Option.bind_some]
  cases found : w.directory.findByEmail email with
  | none => exact ⟨.noAccountToChange, rfl, rfl⟩
  | some m =>
    rcases Directory.findByEmail_eq_some_iff.1 found with ⟨stored, named⟩
    cases hasPassword : m.hasPassword with
    | false => exact ⟨.noAccountToChange, by simp [hasPassword], rfl⟩
    | true =>
      have mismatch : Password.accepts current m.passwordDigest = false :=
        Bool.eq_false_iff.2 fun accepted => unknown ⟨m, stored, named, hasPassword, accepted⟩
      exact ⟨.currentPasswordMismatch, by simp [hasPassword, mismatch], rfl⟩

/-- For someone who knows the password, changing it goes on with the new one. -/
theorem goesOn_changePassword {m : Member} (stored : m ∈ w.directory.members)
    (hasPassword : m.hasPassword = true)
    (accepted : Password.accepts current m.passwordDigest = true) :
    GoesOn (s.changePassword m.email current new) w
      (s.digest new >>= fun digest => do
        let _ ← save { m with passwordDigest := some digest }
        return ())
      (w.logged (Audit.attempt "change_password")) := by
  have found : w.directory.findByEmail m.email = some m :=
    Directory.findByEmail_eq_some_iff.2 ⟨stored, rfl⟩
  refine ⟨rfl, ?_, ?_⟩ <;>
    simp only [Service.changePassword, run_audited, run_bind, run_memberAt, World.directory_logged,
      Option.bind_some, found, hasPassword, accepted, Bool.not_true, Bool.false_eq_true, if_false]

/-- A member is saved with a new digest, and keeps all the rest but the time of its change. -/
theorem writesDigest_save {m : Member} (stored : m ∈ w.directory.members) :
    WritesDigest (fun digest => do
        let _ ← save { m with passwordDigest := some digest }
        return ()) w fun stamp digest _ after =>
      after.members = w.directory.members.map fun x =>
        if x.email = m.email then { x with passwordDigest := some digest, updatedAt := stamp }
        else x := by
  constructor
  · intro stamp time digest
    have saved := run_save_of_addressFree (r := { m with passwordDigest := some digest })
      (Directory.addressFree_of_stored stored rfl rfl) time
    refine ⟨(), _, by rw [run_bind, saved]; rfl, ?_⟩
    exact Directory.members_afterSave_changed stored
      (fun x => { x with passwordDigest := some digest }) rfl rfl stamp
  · intro fault time digest
    simp only [save, run_bind, run_timestamp, time, Except.mapError]

end Change

/-! ## Both flows -/

/-- What signing up and changing a password come to, whoever the members are and whatever is handed
in.  Signing up adds one member, with the address, the password and an id that is drawn, exactly if
the address is free and the password fits; changing a password puts the new one in the place of the
old one, and leaves all else but the time of the change, exactly if the old one is known and the new
one fits.  Otherwise the first thing that stands in the way is what is reported, and no member
changes. -/
theorem signup_and_change_write_exactly (s : Service) {cost : Int}
    (created : Password.Verifier.create cost = .ok s.verifier) (w : World) (email : String) :
    (∀ password, WritesPassword (s.signup email password) w
      (∀ m ∈ w.directory.members, m.email ≠ email) .duplicateMember password
      fun stamp digest m after => (∀ x ∈ w.directory.members, x.id ≠ idText (w.ids + 1)) →
        m = ⟨idText (w.ids + 1), email, .member, some digest, true, stamp, stamp⟩ ∧
          after.members = w.directory.members ++ [m]) ∧
      ∀ current new, WritesPassword (s.changePassword email current new) w
        (Knows w.directory email current) .invalidCredentials new
        fun stamp digest _ after => after.members = w.directory.members.map fun x =>
          if x.email = email then { x with passwordDigest := some digest, updatedAt := stamp }
          else x := by
  constructor
  · intro password
    refine .of_run created (atomic_signup s w _ _) (keeps_signup apart_minted s _ _) ?_ ?_
    · intro taken
      cases found : w.directory.findByEmail email with
      | some m => exact refuses_signup_of_taken found
      | none => exact absurd (Directory.findByEmail_eq_none_iff.1 found) taken
    · intro free
      have free := Directory.findByEmail_eq_none_iff.2 free
      exact ⟨_, _, goesOn_signup free, writesDigest_saveNew free⟩
  · intro current new
    refine .of_run created (atomic_changePassword s w _ _ _)
      (keeps_changePassword apart_minted s _ _ _) refuses_changePassword ?_
    rintro ⟨m, stored, rfl, hasPassword, accepted⟩
    exact ⟨_, _, goesOn_changePassword stored hasPassword accepted, writesDigest_save stored⟩

/-- Beside the newcomer someone signs up, and then changes the password; nobody can sign up there
again, and the newcomer has no password to change. -/
theorem signs_up_and_changes_password :
    Password.Verifier.create 4 = .ok plainService.verifier ∧
      ∃ m w', (plainService.signup "b@x" "password").runIn newcomersWorld = (.ok m, w') ∧
        w'.directory.members = [newcomer, m] ∧
        ((plainService.changePassword "b@x" "password" "other").runIn w').1 = .ok () ∧
        Refuses ((plainService.signup "b@x" none).runIn w').1 .duplicateMember ∧
        Refuses ((plainService.changePassword "a@x" "password" none).runIn w').1
          .invalidCredentials := by
  have writes (w : World) (email : String) :=
    signup_and_change_write_exactly plainService plainService_verifier w email
  have fits : Fits "password" ∧ Fits "other" :=
    ⟨⟨_, rfl, by decide +kernel⟩, ⟨_, rfl, by decide +kernel⟩⟩
  have signup := (writes newcomersWorld "b@x").1 "password"
  obtain ⟨m, succeeded⟩ := signup.succeeds_iff.2 ⟨by decide, fits.1, exists_stamp⟩
  obtain ⟨stamp, digest, -, accepted, effect⟩ := signup.written m succeeded
  have fresh : ∀ x ∈ newcomersWorld.directory.members, x.id ≠ idText (newcomersWorld.ids + 1) := by
    intro x member
    rcases List.mem_singleton.1 member with rfl
    exact ne_idText (by decide) _
  obtain ⟨enrolled, members⟩ := effect fresh
  have known : Knows ((plainService.signup "b@x" "password").runIn newcomersWorld).2.directory "b@x"
      "password" := by
    refine ⟨m, by rw [members]; exact List.mem_append_right _ (List.mem_singleton.2 rfl), ?_⟩
    rw [enrolled]
    exact ⟨rfl, (Member.hasPassword_eq_true_iff _).2
      ⟨digest, rfl, Password.ne_empty_of_accepts accepted⟩, accepted⟩
  refine ⟨plainService_verifier, m, _, run_of_outcome succeeded, members, ?_, ?_, ?_⟩
  · have clock := keeps_signup apart_clock plainService "b@x" "password" newcomersWorld
    have change := (writes ((plainService.signup "b@x" "password").runIn newcomersWorld).2 "b@x").2
      "password" "other"
    obtain ⟨_, changed⟩ := change.succeeds_iff.2 ⟨known, fits.2, by rw [clock]; exact exists_stamp⟩
    exact changed
  · rcases known with ⟨x, member, named, -⟩
    exact ((writes _ "b@x").1 none).refused fun free => free x member named
  · refine ((writes _ "a@x").2 "password" none).refused ?_
    rintro ⟨x, member, named, hasPassword, -⟩
    rw [members] at member
    rcases List.mem_append.1 member with before | last
    · rcases List.mem_singleton.1 before with rfl
      cases hasPassword
    · rw [List.mem_singleton.1 last, enrolled] at named
      exact absurd named (by decide : "b@x" ≠ "a@x")

end Gatehouse.Account
