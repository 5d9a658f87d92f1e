import Gatehouse.Proofs.Account.Operations

/-!
# Opening sessions

Signing in, renewing a session and setting a first password come to the same thing.  Either the
flow fails with nothing signed, or it issues a session at the time at which it was called: to a
member that is stored by then, on grounds that the members and the presented token or password
bear out.  After that nothing is written any more.

Main results:

- `Opens`, `opens_bind`: a flow that opens sessions on some grounds only.
- `opens_signin`, `opens_refresh`, `opens_setInitialPassword`: the grounds of the three flows.
-/

namespace Gatehouse.Account

open Gatehouse.Text Gatehouse.Token Gatehouse.Flow

/-! ## Flows that open sessions -/

/-- A run fails with nothing signed. -/
structure Declines {α : Type} (f : Flow α) (w : World) : Prop where
  outcome : ∃ e, (f.runIn w).1 = .error e
  minted : (f.runIn w).2.minted = w.minted

/-- The run of a flow comes to issuing a session to a stored member, at the same time and with
nothing signed before; nothing is written after that. -/
structure Issues (s : Service) (f : Flow Session) (w : World) (m : Member)
    (presented : Option String) (w₁ : World) : Prop where
  clock : w₁.clock = w.clock
  before : w₁.minted = w.minted
  stored : m ∈ w₁.directory.members
  outcome : (f.runIn w).1 = ((s.issue m presented).runIn w₁).1
  minted : (f.runIn w).2.minted = ((s.issue m presented).runIn w₁).2.minted
  directory : (f.runIn w).2.directory = w₁.directory

/-- A flow opens sessions on some grounds only: it declines, or a session is issued to a member
for whom there are grounds. -/
def Opens (s : Service) (grounds : Member → Option String → Prop) (f : Flow Session)
    (w : World) : Prop :=
  Declines f w ∨ ∃ m presented w₁, grounds m presented ∧ Issues s f w m presented w₁

section Opens

variable {s : Service} {grounds : Member → Option String → Prop} {α : Type} {f : Flow α}
  {g : α → Flow Session} {w : World}

/-- A refusal opens nothing. -/
theorem opens_refuse (c : Cause) : Opens s grounds (refuse c) w :=
  .inl ⟨⟨_, rfl⟩, rfl⟩

/-- A session is issued to a stored member for whom there are grounds. -/
theorem opens_issue {m : Member} {presented : Option String} (stored : m ∈ w.directory.members)
    (h : grounds m presented) : Opens s grounds (s.issue m presented) w :=
  .inr ⟨m, presented, w, h, rfl, rfl, stored, rfl, rfl, keeps_issue s m presented w⟩

/-- A flow whose run is that of another one, at the same time and with the same tokens signed,
opens what that one does. -/
theorem opens_of_run {f f' : Flow Session} {w' : World} (same : f.runIn w = f'.runIn w')
    (clock : w'.clock = w.clock) (minted : w'.minted = w.minted)
    (h : Opens s grounds f' w') : Opens s grounds f w := by
  rcases h with declined | ⟨m, presented, w₁, ground, issued⟩
  · left
    exact ⟨by rw [same]; exact declined.outcome, by rw [same, declined.minted, minted]⟩
  · right
    refine ⟨m, presented, w₁, ground, issued.clock.trans clock, issued.before.trans minted,
      issued.stored, ?_, ?_, ?_⟩
    · rw [same, issued.outcome]
    · rw [same, issued.minted]
    · rw [same, issued.directory]

/-- What comes before a session is issued takes no time and signs nothing. -/
theorem opens_bind (untimed : Keeps World.clock f) (unsigned : Keeps World.minted f)
    (h : ∀ a w', f.runIn w = (.ok a, w') → Opens s grounds (g a) w') :
    Opens s grounds (f >>= g) w := by
  have clock := untimed w
  have minted := unsigned w
  rcases run : f.runIn w with ⟨e | a, w'⟩
  · rw [run] at minted
    exact .inl ⟨⟨e, by rw [run_bind, run]⟩, by rw [run_bind, run]; exact minted⟩
  · rw [run] at clock minted
    exact opens_of_run (by rw [run_bind, run]) clock minted (h a w' run)

/-- What is read off the world is handed on in the same world. -/
theorem opens_bind_of_run {a : α} (run : f.runIn w = (.ok a, w))
    (h : Opens s grounds (g a) w) : Opens s grounds (f >>= g) w :=
  opens_of_run (by rw [run_bind, run]) rfl rfl h

/-- A check that passes hands its result on in the same world. -/
theorem opens_bind_lift {outcome : Except Failure α}
    (h : ∀ a, outcome = .ok a → Opens s grounds (g a) w) :
    Opens s grounds (lift outcome >>= g) w := by
  cases outcome with
  | ok a => exact opens_bind_of_run (run_lift _ w) (h a rfl)
  | error e => exact .inl ⟨⟨e, rfl⟩, rfl⟩

/-- Auditing a flow makes no difference. -/
theorem opens_audited {name : String} {f : Flow Session}
    (h : Opens s grounds f (w.logged (Audit.attempt name))) :
    Opens s grounds (audited name f) w := by
  rcases h with declined | ⟨m, presented, w₁, ground, issued⟩
  · exact .inl ⟨declined.outcome, declined.minted⟩
  · exact .inr ⟨m, presented, w₁, ground, issued.clock, issued.before, issued.stored,
      issued.outcome, issued.minted, issued.directory⟩

end Opens

/-! ## Signing in -/

/-- A member is recognised by an address and a password: it has the address, is enabled, and has
a digest, to which the password belongs. -/
structure Recognises (d : Directory) (email password : Option String) (m : Member) : Prop where
  stored : m ∈ d.members
  email : email = some m.email
  enabled : m.enabled = true
  hasPassword : m.hasPassword = true
  accepted : Password.accepts password m.passwordDigest = true

section Signin

variable {s : Service} {w : World} {d : Directory} {email password : Option String}

/-- A member is found by an address exactly when it has that address. -/
theorem bind_findByEmail_eq_some_iff {m : Member} :
    email.bind d.findByEmail = some m ↔ m ∈ d.members ∧ email = some m.email := by
  cases email with
  | none => simp
  | some e =>
    rw [Option.bind_some, Directory.findByEmail_eq_some_iff, Option.some.injEq, eq_comm]

/-- Looking up an address is a search of the members. -/
theorem run_memberAt (email : Option String) (w : World) :
    (Service.memberAt email).runIn w = (.ok (email.bind w.directory.findByEmail), w) := rfl

/-- Signing in opens a session for the member that is recognised. -/
theorem opens_signin :
    Opens s (fun m presented => Recognises w.directory email password m ∧ presented = none)
      (s.signin email password) w := by
  apply opens_audited
  apply opens_bind_of_run (run_memberAt email _)
  rw [World.directory_logged]
  cases found : email.bind w.directory.findByEmail with
  | none => exact opens_refuse _
  | some m =>
    simp only
    split
    · exact opens_refuse _
    · next usable =>
      split
      · exact opens_refuse _
      · next accepted =>
        simp only [Bool.or_eq_true, Bool.not_eq_true', not_or, Bool.not_eq_false] at usable accepted
        rcases bind_findByEmail_eq_some_iff.1 found with ⟨stored, named⟩
        exact opens_issue (w := w.logged _) stored
          ⟨⟨stored, named, usable.1, usable.2, accepted⟩, rfl⟩

end Signin

/-! ## Renewing a session -/

/-- A token renews the session of a member: it verifies, is live and of the refresh type, and
names the address of the member, who is stored and enabled. -/
structure Renews (s : Service) (w : World) (token : Option String) (m : Member) : Prop where
  verified : ∃ claims, s.tokens.verified w.clock token = .ok claims ∧
    isLive claims w.clock = true ∧
    Keyed.lookup claims "type" = some (.string Token.refresh) ∧
    Keyed.lookup claims "sub" = some (.string m.email)
  stored : m ∈ w.directory.members
  enabled : m.enabled = true

section Renewal

variable {s : Service} {w : World} {token : Option String}

/-- A check that passes where broken tokens count as invalid passes where they do not. -/
theorem of_asInvalid_ok {α : Type} {outcome : Except Failure α} {a : α}
    (h : asInvalid outcome = .ok a) : outcome = .ok a := by
  unfold asInvalid at h
  split at h
  · cases h
  · exact h

/-- The subject of a token that verifies is named in its claims. -/
theorem named_of_subject {p : Processor} {now : Float} {claims : Claims} {email : String}
    (verified : p.verified now token = .ok claims) (h : p.subject now token = .ok email) :
    Keyed.lookup claims "sub" = some (.string email) := by
  simp only [Processor.subject, verified, bind, Except.bind] at h
  split at h
  · next named =>
    rw [(subject?_eq_some_iff.1 named).1, Except.ok.inj h]
  · cases h

/-- Renewing opens a session for the member that the token names, with that token. -/
theorem opens_refresh :
    Opens s (fun m presented => Renews s w token m ∧ presented = token) (s.refresh token) w := by
  apply opens_audited
  apply opens_bind_of_run (run_now _)
  apply opens_bind_lift
  intro valid validated
  cases valid with
  | false => exact opens_refuse _
  | true =>
    rcases verified_of_validateRefresh (of_asInvalid_ok validated) with
      ⟨claims, verified, live, type⟩
    apply opens_bind_lift
    intro email subject
    apply opens_bind_of_run (run_directory _)
    rw [World.directory_logged]
    split
    · exact opens_refuse _
    · next m found =>
      split
      · next enabled =>
        rcases Directory.findByEmail_eq_some_iff.1 found with ⟨stored, rfl⟩
        have named := named_of_subject verified subject
        exact opens_issue (w := w.logged _) stored
          ⟨⟨⟨claims, verified, live, type, named⟩, stored, enabled⟩, rfl⟩
      · exact opens_refuse _

end Renewal

/-! ## Setting a first password -/

/-- What a flow answers is a member that is stored. -/
def Stores (f : Flow Member) : Prop :=
  ∀ w m w', f.runIn w = (.ok m, w') → m ∈ w'.directory.members

/-- A sequence that ends in storing a member stores it. -/
theorem stores_bind {α : Type} {f : Flow α} {g : α → Flow Member} (h : ∀ a, Stores (g a)) :
    Stores (f >>= g) := by
  intro w m w' run
  rw [run_bind] at run
  rcases first : f.runIn w with ⟨e | a, w₁⟩
  · rw [first] at run
    cases run
  · rw [first] at run
    exact h a w₁ m w' run

/-- A rejected record is not answered with. -/
theorem stores_reject (email : Option String) : Stores (reject email) :=
  stores_bind fun _ _ _ _ run => by cases run

/-- A write that is not rejected stores its record. -/
theorem stores_store (stamp : String) (r : Member) : Stores (store stamp r) := by
  intro w m w' run
  unfold store at run
  rw [run_bind, run_directory] at run
  simp only at run
  split at run
  · next stored d saved =>
    rw [run_of] at run
    cases run
    exact (Directory.mem_save?_iff saved).2 (.inl rfl)
  · exact stores_reject _ w m w' run

/-- Saving the member of a first password stores it. -/
theorem stores_saveFirst (found : Option Member) (email digest : String) (claimed : Option Json) :
    Stores (saveFirst found email digest claimed) := by
  cases found with
  | some m => exact stores_bind fun stamp => stores_store stamp _
  | none =>
    apply stores_bind
    intro id
    apply stores_bind
    intro stamp
    apply stores_bind
    intro i
    split
    · exact stores_store stamp _
    · exact stores_reject _

/-- A token sets up an address: it verifies, is live, and is of the temporary type and for the
purpose of setting a password; it names the address, and no member with that address has a
password. -/
structure SetsUp (s : Service) (w : World) (token : Option String) (email : String) : Prop where
  verified : ∃ claims, s.tokens.verified w.clock token = .ok claims ∧
    isLive claims w.clock = true ∧
    Keyed.lookup claims "type" = some (.string temporary) ∧
    Keyed.lookup claims "purpose" = some (.string passwordSetup) ∧
    Keyed.lookup claims "sub" = some (.string email)
  unclaimed : ∀ m ∈ w.directory.members, m.email = email → m.hasPassword = false

section Setup

variable {s : Service} {w : World} {token : Option String}

/-- Giving a password to a member opens a session for it. -/
theorem opens_establish {grounds : Option String → Prop} (ground : grounds none)
    (found : Option Member) (email : String) (claimed : Option Json) (password : Option String) :
    Opens s (fun _ => grounds) (s.establish found email claimed password) w := by
  rw [establish_eq]
  apply opens_bind (keeps_digest apart_clock s password) (keeps_digest apart_minted s password)
  intro digest w₁ _
  apply opens_bind (keeps_saveFirst apart_clock found email digest claimed)
    (keeps_saveFirst apart_minted found email digest claimed)
  intro stored w₂ saved
  exact opens_issue (stores_saveFirst found email digest claimed w₁ stored w₂ saved) ground

/-- Setting a first password opens a session for the address that the token sets up. -/
theorem opens_setInitialPassword (password : Option String) :
    Opens s (fun _ presented => (∃ email, SetsUp s w token email) ∧ presented = none)
      (s.setInitialPassword token password) w := by
  apply opens_audited
  apply opens_bind (keeps_setupEmail s token) (keeps_setupEmail s token)
  intro email w₁ run
  rw [run_setupEmail] at run
  rcases Prod.mk.inj run with ⟨confirmed, rfl⟩
  rcases verified_of_validateTemporary (validateTemporary_of_confirmedEmail confirmed) with
    ⟨claims, verified⟩
  apply opens_bind_of_run (run_now _)
  apply opens_bind_lift
  intro claimed _
  apply opens_bind_of_run (run_directory _)
  rw [World.directory_logged]
  simp only
  split
  · exact opens_refuse _
  · next unclaimed =>
    refine opens_establish ⟨⟨email, ⟨claims, verified⟩, ?_⟩, rfl⟩ _ email claimed password
    intro m stored named
    rw [Directory.findByEmail_eq_some_iff.2 ⟨stored, named⟩] at unclaimed
    exact Bool.eq_false_iff.2 unclaimed

end Setup

end Gatehouse.Account
