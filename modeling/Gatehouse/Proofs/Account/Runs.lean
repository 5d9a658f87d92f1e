import Gatehouse.Proofs.Account.Opening
import Gatehouse.Proofs.Member.Records
import Gatehouse.Proofs.Password.Digests

/-!
# Runs of the service

A run is a sequence of steps, each at a time of its own: a step is an operation of the service or
a save.  An operation writes one record at most, and not any record: a member that is stored gets
a new digest, or a plain member is enrolled at an address that nobody has.  So an operation never
changes the address or the role of a member unless it enrols another one under its id.

Main results:

- `Operation.signup_cases`, `Operation.changePassword_cases`: what signing up and changing a
  password write.
- `Operation.wrote_flow`: the one write of an operation.
- `Saving.wrote`, `Step.wrote`: the one write of a save, and of any step.
- `runAll_cons`: a run goes on in the world that its first step left.
- `Along.invariant`: what every step of a run preserves holds after the run.
-/

namespace Gatehouse.Account

open Gatehouse.Text Gatehouse.Token Gatehouse.Flow

/-! ## What an operation writes -/

namespace Operation

variable (s : Service) (w : World)

/-- An operation enrols a new member under an id: signing up under a fresh one, and setting a first
password under the one that the token names. -/
def Enrols : Operation → String → Prop
  | .signup .., id => id = idText (w.ids + 1)
  | .setInitialPassword token password, id => WritesNewUnder s token password w id
  | _, _ => False

/-- A record that an operation may write. -/
inductive Writes (o : Operation) : Member → Prop
  /-- A member gets a digest, and may be enabled. -/
  | password {m : Member} (stored : m ∈ w.directory.members) (digest : String) (enabled : Bool) :
    Writes o { m with passwordDigest := some digest, enabled := enabled }
  /-- A plain member is enrolled at a free address. -/
  | enrolled {id email : String} (enrols : o.Enrols s w id)
    (free : w.directory.findByEmail email = none) (digest : String) :
    Writes o ⟨id, email, .member, some digest, true, "", ""⟩

/-- An operation has written a record, or nothing. -/
def Wrote (o : Operation) (after : Directory) : Prop :=
  after = w.directory ∨
    ∃ stamp r, o.Writes s w r ∧ after = w.directory.afterSave stamp r

variable {s w}

/-- Signing up leaves the members alone, or enrols a member at a free address under a fresh id. -/
theorem signup_cases (email password : Option String) :
    ((s.signup email password).runIn w).2.directory = w.directory ∨
      ∃ stamp e digest, w.directory.findByEmail e = none ∧
        ((s.signup email password).runIn w).2.directory = w.directory.afterSave stamp
          ⟨idText (w.ids + 1), e, .member, some digest, true, "", ""⟩ := by
  unfold Service.signup
  rw [run_audited, World.directory_logged]
  simp only [run_bind, Service.memberAt, run_directory, run_pure, World.directory_logged]
  cases found : email.bind w.directory.findByEmail with
  | some m => exact .inl rfl
  | none =>
    simp only [run_bind, run_freshId, World.ids_logged, run_digest]
    cases Password.secretBytes password with
    | error e => cases e <;> exact .inl rfl
    | ok bytes =>
      cases email with
      | none =>
        left
        simp only [saveNew, run_bind, run_timestamp]
        cases Time.stampOf _ with
        | error f => rfl
        | ok stamp => exact directory_reject _ _
      | some email =>
        simp only
        rw [directory_saveNew]
        cases Time.stampOf _ with
        | error f => exact .inl rfl
        | ok stamp => exact .inr ⟨stamp, email, _, found, rfl⟩

/-- Changing a password leaves the members alone, or gives the member with the address a digest
that is not empty. -/
theorem changePassword_cases (email current new : Option String) :
    ((s.changePassword email current new).runIn w).2.directory = w.directory ∨
      ∃ stamp m digest, m ∈ w.directory.members ∧ email = some m.email ∧ digest ≠ "" ∧
        ((s.changePassword email current new).runIn w).2.directory =
          w.directory.afterSave stamp { m with passwordDigest := some digest } := by
  unfold Service.changePassword
  rw [run_audited, World.directory_logged]
  simp only [run_bind, Service.memberAt, run_directory, run_pure, World.directory_logged]
  cases found : email.bind w.directory.findByEmail with
  | none => exact .inl rfl
  | some m =>
    simp only
    split
    · exact .inl rfl
    · split
      · exact .inl rfl
      · rcases bind_findByEmail_eq_some_iff.1 found with ⟨stored, named⟩
        rw [run_bind, run_digest]
        cases Password.secretBytes new with
        | error e => cases e <;> exact .inl rfl
        | ok bytes =>
          simp only
          have rest (_ : Member) : Keeps World.directory (pure ()) := keeps_pure ()
          rw [part_bind_of_keeps rest, directory_save]
          cases Time.stampOf _ with
          | error f => exact .inl rfl
          | ok stamp =>
            exact .inr ⟨stamp, m, _, stored, named, Password.render_ne_empty _, rfl⟩

/-- Signing up enrols a member under a fresh id. -/
theorem wrote_signup (email password : Option String) :
    (signup email password).Wrote s w ((s.signup email password).runIn w).2.directory := by
  rcases signup_cases (s := s) (w := w) email password with kept | ⟨stamp, e, digest, free, after⟩
  · exact .inl kept
  · have enrols : (signup email password).Enrols s w (idText (w.ids + 1)) := rfl
    exact .inr ⟨stamp, _, .enrolled enrols free digest, after⟩

/-- Setting a first password writes the member that was found or enrols one. -/
theorem wrote_setInitialPassword (token password : Option String) :
    (setInitialPassword token password).Wrote s w
      ((s.setInitialPassword token password).runIn w).2.directory := by
  rw [directory_setInitialPassword]
  cases write : setupWrite s token password w with
  | none => exact .inl rfl
  | some pair =>
    rcases pair with ⟨stamp, r⟩
    rcases setupWrite_record write with
      ⟨m, stored, _, digest, rfl⟩ | ⟨new, email, digest, free, same⟩
    · exact .inr ⟨stamp, _, .password stored digest true, rfl⟩
    · have enrols : (setInitialPassword token password).Enrols s w r.id := new
      exact .inr ⟨stamp, r, same ▸ .enrolled enrols free digest, rfl⟩

/-- Changing a password writes the member that was found. -/
theorem wrote_changePassword (email current new : Option String) :
    (changePassword email current new).Wrote s w
      ((s.changePassword email current new).runIn w).2.directory := by
  rcases changePassword_cases (s := s) (w := w) email current new with
    kept | ⟨stamp, m, digest, stored, _, _, after⟩
  · exact .inl kept
  · exact .inr ⟨stamp, _, .password stored digest m.enabled, after⟩

/-- Whatever an operation is asked for, it has written one such record or nothing. -/
theorem wrote_flow (o : Operation) : o.Wrote s w ((o.flow s).runIn w).2.directory := by
  by_cases writes : o.writes = true
  · cases o with
    | signup email password => exact wrote_signup email password
    | setInitialPassword token password => exact wrote_setInitialPassword token password
    | changePassword email current new => exact wrote_changePassword email current new
    | _ => cases writes
  · exact .inl (keeps_of_reads s (Bool.eq_false_iff.2 writes) w)

end Operation

/-! ## What a save writes -/

/-- A save that is handed everything, at a time that can be shown, writes its record. -/
theorem Saving.directory_run {c : Saving} {stamp id email : String} {role : Role}
    (time : Time.stampOf c.clock = .ok stamp) (named : roleOf c.draft.role = .ok role)
    (hid : c.draft.id = some id) (hemail : c.draft.email = some email) (w : World) :
    (c.run w).2.directory = w.directory.afterSave stamp
      ⟨id, email, role, c.draft.passwordDigest, c.draft.enabled, c.draft.createdAt, ""⟩ := by
  simp only [Saving.run, saveDraft, run_bind, run_timestamp, time, Except.mapError, run_liftFault,
    named, hid, hemail]
  exact directory_store _ _ _

/-- A save touches the members and the log only. -/
theorem keeps_saveDraft {γ : Type} {part : World → γ} (apart : Apart part) (draft : Draft) :
    Keeps part (saveDraft draft) := by
  apply keeps_bind keeps_timestamp
  intro stamp
  apply keeps_bind (keeps_liftFault _)
  intro role
  split
  · exact keeps_store apart stamp _
  · exact keeps_reject apart _

/-- A save writes a record with the id and the address that it is handed, or nothing. -/
theorem Saving.wrote (c : Saving) (w : World) :
    (c.run w).2.directory = w.directory ∨
      ∃ stamp r, c.draft.id = some r.id ∧ c.draft.email = some r.email ∧
        (c.run w).2.directory = w.directory.afterSave stamp r := by
  cases outcome : (c.run w).1 with
  | error e => exact .inl (c.directory_of_error w outcome)
  | ok m =>
    have saves := c.saves w
    rw [outcome] at saves
    generalize (c.run w).2.directory.records = after at saves
    cases saves with
    | stored time named hid hemail =>
      exact .inr ⟨_, _, hid, hemail, c.directory_run time named hid hemail w⟩

/-! ## Steps -/

/-- An operation at a time. -/
structure Call where
  clock : Float
  operation : Operation

/-- A step of a run. -/
inductive Step
  | call (c : Call)
  | save (c : Saving)

namespace Step

variable (s : Service) (w : World)

/-- The world after a step. -/
def run : Step → World
  | .call c => ((c.operation.flow s).runIn { w with clock := c.clock }).2
  | .save c => (c.run w).2

/-- A record that a step may write. -/
def Writes : Step → Member → Prop
  | .call c, r => c.operation.Writes s { w with clock := c.clock } r
  | .save c, r => c.draft.id = some r.id ∧ c.draft.email = some r.email

/-- A step has written one such record or nothing. -/
theorem wrote (step : Step) :
    (step.run s w).directory = w.directory ∨
      ∃ stamp r, step.Writes s w r ∧ (step.run s w).directory = w.directory.afterSave stamp r := by
  cases step with
  | call c => exact c.operation.wrote_flow
  | save c =>
    rcases c.wrote w with kept | ⟨stamp, r, hid, hemail, after⟩
    · exact .inl kept
    · exact .inr ⟨stamp, r, ⟨hid, hemail⟩, after⟩

end Step

/-! ## Runs -/

/-- The world after the steps of a run, one after the other. -/
def runAll (s : Service) (steps : List Step) (w : World) : World :=
  steps.foldl (fun w step => step.run s w) w

section Runs

variable {s : Service} {w : World}

/-- A run without steps leaves the world as it is. -/
@[simp]
theorem runAll_nil : runAll s [] w = w := rfl

/-- A run goes on in the world that its first step left. -/
@[simp]
theorem runAll_cons (step : Step) (steps : List Step) :
    runAll s (step :: steps) w = runAll s steps (step.run s w) := rfl

/-- The world in which a call is made. -/
def Call.at (c : Call) (w : World) : World :=
  { w with clock := c.clock }

/-- Every call of a run is of a kind, in the world in which it is made. -/
def Along (s : Service) (kind : World → Operation → Prop) : List Call → World → Prop
  | [], _ => True
  | c :: calls, w => kind (c.at w) c.operation ∧ Along s kind calls (Step.run s w (.call c))

/-- What every call of a run preserves of the members holds after the run if it held before. -/
theorem Along.invariant {kind : World → Operation → Prop} (Inv : Directory → Prop)
    (preserved : ∀ w o, kind w o → Inv w.directory → Inv ((o.flow s).runIn w).2.directory)
    {calls : List Call} (along : Along s kind calls w) (before : Inv w.directory) :
    Inv (runAll s (calls.map .call) w).directory := by
  induction calls generalizing w with
  | nil => exact before
  | cons c calls ih =>
    rcases along with ⟨first, rest⟩
    exact ih rest (preserved (c.at w) c.operation first before)

end Runs

end Gatehouse.Account
