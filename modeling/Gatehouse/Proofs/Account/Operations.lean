import Gatehouse.Account.Caller
import Gatehouse.Proofs.Account.TokenUses

/-!
# Operations that fail

Whatever an operation of the service is asked for, it changes the members in full or not at all.
Most operations only read.  The three that write do so once: what can fail comes before the
write, and the write itself is all or nothing.  Setting a first password signs tokens after the
write, which does not fail as long as the tokens have an expiry.

What the flows are made of that sign nothing is said once: they add lines to the log, write to the
members, and draw ids and salts.  So they keep to every relation of worlds that these keep to, and
leave alone every part of the world that none of these belongs to.

Main results:

- `leads_signup`, `leads_changePassword`: signing up and changing a password keep to such a
  relation.
- `keeps_of_reads`: an operation that only reads changes no member.
- `atomic_signup`, `atomic_setInitialPassword`, `atomic_changePassword`: the operations that write
  are all or nothing.
- `failed_operation_keeps_members`: no operation that fails has changed a member.
-/

namespace Gatehouse.Account

open Gatehouse.Text Gatehouse.Token Gatehouse.Flow

/-! ## Reading -/

section Reading

variable {γ : Type} {part : World → γ} (s : Service) (token : Option String)

/-- Looking up an address touches nothing. -/
theorem keeps_memberAt (email : Option String) : Keeps part (Service.memberAt email) :=
  keeps_bind keeps_directory fun _ => keeps_pure _

/-- Looking up an address for an administrator touches nothing. -/
theorem keeps_memberByEmail (email : Option String) : Keeps part (Service.memberByEmail email) := by
  apply keeps_bind (keeps_memberAt email)
  intro found
  cases found with
  | some m => exact keeps_pure m
  | none => exact keeps_refuse _

/-- Looking up a role touches nothing. -/
theorem keeps_memberByRole (role : Json) : Keeps part (Service.memberByRole role) :=
  keeps_bind (keeps_liftFault _) fun _ => keeps_bind keeps_directory fun _ => keeps_pure _

/-- Confirming an address touches nothing. -/
theorem keeps_setupEmail : Keeps part (s.setupEmail token) := fun w => by
  rw [run_setupEmail]

/-- Finding the member behind a bearer token touches nothing. -/
theorem keeps_resolveBearer : Keeps part (s.resolveBearer token) := by
  apply keeps_bind keeps_now
  intro now
  apply keeps_bind (keeps_lift _)
  intro valid
  cases valid with
  | false => exact keeps_pure none
  | true =>
    apply keeps_bind (keeps_lift _)
    intro type
    cases Json.isString type Token.access with
    | false => exact keeps_pure none
    | true =>
      exact keeps_bind (keeps_lift _) fun _ => keeps_bind keeps_directory fun _ => keeps_pure _

/-- Reading the scopes of a token touches nothing. -/
theorem keeps_grantedScopes : Keeps part (s.grantedScopes token) :=
  keeps_bind keeps_now fun _ => keeps_lift _

/-- Finding the caller of a request touches nothing. -/
theorem keeps_identify (headers : Web.Headers) : Keeps part (s.identify none headers) := by
  unfold Service.identify
  simp only
  split
  · exact keeps_pure _
  · next token _ =>
    apply keeps_bind (keeps_resolveBearer s token)
    intro found
    cases found with
    | none => exact keeps_pure _
    | some m => exact keeps_bind (keeps_grantedScopes s token) fun _ => keeps_pure _

end Reading

/-! ## Signing -/

section Signing

variable (s : Service)

/-- Signing in changes no member. -/
theorem keeps_signin (email password : Option String) :
    Keeps World.directory (s.signin email password) := by
  apply keeps_audited World.directory_logged
  apply keeps_bind (keeps_memberAt email)
  intro found
  cases found with
  | none => exact keeps_refuse _
  | some m =>
    simp only
    split
    · exact keeps_refuse _
    · split
      · exact keeps_refuse _
      · exact keeps_issue s m none

/-- Renewing a session changes no member. -/
theorem keeps_refresh (token : Option String) : Keeps World.directory (s.refresh token) := by
  apply keeps_audited World.directory_logged
  apply keeps_bind keeps_now
  intro now
  apply keeps_bind (keeps_lift _)
  intro valid
  cases valid with
  | false => exact keeps_refuse _
  | true =>
    apply keeps_bind (keeps_lift _)
    intro email
    apply keeps_bind keeps_directory
    intro d
    split
    · exact keeps_refuse _
    · split
      · exact keeps_issue s _ _
      · exact keeps_refuse _

/-- Signing a temporary token changes no member. -/
theorem keeps_issueTemporaryToken (grant : SetupGrant) :
    Keeps World.directory (s.issueTemporaryToken grant) :=
  keeps_audited World.directory_logged (keeps_mint (fun _ => rfl) (fun _ _ => rfl) s _ _) _

end Signing

/-! ## Flows that sign nothing -/

/-- Save the member that gets a first password: the one that was found, or a new one. -/
def saveFirst (found : Option Member) (email digest : String) (claimed : Option Json) :
    Flow Member :=
  match found with
  | some m => save { m with passwordDigest := some digest, enabled := true }
  | none => do saveNew (← Service.claimedId claimed) email digest

/-- A first password is hashed, its member is saved, and a session is issued. -/
theorem establish_eq (s : Service) (found : Option Member) (email : String)
    (claimed : Option Json) (password : Option String) :
    s.establish found email claimed password = (do
      let digest ← s.digest password
      let stored ← saveFirst found email digest claimed
      s.issue stored none) := by
  unfold Service.establish saveFirst
  cases found with
  | some m => rfl
  | none => simp only [bind_assoc]

/-- A relation between an earlier and a later world that every line in the log, every write to the
members and every draw of an id or a salt keeps to, and every sequence of these. -/
structure Tolerates (R : World → World → Prop) : Prop where
  refl : ∀ w, R w w
  trans : ∀ {w w' w''}, R w w' → R w' w'' → R w w''
  log : ∀ w line, R w (w.logged line)
  directory : ∀ w d, R w { w with directory := d }
  id : ∀ w, R w { w with ids := w.ids + 1 }
  salt : ∀ w, R w { w with salts := w.salts + 1 }

/-- A flow leads from every world to one that is related to it, however it ends. -/
def Leads {α : Type} (R : World → World → Prop) (f : Flow α) : Prop :=
  ∀ w, R w (f.runIn w).2

section Leads

variable {R : World → World → Prop} (tolerates : Tolerates R)
include tolerates

/-- What leaves the world as it is leads nowhere else. -/
theorem leads_of_keeps {α : Type} {f : Flow α} (keeps : Keeps id f) : Leads R f := by
  intro w
  rw [show (f.runIn w).2 = w from keeps w]
  exact tolerates.refl w

/-- A refusal leads nowhere else. -/
theorem leads_refuse {α : Type} (c : Cause) : Leads R (refuse c : Flow α) :=
  leads_of_keeps tolerates (keeps_refuse c)

/-- A sequence leads where its second part leads from where its first part led. -/
theorem leads_bind {α β : Type} {f : Flow α} {g : α → Flow β} (first : Leads R f)
    (second : ∀ a, Leads R (g a)) : Leads R (f >>= g) := by
  intro w
  have step := first w
  rw [run_bind]
  rcases run : f.runIn w with ⟨e | a, w'⟩
  · rwa [run] at step
  · rw [run] at step
    exact tolerates.trans step (second a w')

/-- What comes first may leave the world as it is. -/
theorem leads_bind_of_keeps {α β : Type} {f : Flow α} {g : α → Flow β} (keeps : Keeps id f)
    (second : ∀ a, Leads R (g a)) : Leads R (f >>= g) :=
  leads_bind tolerates (leads_of_keeps tolerates keeps) second

/-- Auditing a flow adds lines to the log. -/
theorem leads_audited {α : Type} {body : Flow α} (h : Leads R body) (name : String) :
    Leads R (audited name body) := by
  intro w
  rw [run_audited]
  exact tolerates.trans (tolerates.log w _) (tolerates.trans (h _) (tolerates.log _ _))

/-- Rejecting a record adds a line to the log. -/
theorem leads_reject (email : Option String) : Leads R (reject email) :=
  leads_bind tolerates (fun w => tolerates.log w _) fun _ => leads_refuse tolerates _

/-- Storing a record is a write to the members, unless it is rejected. -/
theorem leads_store (stamp : String) (m : Member) : Leads R (store stamp m) := by
  apply leads_bind_of_keeps tolerates keeps_directory
  intro d
  split
  · exact fun w => tolerates.directory w _
  · exact leads_reject tolerates _

/-- Saving a member is storing it at a time. -/
theorem leads_save (m : Member) : Leads R (save m) :=
  leads_bind_of_keeps tolerates keeps_timestamp fun stamp => leads_store tolerates stamp m

/-- Saving a new member is storing it at a time, unless it is rejected. -/
theorem leads_saveNew (id : Except Fault (Option String)) (email : Option String)
    (digest : String) : Leads R (saveNew id email digest) := by
  apply leads_bind_of_keeps tolerates keeps_timestamp
  intro stamp
  apply leads_bind_of_keeps tolerates (keeps_liftFault _)
  intro i
  split
  · exact leads_store tolerates stamp _
  · exact leads_reject tolerates _

/-- Hashing a password draws a salt at most. -/
theorem leads_digest (s : Service) (password : Option String) : Leads R (s.digest password) := by
  intro w
  rw [run_digest]
  split
  · exact tolerates.refl w
  · exact tolerates.refl w
  · exact tolerates.salt w

/-- Finding the id for a new member draws an id at most. -/
theorem leads_claimedId (claimed : Option Json) : Leads R (Service.claimedId claimed) := by
  unfold Service.claimedId
  split
  · exact leads_of_keeps tolerates (keeps_pure _)
  · exact leads_bind tolerates tolerates.id fun _ => leads_of_keeps tolerates (keeps_pure _)

/-- Saving the member of a first password is saving a member, perhaps under an id that is drawn. -/
theorem leads_saveFirst (found : Option Member) (email digest : String) (claimed : Option Json) :
    Leads R (saveFirst found email digest claimed) := by
  cases found with
  | some m => exact leads_save tolerates _
  | none =>
    exact leads_bind tolerates (leads_claimedId tolerates claimed) fun _ =>
      leads_saveNew tolerates _ _ _

/-- Signing up draws an id and a salt and saves a new member. -/
theorem leads_signup (s : Service) (email password : Option String) :
    Leads R (s.signup email password) := by
  apply leads_audited tolerates
  apply leads_bind_of_keeps tolerates (keeps_memberAt email)
  intro found
  cases found with
  | some m => exact leads_refuse tolerates _
  | none =>
    exact leads_bind tolerates tolerates.id fun serial =>
      leads_bind tolerates (leads_digest tolerates s password) fun digest =>
        leads_saveNew tolerates _ _ _

/-- Changing a password draws a salt and saves a member. -/
theorem leads_changePassword (s : Service) (email current new : Option String) :
    Leads R (s.changePassword email current new) := by
  apply leads_audited tolerates
  apply leads_bind_of_keeps tolerates (keeps_memberAt email)
  intro found
  cases found with
  | none => exact leads_refuse tolerates _
  | some m =>
    simp only
    split
    · exact leads_refuse tolerates _
    · split
      · exact leads_refuse tolerates _
      · exact leads_bind tolerates (leads_digest tolerates s new) fun digest =>
          leads_bind tolerates (leads_save tolerates _) fun _ =>
            leads_of_keeps tolerates (keeps_pure ())

end Leads

/-- A part of the world to which neither the members nor the log nor the counters belong: the
clock, or the tokens that were signed. -/
structure Apart {γ : Type} (part : World → γ) : Prop where
  directory : ∀ w d, part { w with directory := d } = part w
  log : ∀ w line, part (w.logged line) = part w
  ids : ∀ w n, part { w with ids := n } = part w
  salts : ∀ w n, part { w with salts := n } = part w

/-- The clock is such a part. -/
theorem apart_clock : Apart World.clock :=
  ⟨fun _ _ => rfl, fun _ _ => rfl, fun _ _ => rfl, fun _ _ => rfl⟩

/-- The record of signed tokens is such a part. -/
theorem apart_minted : Apart World.minted :=
  ⟨fun _ _ => rfl, fun _ _ => rfl, fun _ _ => rfl, fun _ _ => rfl⟩

section Apart

variable {γ : Type} {part : World → γ} (apart : Apart part)
include apart

/-- To keep such a part is to lead to a world that has the same one. -/
theorem Apart.tolerates : Tolerates fun w w' => part w' = part w where
  refl _ := rfl
  trans first second := second.trans first
  log := apart.log
  directory := apart.directory
  id w := apart.ids w _
  salt w := apart.salts w _

/-- Rejecting a record leaves its line in the log and nothing else. -/
theorem keeps_reject (email : Option String) : Keeps part (reject email) :=
  leads_reject apart.tolerates email

/-- A write touches the members and the log only. -/
theorem keeps_store (stamp : String) (m : Member) : Keeps part (store stamp m) :=
  leads_store apart.tolerates stamp m

/-- Saving a member touches the members and the log only. -/
theorem keeps_save (m : Member) : Keeps part (save m) :=
  leads_save apart.tolerates m

/-- Hashing a password draws a salt at most. -/
theorem keeps_digest (s : Service) (password : Option String) : Keeps part (s.digest password) :=
  leads_digest apart.tolerates s password

/-- Finding the id for a new member draws an id at most. -/
theorem keeps_claimedId (claimed : Option Json) : Keeps part (Service.claimedId claimed) :=
  leads_claimedId apart.tolerates claimed

/-- Saving the member of a first password touches the members, the log and the counters only. -/
theorem keeps_saveFirst (found : Option Member) (email digest : String) (claimed : Option Json) :
    Keeps part (saveFirst found email digest claimed) :=
  leads_saveFirst apart.tolerates found email digest claimed

/-- Signing up touches the members, the log and the counters only. -/
theorem keeps_signup (s : Service) (email password : Option String) :
    Keeps part (s.signup email password) :=
  leads_signup apart.tolerates s email password

/-- Changing a password touches the members, the log and the counters only. -/
theorem keeps_changePassword (s : Service) (email current new : Option String) :
    Keeps part (s.changePassword email current new) :=
  leads_changePassword apart.tolerates s email current new

end Apart

/-! ## Writing -/

section Atomic

variable (w : World)

/-- Saving a member is all or nothing. -/
theorem atomic_save (m : Member) : Atomic World.directory (save m) w :=
  atomic_bind keeps_timestamp fun stamp w' _ => atomic_store stamp m w'

/-- Saving a new member is all or nothing. -/
theorem atomic_saveNew (id : Except Fault (Option String)) (email : Option String)
    (digest : String) : Atomic World.directory (saveNew id email digest) w := by
  apply atomic_bind keeps_timestamp
  intro stamp w₁ _
  apply atomic_bind (keeps_liftFault _)
  intro i w₂ _
  split
  · exact atomic_store stamp _ w₂
  · exact Keeps.atomic (directory_reject _) w₂

end Atomic

section Writing

variable (s : Service) (w : World)

/-- Hashing a password changes no member. -/
theorem directory_digest (password : Option String) :
    Keeps World.directory (s.digest password) := by
  intro w
  rw [run_digest]
  split <;> rfl

/-- Finding the id for a new member changes no member. -/
theorem directory_claimedId (claimed : Option Json) :
    Keeps World.directory (Service.claimedId claimed) := by
  intro w
  obtain ⟨w', run, same, _⟩ := run_claimedId claimed w
  rw [run, same]

/-- Saving the member of a first password is all or nothing. -/
theorem atomic_saveFirst (found : Option Member) (email digest : String) (claimed : Option Json) :
    Atomic World.directory (saveFirst found email digest claimed) w := by
  cases found with
  | some m => exact atomic_save w _
  | none =>
    exact atomic_bind (directory_claimedId claimed) fun id w' _ => atomic_saveNew w' id email digest

/-- Signing up is all or nothing. -/
theorem atomic_signup (email password : Option String) :
    Atomic World.directory (s.signup email password) w := by
  apply atomic_audited World.directory_logged
  apply atomic_bind (keeps_memberAt email)
  intro found w₁ _
  cases found with
  | some m => exact Keeps.atomic (keeps_refuse _) w₁
  | none =>
    apply atomic_bind fun _ => rfl
    intro serial w₂ _
    exact atomic_bind (directory_digest s password) fun digest w₃ _ => atomic_saveNew w₃ _ _ digest

/-- Changing a password is all or nothing. -/
theorem atomic_changePassword (email current new : Option String) :
    Atomic World.directory (s.changePassword email current new) w := by
  apply atomic_audited World.directory_logged
  apply atomic_bind (keeps_memberAt email)
  intro found w₁ _
  cases found with
  | none => exact Keeps.atomic (keeps_refuse _) w₁
  | some m =>
    simp only
    split
    · exact Keeps.atomic (keeps_refuse _) w₁
    · split
      · exact Keeps.atomic (keeps_refuse _) w₁
      · apply atomic_bind (directory_digest s new)
        intro digest w₂ _
        exact atomic_bind_of_total (atomic_save w₂ _) fun _ _ _ => ⟨(), rfl⟩

variable {s w}

/-- What a part of an operation leaves of the clock is the clock. -/
theorem clock_of_run {α : Type} {f : Flow α} (h : Keeps World.clock f) {w w' : World}
    {outcome : Except Failure α} (run : f.runIn w = (outcome, w')) : w'.clock = w.clock := by
  have kept := h w
  rwa [run] at kept

/-- Giving a password to a member is all or nothing: once the member is saved, its tokens are
signed. -/
theorem atomic_establish (plain : PlainSecret s.tokens.secret) (lasting : Lasting s w.clock)
    (found : Option Member) (email : String) (claimed : Option Json) (password : Option String) :
    Atomic World.directory (s.establish found email claimed password) w := by
  rw [establish_eq]
  apply atomic_bind (directory_digest s password)
  intro digest w₁ hashed
  have clock₁ := clock_of_run (keeps_digest apart_clock s password) hashed
  apply atomic_bind_of_total (atomic_saveFirst w₁ found email digest claimed)
  intro stored w₂ saved
  have clock₂ := clock_of_run (keeps_saveFirst apart_clock found email digest claimed) saved
  exact exists_session_of_lasting plain (by rwa [clock₂, clock₁]) stored none

/-- Setting a first password is all or nothing. -/
theorem atomic_setInitialPassword (plain : PlainSecret s.tokens.secret)
    (lasting : Lasting s w.clock) (token password : Option String) :
    Atomic World.directory (s.setInitialPassword token password) w := by
  apply atomic_audited World.directory_logged
  apply atomic_bind (keeps_setupEmail s token)
  intro email w₁ run₁
  have clock₁ := clock_of_run (keeps_setupEmail s token) run₁
  apply atomic_bind keeps_now
  intro now w₂ run₂
  have clock₂ := clock_of_run keeps_now run₂
  apply atomic_bind (keeps_lift _)
  intro claimed w₃ run₃
  have clock₃ := clock_of_run (keeps_lift _) run₃
  apply atomic_bind keeps_directory
  intro d w₄ run₄
  have clock₄ := clock_of_run keeps_directory run₄
  simp only
  split
  · exact Keeps.atomic (keeps_refuse _) w₄
  · have same : w₄.clock = w.clock := by
      rw [clock₄, clock₃, clock₂, clock₁, World.clock_logged]
    exact atomic_establish plain (by rwa [same]) _ email claimed password

end Writing

/-! ## All operations -/

/-- An operation of the service and what it is asked for. -/
inductive Operation
  | signup (email password : Option String)
  | signin (email password : Option String)
  | refresh (token : Option String)
  | issueTemporaryToken (grant : SetupGrant)
  | setupEmail (token : Option String)
  | setInitialPassword (token password : Option String)
  | changePassword (email current new : Option String)
  | memberByEmail (email : Option String)
  | memberByRole (role : Json)
  | resolveBearer (token : Option String)
  | grantedScopes (token : Option String)

namespace Operation

/-- What an operation answers. -/
def Answer : Operation → Type
  | .signup .. => Member
  | .signin .. => Session
  | .refresh .. => Session
  | .issueTemporaryToken .. => String
  | .setupEmail .. => String
  | .setInitialPassword .. => Session
  | .changePassword .. => Unit
  | .memberByEmail .. => Member
  | .memberByRole .. => Option Member
  | .resolveBearer .. => Option Member
  | .grantedScopes .. => List String

/-- What a service does for an operation. -/
def flow (s : Service) : (o : Operation) → Flow o.Answer
  | .signup email password => s.signup email password
  | .signin email password => s.signin email password
  | .refresh token => s.refresh token
  | .issueTemporaryToken grant => s.issueTemporaryToken grant
  | .setupEmail token => s.setupEmail token
  | .setInitialPassword token password => s.setInitialPassword token password
  | .changePassword email current new => s.changePassword email current new
  | .memberByEmail email => Service.memberByEmail email
  | .memberByRole role => Service.memberByRole role
  | .resolveBearer token => s.resolveBearer token
  | .grantedScopes token => s.grantedScopes token

/-- The operation may change members. -/
def writes : Operation → Bool
  | .signup .. | .setInitialPassword .. | .changePassword .. => true
  | _ => false

/-- An operation that only reads changes no member. -/
theorem keeps_of_reads (s : Service) {o : Operation} (reads : o.writes = false) :
    Keeps World.directory (o.flow s) := by
  cases o with
  | signup | setInitialPassword | changePassword => cases reads
  | signin email password => exact keeps_signin s email password
  | refresh token => exact keeps_refresh s token
  | issueTemporaryToken grant => exact keeps_issueTemporaryToken s grant
  | setupEmail token => exact keeps_setupEmail s token
  | memberByEmail email => exact keeps_memberByEmail email
  | memberByRole role => exact keeps_memberByRole role
  | resolveBearer token => exact keeps_resolveBearer s token
  | grantedScopes token => exact keeps_grantedScopes s token

/-- Under a plain secret, with an expiry for its tokens, every operation is all or nothing. -/
theorem atomic_flow {s : Service} (plain : PlainSecret s.tokens.secret) {w : World}
    (lasting : Lasting s w.clock) (o : Operation) : Atomic World.directory (o.flow s) w := by
  by_cases writes : o.writes = true
  · cases o with
    | signup email password => exact atomic_signup s w email password
    | setInitialPassword token password =>
      exact atomic_setInitialPassword plain lasting token password
    | changePassword email current new => exact atomic_changePassword s w email current new
    | _ => cases writes
  · exact (keeps_of_reads s (Bool.eq_false_iff.2 writes)).atomic w

end Operation

/-- Under a plain secret and a clock at which tokens have an expiry, whatever an operation is
asked for and whoever the members are: if it fails, the members are as they were, and if it only
reads or signs, they are as they were in any case. -/
theorem failed_operation_keeps_members (s : Service) (plain : PlainSecret s.tokens.secret)
    (w : World) (lasting : Lasting s w.clock) (o : Operation) :
    (∀ e, ((o.flow s).runIn w).1 = .error e → ((o.flow s).runIn w).2.directory = w.directory) ∧
      (o.writes = false → ((o.flow s).runIn w).2.directory = w.directory) :=
  ⟨fun e failed => o.atomic_flow plain lasting e failed, fun reads => o.keeps_of_reads s reads w⟩

/-- The usual tokens have an expiry at the end of 2023. -/
theorem newcomersWorld_lasting : Lasting plainService newcomersWorld.clock :=
  ⟨⟨_, newcomersWorld_short.1⟩, ⟨_, newcomersWorld_long.1⟩⟩

/-- Signing up without a password fails, and adds no one to the newcomer. -/
theorem signup_without_password_keeps_newcomer :
    PlainSecret plainService.tokens.secret ∧ Lasting plainService newcomersWorld.clock ∧
      (∃ e, ((plainService.signup "b@x" none).runIn newcomersWorld).1 = .error e) ∧
      ((plainService.signup "b@x" none).runIn newcomersWorld).2.directory =
        newcomersWorld.directory := by
  have refused : ((plainService.signup "b@x" none).runIn newcomersWorld).1 =
      .error (.refused .secretMissing) := rfl
  have kept := failed_operation_keeps_members plainService plainService_secret newcomersWorld
    newcomersWorld_lasting (.signup "b@x" none)
  exact ⟨plainService_secret, newcomersWorld_lasting, ⟨_, refused⟩, kept.1 _ refused⟩

end Gatehouse.Account
