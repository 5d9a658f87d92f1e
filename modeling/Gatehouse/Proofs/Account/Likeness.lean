import Gatehouse.Proofs.Account.Binding
import Gatehouse.Proofs.Account.ScopeDemand
import Gatehouse.Proofs.Member.Twins
import Gatehouse.Proofs.TwoRuns

/-!
# Operations on worlds that differ in digests

Two worlds are alike if they are the same but for the digests of their members.  An operation that
is run in both answers alike and leaves them alike: it looks at a digest only to see whether there
is one and whether a password belongs to it, and what it stores has a digest of its own.

Main results:

- `Alike`: worlds that differ in digests.
- `mirrors_issue`, `mirrors_save`: what operations are made of.
- `mirrors_signin`, `mirrors_changePassword`: the operations that check a password.
- `mirrors_identify`: who makes a request.
-/

namespace Gatehouse.Account

open Gatehouse.Text Gatehouse.Token Gatehouse.Flow Gatehouse.Web Gatehouse.Member

/-! ## Worlds -/

/-- Two worlds are the same but for the digests of their members. -/
structure Alike (counts : String → Option String → Prop) (w w' : World) : Prop where
  rest : w' = { w with directory := w'.directory }
  members : Directory.Twinned counts w.directory w'.directory

section Operations

variable {counts : String → Option String → Prop} {s : Service} {m m' : Member}

/-- A line in both logs leaves two worlds alike. -/
theorem Alike.logged (w w' : World) (line : LogLine) (h : Alike counts w w') :
    Alike counts (w.logged line) (w'.logged line) :=
  ⟨by rw [h.rest]; rfl, h.members⟩

/-- An operation that neither looks at the members nor changes them mirrors itself. -/
theorem mirrors_of_blind {α : Type} {f : Flow α}
    (blind : ∀ w d, f.runIn { w with directory := d } =
      ((f.runIn w).1, { (f.runIn w).2 with directory := d })) :
    Mirrors (Alike counts) Eq f f := by
  have run {w w' : World} (h : Alike counts w w') :
      f.runIn w' = ((f.runIn w).1, { (f.runIn w).2 with directory := w'.directory }) := by
    rw [h.rest]
    exact blind w _
  -- with the members that it has a world is itself
  have kept (w : World) : (f.runIn w).2.directory = w.directory :=
    congrArg (fun x => x.2.directory) (blind w w.directory)
  refine ⟨fun h => ?_, fun h => ?_⟩
  · rw [run h]
    exact .refl (fun _ => rfl) _
  · rw [run h]
    exact ⟨rfl, by rw [kept]; exact h.members⟩

/-- Reading the directory gives directories of twins. -/
theorem mirrors_directory :
    Mirrors (Alike counts) (Directory.Twinned counts) Flow.directory Flow.directory :=
  ⟨fun h => .ok h.members, id⟩

/-! ## Issuing -/

/-- Signing a token does not look at the members. -/
theorem mirrors_mint (claims : Claims) (ttl : Int) :
    Mirrors (Alike counts) Eq (s.mint claims ttl) (s.mint claims ttl) := by
  apply mirrors_bind_same (mirrors_of_blind fun _ _ => rfl)
  intro now
  apply mirrors_bind_same (mirrors_liftFault _)
  intro expiry
  apply mirrors_bind_same (mirrors_of_blind fun _ _ => rfl)
  intro serial
  apply mirrors_bind_same (mirrors_liftFault _)
  intro token
  exact mirrors_bind_same (mirrors_of_blind fun _ _ => rfl) fun _ => mirrors_pure rfl

/-- Two sessions of twins have the same tokens. -/
structure SessionsAlike (counts : String → Option String → Prop) (x y : Session) : Prop where
  member : Twins counts x.member y.member
  accessToken : y.accessToken = x.accessToken
  refreshToken : y.refreshToken = x.refreshToken
  scopes : y.scopes = x.scopes

/-- Twins are issued the same tokens. -/
theorem mirrors_issue (twins : Twins counts m m') (refreshToken : Option String) :
    Mirrors (Alike counts) (SessionsAlike counts) (s.issue m refreshToken)
      (s.issue m' refreshToken) := by
  unfold Service.issue
  rw [twins.role, twins.email, twins.id]
  apply mirrors_bind_same (mirrors_mint _ _)
  intro access
  cases refreshToken with
  | none =>
    exact mirrors_bind_same (mirrors_mint _ _) fun refresh =>
      mirrors_pure ⟨twins, rfl, rfl, rfl⟩
  | some t => exact mirrors_bind_same (mirrors_pure rfl) fun refresh =>
      mirrors_pure ⟨twins, rfl, rfl, rfl⟩

/-! ## Saving -/

/-- Twins are stored alike. -/
theorem mirrors_store (twins : Twins counts m m') (stamp : String) :
    Mirrors (Alike counts) (Twins counts) (store stamp m) (store stamp m') := by
  apply mirrors_bind mirrors_directory
  intro d d' twinned
  have saved := twinned.save? twins stamp
  generalize d.save? stamp m = x at saved
  generalize d'.save? stamp m' = y at saved
  cases saved with
  | none =>
    rw [twins.email]
    exact mirrors_bind_same (mirrors_of_blind fun _ _ => rfl) fun _ => mirrors_refuse _
  | some both => exact ⟨fun _ => .ok both.1, fun h => ⟨by rw [h.rest]; rfl, both.2⟩⟩

/-- Twins are saved alike. -/
theorem mirrors_save (twins : Twins counts m m') :
    Mirrors (Alike counts) (Twins counts) (save m) (save m') :=
  mirrors_bind_same (mirrors_of_blind fun _ _ => rfl) fun stamp => mirrors_store twins stamp

/-- A new member is saved alike. -/
theorem mirrors_saveNew (id : Except Fault (Option String)) (email : Option String)
    (digest : String) :
    Mirrors (Alike counts) (Twins counts) (saveNew id email digest) (saveNew id email digest) := by
  have rejected : Mirrors (Alike counts) (Twins counts) (reject email) (reject email) :=
    mirrors_bind_same (mirrors_of_blind fun _ _ => rfl) fun _ => mirrors_refuse _
  apply mirrors_bind_same (mirrors_of_blind fun _ _ => rfl)
  intro stamp
  apply mirrors_bind_same (mirrors_liftFault id)
  intro known
  cases known with
  | none => exact rejected
  | some id =>
    cases email with
    | none => exact rejected
    | some email => exact mirrors_store (.refl _) stamp

/-- A password is given the same digest. -/
theorem mirrors_digest (password : Option String) :
    Mirrors (Alike counts) Eq (s.digest password) (s.digest password) := by
  unfold Service.digest
  cases Password.secretBytes password with
  | error e => cases e <;> exact mirrors_refuse _
  | ok bytes => exact mirrors_bind_same (mirrors_of_blind fun _ _ => rfl) fun _ => mirrors_pure rfl

/-! ## Account operations -/

/-- The member with an address has it. -/
theorem mirrors_memberAt (email : Option String) :
    Mirrors (Alike counts)
      (fun x y => Option.Rel (Twins counts) x y ∧ ∀ m, x = some m → email = some m.email)
      (Service.memberAt email) (Service.memberAt email) := by
  refine Mirrors.and_left (mirrors_bind mirrors_directory fun d d' twinned => mirrors_pure ?_) ?_
  · cases email with
    | none => exact .none
    | some email => exact twinned.findByEmail email
  · rintro w found run m rfl
    rw [run_memberAt] at run
    exact (bind_findByEmail_eq_some_iff.1 (Except.ok.inj run)).2

/-- Signing up looks at no digest. -/
theorem mirrors_signup (email password : Option String) :
    Mirrors (Alike counts) (Twins counts) (s.signup email password) (s.signup email password) := by
  apply mirrors_audited Alike.logged
  apply mirrors_bind (mirrors_memberAt email)
  rintro x y ⟨found, -⟩
  cases found with
  | some twins =>
    simp only [twins.email]
    exact mirrors_refuse _
  | none =>
    apply mirrors_bind_same (mirrors_of_blind fun _ _ => rfl)
    intro serial
    exact mirrors_bind_same (mirrors_digest password) fun digest => mirrors_saveNew _ _ _

/-- Signing in with a password that counts gives twins the same tokens. -/
theorem mirrors_signin {email password : Option String}
    (counted : ∀ e, email = some e → counts e password) :
    Mirrors (Alike counts) (SessionsAlike counts) (s.signin email password)
      (s.signin email password) := by
  apply mirrors_audited Alike.logged
  apply mirrors_bind (mirrors_memberAt email)
  rintro x y ⟨found, named⟩
  cases found with
  | none => exact mirrors_refuse _
  | some twins =>
    have verdict := twins.verdict password (counted _ (named _ rfl))
    simp only [twins.enabled, twins.hasPassword, verdict]
    exact mirrors_ite (fun _ => mirrors_refuse _) fun _ =>
      mirrors_ite (fun _ => mirrors_refuse _) fun _ => mirrors_issue twins none

/-- Renewing a session looks at no digest. -/
theorem mirrors_refresh (token : Option String) :
    Mirrors (Alike counts) (SessionsAlike counts) (s.refresh token) (s.refresh token) := by
  apply mirrors_audited Alike.logged
  apply mirrors_bind_same (mirrors_of_blind fun _ _ => rfl)
  intro now
  apply mirrors_bind_same (mirrors_of_blind fun _ _ => rfl)
  intro valid
  refine mirrors_ite (fun _ => mirrors_refuse _) fun _ => ?_
  apply mirrors_bind_same (mirrors_of_blind fun _ _ => rfl)
  intro email
  apply mirrors_bind mirrors_directory
  intro d d' twinned
  have found := twinned.findByEmail email
  generalize d.findByEmail email = x at found
  generalize d'.findByEmail email = y at found
  cases found with
  | none => exact mirrors_refuse _
  | some twins =>
    simp only [twins.enabled]
    exact mirrors_ite (fun _ => mirrors_issue twins token) fun _ => mirrors_refuse _

/-- A temporary token is signed without a look at the members. -/
theorem mirrors_issueTemporaryToken (grant : SetupGrant) :
    Mirrors (Alike counts) Eq (s.issueTemporaryToken grant) (s.issueTemporaryToken grant) :=
  mirrors_audited Alike.logged (mirrors_mint _ _) _

/-- The address of a temporary token is read without a look at the members. -/
theorem mirrors_setupEmail (token : Option String) :
    Mirrors (Alike counts) Eq (s.setupEmail token) (s.setupEmail token) := by
  apply mirrors_bind_same (mirrors_of_blind fun _ _ => rfl)
  intro now
  apply mirrors_bind_same (mirrors_of_blind fun _ _ => rfl)
  intro email
  apply mirrors_bind_same (mirrors_of_blind fun _ _ => rfl)
  intro valid
  exact mirrors_ite (fun _ => mirrors_pure rfl) fun _ => mirrors_refuse _

/-- The id for a new member does not depend on the members. -/
theorem mirrors_claimedId (claimed : Option Json) :
    Mirrors (Alike counts) Eq (Service.claimedId claimed) (Service.claimedId claimed) := by
  unfold Service.claimedId
  cases claimed.filter fun v => !isVoid v with
  | some v => exact mirrors_pure rfl
  | none => exact mirrors_bind_same (mirrors_of_blind fun _ _ => rfl) fun _ => mirrors_pure rfl

/-- Twins, or the same new member, are given a password alike. -/
theorem mirrors_establish {x y : Option Member} (found : Option.Rel (Twins counts) x y)
    (email : String) (claimed : Option Json) (password : Option String) :
    Mirrors (Alike counts) (SessionsAlike counts) (s.establish x email claimed password)
      (s.establish y email claimed password) := by
  apply mirrors_bind_same (mirrors_digest password)
  intro digest
  cases found with
  | none =>
    apply mirrors_bind_same (mirrors_claimedId claimed)
    intro id
    exact mirrors_bind (mirrors_saveNew _ _ _) fun _ _ stored => mirrors_issue stored none
  | some twins =>
    -- with the new digest the records to be saved are the same
    rcases twins.exists_digest with ⟨_, rfl⟩
    exact mirrors_bind (mirrors_save (.refl _)) fun _ _ stored => mirrors_issue stored none

/-- A first password is set without a look at what a digest is. -/
theorem mirrors_setInitialPassword (token password : Option String) :
    Mirrors (Alike counts) (SessionsAlike counts) (s.setInitialPassword token password)
      (s.setInitialPassword token password) := by
  apply mirrors_audited Alike.logged
  apply mirrors_bind_same (mirrors_setupEmail token)
  intro email
  apply mirrors_bind_same (mirrors_of_blind fun _ _ => rfl)
  intro now
  apply mirrors_bind_same (mirrors_of_blind fun _ _ => rfl)
  intro claimed
  apply mirrors_bind mirrors_directory
  intro d d' twinned
  have found := twinned.findByEmail email
  simp only
  generalize d.findByEmail email = x at found
  generalize d'.findByEmail email = y at found
  have chosen : y.any Member.hasPassword = x.any Member.hasPassword := by
    cases found with
    | none => rfl
    | some twins => exact twins.hasPassword
  rw [chosen]
  exact mirrors_ite (fun _ => mirrors_refuse _) fun _ => mirrors_establish found _ _ _

/-- A password that counts is replaced alike. -/
theorem mirrors_changePassword {email current : Option String}
    (counted : ∀ e, email = some e → counts e current) (new : Option String) :
    Mirrors (Alike counts) Eq (s.changePassword email current new)
      (s.changePassword email current new) := by
  apply mirrors_audited Alike.logged
  apply mirrors_bind (mirrors_memberAt email)
  rintro x y ⟨found, named⟩
  cases found with
  | none => exact mirrors_refuse _
  | some twins =>
    have verdict := twins.verdict current (counted _ (named _ rfl))
    simp only [twins.hasPassword, verdict]
    refine mirrors_ite (fun _ => mirrors_refuse _) fun _ =>
      mirrors_ite (fun _ => mirrors_refuse _) fun _ => ?_
    apply mirrors_bind_same (mirrors_digest new)
    intro digest
    rcases twins.exists_digest with ⟨_, rfl⟩
    exact mirrors_bind (mirrors_save (.refl _)) fun _ _ _ => mirrors_pure rfl

/-- A member is looked up without a look at digests. -/
theorem mirrors_memberByEmail (email : Option String) :
    Mirrors (Alike counts) (Twins counts) (Service.memberByEmail email)
      (Service.memberByEmail email) := by
  apply mirrors_bind (mirrors_memberAt email)
  rintro x y ⟨found, -⟩
  cases found with
  | none => exact mirrors_refuse _
  | some twins => exact mirrors_pure twins

/-! ## The caller -/

/-- Behind a bearer token there are twins, whose address it names. -/
theorem mirrors_resolveBearer (t : String) :
    Mirrors (Alike counts)
      (fun x y => Option.Rel (Twins counts) x y ∧ ∀ m, x = some m → Names t m.email)
      (s.resolveBearer t) (s.resolveBearer t) := by
  refine Mirrors.and_left ?_ ?_
  · apply mirrors_bind_same (mirrors_of_blind fun _ _ => rfl)
    intro now
    apply mirrors_bind_same (mirrors_of_blind fun _ _ => rfl)
    intro valid
    refine mirrors_ite (fun _ => mirrors_pure .none) fun _ => ?_
    apply mirrors_bind_same (mirrors_of_blind fun _ _ => rfl)
    intro found
    refine mirrors_ite (fun _ => mirrors_pure .none) fun _ => ?_
    apply mirrors_bind_same (mirrors_of_blind fun _ _ => rfl)
    intro email
    apply mirrors_bind mirrors_directory
    intro d d' twinned
    have found := twinned.findByEmail email
    generalize d.findByEmail email = x at found
    generalize d'.findByEmail email = y at found
    apply mirrors_pure
    cases found with
    | none => exact .none
    | some twins =>
      simp only [Option.filter, twins.enabled]
      split
      · exact .some twins
      · exact .none
  · rintro w found run m rfl
    exact (Identifies.names (.inl run)).1

/-- Two callers are twins with the same scopes, and what is said of the first one holds. -/
structure CallersAlike (counts : String → Option String → Prop) (known : Member → Prop)
    (c c' : Caller) : Prop where
  member : Option.Rel (Twins counts) c.member c'.member
  scopes : c'.scopes = c.scopes
  known : ∀ m, c.member = some m → known m

/-- A request is made by twins, whose address the token that it presents names. -/
theorem mirrors_identify (headers : Headers) :
    Mirrors (Alike counts)
      (CallersAlike counts fun m => ∃ t, Presents headers t ∧ Names t m.email)
      (s.identify none headers) (s.identify none headers) := by
  unfold Service.identify
  simp only
  have nobody : CallersAlike counts (fun m => ∃ t, Presents headers t ∧ Names t m.email)
      .anonymous .anonymous :=
    ⟨.none, rfl, fun m found => by cases found⟩
  cases presented : bearerToken? headers with
  | none => exact mirrors_pure nobody
  | some t =>
    apply mirrors_bind (mirrors_resolveBearer t)
    rintro x y ⟨found, named⟩
    cases found with
    | none => exact mirrors_pure nobody
    | some twins =>
      apply mirrors_bind_same (mirrors_of_blind fun _ _ => rfl)
      intro scopes
      refine mirrors_pure ⟨.some twins, rfl, ?_⟩
      intro m same
      exact ⟨t, presents_iff.2 presented, named m same⟩

end Operations

end Gatehouse.Account
