import Gatehouse.Proofs.Account.Discretion

/-!
# The trail of an audited flow

What the six audited flows write to the log.  A flow calls the directory to find members and to save
them, and it can be suspended nowhere else; whoever answers these calls may answer anything, fail or
be cancelled.  Whatever becomes of them, the flow leaves one line when it starts and one line when
it ends, and between them at most the line of a rejected write.  The lines are made from the name of
the flow, how it ended and whether a write was rejected; a call that is cancelled while the
directory writes may have been rejected all the same.  No address, password or token has a part in
the lines.

Main results:

- `AuditedCall.flow_own`: with the service's own directory these flows are those of the service.
- `AuditedCall.told_body`: inside its audit, a flow logs a rejected write and nothing else.
- `audited_calls_leave_trails`: the lines of an audited flow, and that equal endings leave equal
  lines.
-/

namespace Gatehouse.Account

open Gatehouse.Flow

/-! ## Who answers -/

/-- Who answers the calls of flows to the directory.  A call may end in anything, whether or not a
write was rejected in it, but it does not succeed with a rejected write.  The log shows of a call
that a write was rejected, if one was, and nothing else. -/
structure Registrar where
  /-- Find the member with an address. -/
  find : Option String → Watched (Option Member)
  /-- Save a member. -/
  save : Member → Watched Member
  /-- Save a new member with an id, an address and a digest. -/
  saveNew : Except Fault (Option String) → Option String → String → Watched Member
  told_find : ∀ email, (find email).Told
  told_save : ∀ m, (save m).Told
  told_saveNew : ∀ id email digest, (saveNew id email digest).Told

namespace Registrar

/-- The directory of the service itself answers at once. -/
def own : Registrar where
  find email := .of (Service.memberAt email)
  save m := .of (Account.save m)
  saveNew id email digest := .of (Account.saveNew id email digest)
  told_find email := Watched.told_of (discreet_memberAt email)
  told_save m := Watched.told_of (Account.discreet_save m)
  told_saveNew id email digest := Watched.told_of (Account.discreet_saveNew id email digest)

/-- A directory that never answers, so that every call to it is cancelled. -/
def absent : Registrar where
  find _ := .of (Flow.lift (.error .cancelled))
  save _ := .of (Flow.lift (.error .cancelled))
  saveNew _ _ _ := .of (Flow.lift (.error .cancelled))
  told_find _ := Watched.told_of (discreet_lift rfl)
  told_save _ := Watched.told_of (discreet_lift rfl)
  told_saveNew _ _ _ := Watched.told_of (discreet_lift rfl)

/-- A directory in which someone else is always first: no address is found, and every write is
rejected. -/
def outrun : Registrar where
  find _ := .of (pure none)
  save m := .of (reject m.email)
  saveNew _ email _ := .of (reject email)
  told_find _ := Watched.told_of (discreet_pure _)
  told_save _ := Watched.told_of (discreet_reject _)
  told_saveNew _ _ _ := Watched.told_of (discreet_reject _)

/-- A directory whose callers are cancelled while it writes.  It writes all the same, or rejects to,
and the log shows that it did. -/
def unheard (d : Registrar) : Registrar where
  find := d.find
  save m := (d.save m).unheard
  saveNew id email digest := (d.saveNew id email digest).unheard
  told_find := d.told_find
  told_save m := (d.told_save m).unheard
  told_saveNew id email digest := (d.told_saveNew id email digest).unheard

/-- Whoever answers, every call in which a write is rejected ends in that. -/
structure Candid (d : Registrar) : Prop where
  find : ∀ email, (d.find email).Candid
  save : ∀ m, (d.save m).Candid
  saveNew : ∀ id email digest, (d.saveNew id email digest).Candid

/-- The directory of the service is candid. -/
theorem candid_own : Candid own :=
  ⟨fun _ => Watched.candid_of _, fun _ => Watched.candid_of _, fun _ _ _ => Watched.candid_of _⟩

/-- So is one in which someone else is always first. -/
theorem candid_outrun : Candid outrun :=
  ⟨fun _ => Watched.candid_of _, fun _ => Watched.candid_of _, fun _ _ _ => Watched.candid_of _⟩

end Registrar

/-! ## Audited flows -/

/-- A call of an audited flow, with its arguments. -/
inductive AuditedCall : Type → Type
  | signup (email password : Option String) : AuditedCall Member
  | signin (email password : Option String) : AuditedCall Session
  | refresh (token : Option String) : AuditedCall Session
  | issueTemporaryToken (grant : Token.SetupGrant) : AuditedCall String
  | setInitialPassword (token password : Option String) : AuditedCall Session
  | changePassword (email current new : Option String) : AuditedCall Unit

namespace AuditedCall

variable {α β : Type}

/-- The name of a flow in the log. -/
def name : AuditedCall α → String
  | .signup .. => "signup"
  | .signin .. => "signin"
  | .refresh .. => "refresh"
  | .issueTemporaryToken .. => "issue_temporary_token"
  | .setInitialPassword .. => "set_initial_password"
  | .changePassword .. => "change_password"

/-- What a flow does between the lines of its audit, with its calls to the directory answered by a
registrar. -/
def body (d : Registrar) (s : Service) : AuditedCall α → Watched α
  | .signup email password => do
    match ← d.find email with
    | some m => Flow.refuse (.emailTaken m.email)
    | none =>
      let id := idText (← Flow.freshId)
      let digest ← s.digest password
      d.saveNew (.ok (some id)) email digest
  | .signin email password => do
    match ← d.find email with
    | none => Flow.refuse .noUsableAccount
    | some m =>
      if !m.enabled || !m.hasPassword then Flow.refuse .noUsableAccount
      else if !Password.accepts password m.passwordDigest then Flow.refuse .passwordMismatch
      else s.issue m none
  | .refresh token => do
    let now ← Flow.now
    let valid ← Flow.lift (Token.asInvalid (s.tokens.validateRefresh now token))
    if !valid then Flow.refuse .refreshExpired
    else
      let email ← Flow.lift (s.tokens.subject now token)
      match ← d.find email with
      | none => Flow.refuse .refreshOrphaned
      | some m => if m.enabled then s.issue m token else Flow.refuse .refreshOrphaned
  | .issueTemporaryToken grant => s.issueTemporary grant
  | .setInitialPassword token password => do
    let email ← s.setupEmail token
    let now ← Flow.now
    let claimed ← Flow.lift (s.tokens.memberId now token)
    let found ← d.find email
    if found.any Member.hasPassword then Flow.refuse .passwordAlreadySet
    else
      let digest ← s.digest password
      let stored ←
        match found with
        | some m => d.save { m with passwordDigest := some digest, enabled := true }
        | none => d.saveNew (← Service.claimedId claimed) email digest
      s.issue stored none
  | .changePassword email current new => do
    match ← d.find email with
    | none => Flow.refuse .noAccountToChange
    | some m =>
      if !m.hasPassword then Flow.refuse .noAccountToChange
      else if !Password.accepts current m.passwordDigest then
        Flow.refuse .currentPasswordMismatch
      else
        let digest ← s.digest new
        let _ ← d.save { m with passwordDigest := some digest }
        return ()

/-- A flow with its audit. -/
def flow (d : Registrar) (s : Service) (c : AuditedCall α) : Flow α :=
  audited c.name (c.body d s).flow

/-- A write is rejected while the flow runs, however it ends. -/
def rejects (d : Registrar) (s : Service) (c : AuditedCall α) (w : World) : Bool :=
  (c.body d s).rejects (w.logged (Audit.attempt c.name))

/-- The flow of the service that is called. -/
def ofService (s : Service) : AuditedCall α → Flow α
  | .signup email password => s.signup email password
  | .signin email password => s.signin email password
  | .refresh token => s.refresh token
  | .issueTemporaryToken grant => s.issueTemporaryToken grant
  | .setInitialPassword token password => s.setInitialPassword token password
  | .changePassword email current new => s.changePassword email current new

/-- The service's own directory looks an address up in the members of the moment. -/
theorem flow_find_own (email : String) (f : Option Member → Watched β) :
    (Registrar.own.find (some email) >>= f).flow =
      Flow.directory >>= fun d => (f (d.findByEmail email)).flow := rfl

/-- With the service's own directory these flows are those of the service. -/
theorem flow_own (s : Service) (c : AuditedCall α) : c.flow .own s = c.ofService s := by
  cases c with
  | signup email password =>
    simp only [flow, ofService, body, Service.signup]
    congr 1
    refine Watched.flow_bind_eq rfl fun found => ?_
    cases found <;> rfl
  | signin email password =>
    simp only [flow, ofService, body, Service.signin]
    congr 1
    refine Watched.flow_bind_eq rfl fun found => ?_
    cases found with
    | none => rfl
    | some m =>
      dsimp only
      split
      · rfl
      · split <;> rfl
  | refresh token =>
    simp only [flow, ofService, body, Service.refresh]
    congr 1
    refine Watched.flow_bind_eq rfl fun now => Watched.flow_bind_eq rfl fun valid => ?_
    cases valid with
    | false => rfl
    | true =>
      refine Watched.flow_bind_eq rfl fun email => ?_
      refine (flow_find_own email _).trans (bind_congr fun members => ?_)
      cases members.findByEmail email with
      | none => rfl
      | some m =>
        dsimp only
        split <;> rfl
  | issueTemporaryToken grant => rfl
  | setInitialPassword token password =>
    simp only [flow, ofService, body, Service.setInitialPassword]
    congr 1
    refine Watched.flow_bind_eq rfl fun email => Watched.flow_bind_eq rfl fun now =>
      Watched.flow_bind_eq rfl fun claimed => ?_
    refine (flow_find_own email _).trans (bind_congr fun members => ?_)
    cases members.findByEmail email with
    | none => rfl
    | some m =>
      dsimp only
      split <;> rfl
  | changePassword email current new =>
    simp only [flow, ofService, body, Service.changePassword]
    congr 1
    refine Watched.flow_bind_eq rfl fun found => ?_
    cases found with
    | none => rfl
    | some m =>
      dsimp only
      split
      · rfl
      · split <;> rfl

/-- A sign-in whose directory never answers is abandoned. -/
theorem flow_absent (s : Service) (email password : Option String) :
    (signin email password).flow .absent s = abandoned "signin" := rfl

/-- What holds of discreet operations and of the calls to the directory, and is kept by sequences,
holds of all that a flow does inside its audit. -/
theorem body_of_steps {P : {β : Type} → Watched β → Prop} (d : Registrar) (s : Service)
    (c : AuditedCall α) (own : ∀ {β : Type} {f : Flow β}, Discreet f → P (.of f))
    (bind : ∀ {β γ : Type} {x : Watched β} {f : β → Watched γ}, P x → (∀ b, P (f b)) → P (x >>= f))
    (find : ∀ email, P (d.find email)) (save : ∀ m, P (d.save m))
    (saveNew : ∀ id email digest, P (d.saveNew id email digest)) : P (c.body d s) := by
  cases c with
  | signup email password =>
    refine bind (find email) fun found => ?_
    split
    · exact own (discreet_refuse rfl)
    · refine bind (own discreet_freshId) fun id => ?_
      exact bind (own (discreet_digest s password)) fun digest => saveNew _ _ _
  | signin email password =>
    refine bind (find email) fun found => ?_
    split
    · exact own (discreet_refuse rfl)
    · split
      · exact own (discreet_refuse rfl)
      · split
        · exact own (discreet_refuse rfl)
        · exact own (discreet_issue s _ none)
  | refresh token =>
    refine bind (own discreet_now) fun now => ?_
    have unwritten : isRejected (Token.asInvalid (s.tokens.validateRefresh now token)) = false :=
      Token.isRejected_asInvalid Token.isRejected_validateRefresh
    refine bind (own (discreet_lift unwritten)) fun valid => ?_
    split
    · exact own (discreet_refuse rfl)
    · refine bind (own (discreet_lift Token.isRejected_subject)) fun email => ?_
      refine bind (find _) fun found => ?_
      split
      · exact own (discreet_refuse rfl)
      · split
        · exact own (discreet_issue s _ token)
        · exact own (discreet_refuse rfl)
  | issueTemporaryToken grant => exact own (discreet_mint s _ _)
  | setInitialPassword token password =>
    refine bind (own (discreet_setupEmail s token)) fun email => ?_
    refine bind (own discreet_now) fun now => ?_
    refine bind (own (discreet_lift Token.isRejected_memberId)) fun claimed => ?_
    refine bind (find _) fun found => ?_
    split
    · exact own (discreet_refuse rfl)
    · refine bind (own (discreet_digest s password)) fun digest => ?_
      cases found with
      | some m => exact bind (save _) fun stored => own (discreet_issue s stored none)
      | none =>
        refine bind (own (discreet_claimedId claimed)) fun id => ?_
        exact bind (saveNew _ _ _) fun stored => own (discreet_issue s stored none)
  | changePassword email current new =>
    refine bind (find email) fun found => ?_
    split
    · exact own (discreet_refuse rfl)
    · split
      · exact own (discreet_refuse rfl)
      · split
        · exact own (discreet_refuse rfl)
        · refine bind (own (discreet_digest s new)) fun digest => ?_
          exact bind (save _) fun _ => own (discreet_pure ())

/-- Inside its audit, a flow logs a rejected write and nothing else. -/
theorem told_body (d : Registrar) (s : Service) (c : AuditedCall α) : (c.body d s).Told :=
  body_of_steps d s c Watched.told_of Watched.Told.bind d.told_find d.told_save d.told_saveNew

/-- With a candid directory, a write is rejected in a flow exactly if the flow ends in that. -/
theorem candid_body {d : Registrar} (h : d.Candid) (s : Service) (c : AuditedCall α) :
    (c.body d s).Candid :=
  body_of_steps d s c (fun _ => Watched.candid_of _) Watched.Candid.bind h.find h.save h.saveNew

end AuditedCall

/-! ## Trails -/

/-- The lines of an audited flow: that it was attempted, that a write was rejected if one was, and
how it ended. -/
def trail (name : String) (ending : Audit.Ending) (rejected : Bool) : List LogLine :=
  Audit.attempt name :: (rejectionLines rejected ++ [ending.line name])

/-- A watched operation with an audit leaves its trail. -/
theorem log_audited {α : Type} {body : Watched α} (told : body.Told) (name : String) (w : World) :
    ((audited name body.flow).runIn w).2.log =
      w.log ++ trail name (.of ((audited name body.flow).runIn w).1)
        (body.rejects (w.logged (Audit.attempt name))) := by
  have inside := told.log_eq (w.logged (Audit.attempt name))
  rw [run_audited]
  simp only [World.logged] at inside ⊢
  rw [inside, trail, List.append_assoc, List.append_assoc]
  rfl

/-- A call of an audited flow leaves the trail of its outcome. -/
theorem AuditedCall.log_flow {α : Type} (d : Registrar) (s : Service) (c : AuditedCall α)
    (w : World) :
    ((c.flow d s).runIn w).2.log =
      w.log ++ trail c.name (.of ((c.flow d s).runIn w).1) (c.rejects d s w) :=
  log_audited (c.told_body d s) c.name w

/-- What an audited flow logs.  Whoever answers its calls to the directory, and whatever the
service, the arguments and the world, an audited flow ends as it would without its audit, and adds
its trail to the log: the line that opens it, the line of a rejected write if there was one, and the
line that closes it.  A flow in which a write is rejected fails; with the service's own directory,
as with every one that lets rejections be known, it fails with that.  And two calls with one name
that end alike, both or neither with a rejected write, add the same lines, in whatever they
differ. -/
theorem audited_calls_leave_trails {α : Type} (d : Registrar) (s : Service) (c : AuditedCall α)
    (w : World) :
    c.flow .own s = c.ofService s ∧
    ((c.flow d s).runIn w).1 = ((c.body d s).flow.runIn (w.logged (Audit.attempt c.name))).1 ∧
    ((c.flow d s).runIn w).2.log =
      w.log ++ trail c.name (.of ((c.flow d s).runIn w).1) (c.rejects d s w) ∧
    (c.rejects d s w = true → ∃ e, ((c.flow d s).runIn w).1 = .error e) ∧
    (d.Candid → c.rejects d s w = isRejected ((c.flow d s).runIn w).1) ∧
    c.rejects .own s w = isRejected ((c.ofService s).runIn w).1 ∧
    ∀ (β : Type) (d' : Registrar) (s' : Service) (c' : AuditedCall β) (w' : World),
      c'.name = c.name →
      Audit.Ending.of ((c'.flow d' s').runIn w').1 = .of ((c.flow d s).runIn w).1 →
      c'.rejects d' s' w' = c.rejects d s w →
      ∃ lines, ((c.flow d s).runIn w).2.log = w.log ++ lines ∧
        ((c'.flow d' s').runIn w').2.log = w'.log ++ lines := by
  refine ⟨c.flow_own s, audited_outcome _ _ w, c.log_flow d s w, (c.told_body d s).fails _,
    fun candid => c.candid_body candid s _, ?_, ?_⟩
  · rw [← c.flow_own s]
    exact c.candid_body Registrar.candid_own s _
  intro β d' s' c' w' named ended rejected
  refine ⟨_, c.log_flow d s w, ?_⟩
  rw [← named, ← ended, ← rejected]
  exact c'.log_flow d' s' w'

/-- A service whose tokens live for a minute. -/
def hastyService : Service where
  tokens := { secret := "other", accessTtl := 60, refreshTtl := 60, temporaryTtl := 60 }
  verifier := ⟨12⟩

/-- Someone signs up at a service and is outrun. -/
def outrunSignup (s : Service) (clock : Float) (email password : String) :
    Except Failure Member × World :=
  ((AuditedCall.signup email password).flow .outrun s).runIn (.start clock)

/-- Someone signs up at a service, is outrun, and is cancelled before that is known. -/
def unheardSignup (s : Service) (clock : Float) (email password : String) :
    Except Failure Member × World :=
  ((AuditedCall.signup email password).flow Registrar.outrun.unheard s).runIn (.start clock)

/-- Two people who sign up with different addresses and passwords, and are both outrun, are refused
for their own addresses and leave the same lines.  So do two that are cancelled meanwhile, whose
writes were rejected all the same. -/
theorem outrun_signups_leave_one_trail :
    (outrunSignup plainService 0 "a@x" "password1").1 =
        .error (.refused (.emailRegistered "a@x")) ∧
      (outrunSignup hastyService 1 "b@y" "password2").1 =
        .error (.refused (.emailRegistered "b@y")) ∧
      (∃ lines, (outrunSignup plainService 0 "a@x" "password1").2.log = lines ∧
        (outrunSignup hastyService 1 "b@y" "password2").2.log = lines) ∧
      (unheardSignup plainService 0 "a@x" "password1").1 = .error .cancelled ∧
      rejectedWrite ∈ (unheardSignup plainService 0 "a@x" "password1").2.log ∧
      ∃ lines, (unheardSignup plainService 0 "a@x" "password1").2.log = lines ∧
        (unheardSignup hastyService 1 "b@y" "password2").2.log = lines := by
  have refused : (outrunSignup plainService 0 "a@x" "password1").1 =
      .error (.refused (.emailRegistered "a@x")) := rfl
  have refused' : (outrunSignup hastyService 1 "b@y" "password2").1 =
      .error (.refused (.emailRegistered "b@y")) := rfl
  have cancelled : (unheardSignup plainService 0 "a@x" "password1").1 = .error .cancelled := rfl
  have cancelled' : (unheardSignup hastyService 1 "b@y" "password2").1 = .error .cancelled := rfl
  obtain ⟨-, -, -, -, candid, -, alike⟩ := audited_calls_leave_trails .outrun plainService
    (.signup "a@x" "password1") (.start 0)
  obtain ⟨-, -, -, -, candid', -, -⟩ := audited_calls_leave_trails .outrun hastyService
    (.signup "b@y" "password2") (.start 1)
  obtain ⟨-, -, left, -, -, -, alikeUnheard⟩ := audited_calls_leave_trails Registrar.outrun.unheard
    plainService (.signup "a@x" "password1") (.start 0)
  have rejected := (candid Registrar.candid_outrun).trans (congrArg isRejected refused)
  have rejected' := (candid' Registrar.candid_outrun).trans (congrArg isRejected refused')
  have unheardRejected : (AuditedCall.signup "a@x" "password1").rejects Registrar.outrun.unheard
      plainService (.start 0) = true := rfl
  have unheardRejected' : (AuditedCall.signup "b@y" "password2").rejects Registrar.outrun.unheard
      hastyService (.start 1) = true := rfl
  have shown : rejectedWrite ∈ (unheardSignup plainService 0 "a@x" "password1").2.log := by
    rw [show (unheardSignup plainService 0 "a@x" "password1").2.log = _ from left, unheardRejected]
    exact List.mem_append_right _ (List.mem_cons_of_mem _ List.mem_cons_self)
  refine ⟨refused, refused', alike _ .outrun hastyService (.signup "b@y" "password2") (.start 1) rfl
      ((congrArg Audit.Ending.of refused').trans (congrArg Audit.Ending.of refused).symm)
      (rejected'.trans rejected.symm),
    cancelled, shown,
    alikeUnheard _ _ hastyService (.signup "b@y" "password2") (.start 1) rfl
      ((congrArg Audit.Ending.of cancelled').trans (congrArg Audit.Ending.of cancelled).symm)
      (unheardRejected'.trans unheardRejected.symm)⟩

end Gatehouse.Account
