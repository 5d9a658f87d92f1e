import Gatehouse.Proofs.Account.TokenUses

/-!
# Operations that log no more than a rejected write

Inside an audited operation only the directory writes to the log, and what it writes is one fixed
line for a write that it rejects.  A rejected write is a failure of its own, which nothing else that
an operation does can end in.  So the lines that an operation leaves can be told from how it ended.

That is so as long as the caller of a write hears how it ended.  A caller that is cancelled while
the directory writes ends as cancelled, whatever becomes of the write.  A watched operation keeps
apart how it ends and whether a write was rejected in it.

Main results:

- `Discreet`, `discreet_bind`: an operation logs a rejected write and nothing else.
- `discreet_save`, `discreet_saveNew`: saving is discreet.
- `discreet_issue`, `discreet_digest`, `discreet_setupEmail`: so is all that never comes to a write.
- `isRejected_validateRefresh`, `isRejected_subject`, `isRejected_memberId`: reading a token is no
  write.
- `Watched`, `Watched.Told.bind`, `Watched.Candid.bind`: what a sequence logs of rejected writes,
  however its parts end, and when the outcome tells of them.
-/

namespace Gatehouse

open Gatehouse.Account

/-! ## Rejected writes -/

/-- A failure is that of a write which the directory rejected. -/
def Failure.isRejection : Failure → Bool
  | .refused (.emailRegistered _) => true
  | _ => false

/-- An outcome is that of a rejected write. -/
def isRejected {α : Type} : Except Failure α → Bool
  | .ok _ => false
  | .error e => e.isRejection

/-- The lines that a write leaves inside an operation. -/
def rejectionLines (rejected : Bool) : List LogLine :=
  if rejected then [rejectedWrite] else []

section Outcomes

variable {α β : Type}

/-- A sequence ends in no rejected write if neither of its parts does. -/
theorem isRejected_bind {x : Except Failure α} {f : α → Except Failure β}
    (hx : isRejected x = false) (hf : ∀ a, isRejected (f a) = false) :
    isRejected (x >>= f) = false := by
  cases x with
  | ok a => exact hf a
  | error e => exact hx

/-- A fault is no rejected write. -/
theorem isRejected_mapError (outcome : Except Fault α) :
    isRejected (outcome.mapError Failure.fault) = false := by
  cases outcome <;> rfl

end Outcomes

namespace Flow

variable {α β : Type}

/-! ## Discreet operations -/

/-- An operation logs the line of a rejected write exactly if it ends in one, and nothing else. -/
def Discreet (f : Flow α) : Prop :=
  ∀ w, (f.runIn w).2.log = w.log ++ rejectionLines (isRejected (f.runIn w).1)

/-- A sequence of discreet operations is discreet: the first one has logged nothing if the second
one is run. -/
theorem discreet_bind {f : Flow α} {g : α → Flow β} (hf : Discreet f) (hg : ∀ a, Discreet (g a)) :
    Discreet (f >>= g) := by
  intro w
  have first := hf w
  rw [run_bind]
  rcases h : f.runIn w with ⟨e | a, w'⟩
  · rw [h] at first
    exact first
  · rw [h] at first
    have same : w'.log = w.log := first.trans (List.append_nil w.log)
    rw [← same]
    exact hg a w'

/-- An outcome that is no rejected write is discreet. -/
theorem discreet_lift {outcome : Except Failure α} (h : isRejected outcome = false) :
    Discreet (lift outcome) := fun w => by
  rw [run_lift, h]
  exact (List.append_nil w.log).symm

/-- A plain result is discreet. -/
theorem discreet_pure (a : α) : Discreet (pure a) := discreet_lift rfl

/-- A fault is discreet. -/
theorem discreet_liftFault (outcome : Except Fault α) : Discreet (liftFault outcome) :=
  discreet_lift (isRejected_mapError outcome)

/-- A refusal of anything but a write is discreet. -/
theorem discreet_refuse {c : Cause} (other : (Failure.refused c).isRejection = false) :
    Discreet (refuse c : Flow α) :=
  discreet_lift other

/-- An operation that always succeeds and logs nothing is discreet. -/
theorem discreet_of_total {f : Flow α} (silent : Keeps World.log f)
    (total : ∀ w, ∃ a, (f.runIn w).1 = .ok a) : Discreet f := by
  intro w
  rcases total w with ⟨a, succeeds⟩
  rw [silent, succeeds]
  exact (List.append_nil w.log).symm

/-- Reading the clock is discreet. -/
theorem discreet_now : Discreet now := discreet_of_total keeps_now fun _ => ⟨_, rfl⟩

/-- Reading the timestamp is discreet. -/
theorem discreet_timestamp : Discreet timestamp :=
  discreet_bind discreet_now fun _ => discreet_liftFault _

/-- Drawing an id is discreet. -/
theorem discreet_freshId : Discreet freshId :=
  discreet_of_total (fun _ => rfl) fun _ => ⟨_, rfl⟩

end Flow

/-! ## Watched operations -/

/-- An operation, and the worlds in which a write is rejected while it runs, however it ends. -/
structure Watched (α : Type) where
  flow : Flow α
  rejects : World → Bool

namespace Watched

variable {α β : Type}

/-- An operation in which a write is rejected exactly if it ends in that. -/
def of (f : Flow α) : Watched α :=
  ⟨f, fun w => isRejected (f.runIn w).1⟩

/-- A sequence: a write is rejected in its first part, or in the second one where that is run. -/
def andThen (x : Watched α) (f : α → Watched β) : Watched β where
  flow := x.flow >>= fun a => (f a).flow
  rejects w := x.rejects w ||
    match x.flow.runIn w with
    | (.ok a, w') => (f a).rejects w'
    | (.error _, _) => false

instance : Monad Watched where
  pure a := of (pure a)
  bind := andThen

instance : MonadLift Flow Watched where
  monadLift := of

/-- The operation whose caller is cancelled while it runs: it does what it does, and nobody hears
how it ends. -/
def unheard (x : Watched α) : Watched α :=
  ⟨Flow.of fun w => (.error .cancelled, (x.flow.runIn w).2), x.rejects⟩

/-- The flow of a sequence is the sequence of the flows. -/
theorem flow_bind (x : Watched α) (f : α → Watched β) :
    (x >>= f).flow = x.flow >>= fun a => (f a).flow := rfl

/-- The flow of a sequence is any sequence of the same parts. -/
theorem flow_bind_eq {x : Watched α} {f : α → Watched β} {y : Flow α} {g : α → Flow β}
    (hx : x.flow = y) (h : ∀ a, (f a).flow = g a) : (x >>= f).flow = y >>= g := by
  rw [flow_bind, hx]
  exact bind_congr h

/-- A write is rejected in a sequence if one is in a part of it that is run. -/
theorem rejects_bind (x : Watched α) (f : α → Watched β) (w : World) :
    (x >>= f).rejects w =
      (x.rejects w ||
        match x.flow.runIn w with
        | (.ok a, w') => (f a).rejects w'
        | (.error _, _) => false) := rfl

/-- A watched operation logs the line of a rejected write exactly if a write is rejected, and
nothing else; and it does not succeed then. -/
structure Told (x : Watched α) : Prop where
  log_eq : ∀ w, (x.flow.runIn w).2.log = w.log ++ rejectionLines (x.rejects w)
  fails : ∀ w, x.rejects w = true → ∃ e, (x.flow.runIn w).1 = .error e

/-- A write is rejected in a watched operation exactly if it ends in that. -/
def Candid (x : Watched α) : Prop :=
  ∀ w, x.rejects w = isRejected (x.flow.runIn w).1

/-- A discreet operation tells of its rejected writes. -/
theorem told_of {f : Flow α} (h : Flow.Discreet f) : Told (of f) where
  log_eq := h
  fails w rejected := by
    cases ended : (f.runIn w).1 with
    | error e => exact ⟨e, ended⟩
    | ok a =>
      simp only [of, ended, isRejected] at rejected
      cases rejected

/-- A sequence tells of its rejected writes if its parts do: where the first part has one, the
second part is not run. -/
theorem Told.bind {x : Watched α} {f : α → Watched β} (hx : x.Told) (hf : ∀ a, (f a).Told) :
    (x >>= f).Told where
  log_eq w := by
    have first := hx.log_eq w
    have failed := hx.fails w
    simp only [flow_bind, rejects_bind, Flow.run_bind]
    rcases h : x.flow.runIn w with ⟨e | a, w'⟩
    · rw [h] at first
      simpa using first
    · rw [h] at first failed
      have passed : x.rejects w = false := by
        cases rejected : x.rejects w with
        | false => rfl
        | true => rcases failed rejected with ⟨e, _, _⟩
      rw [passed] at first ⊢
      have same : w'.log = w.log := first.trans (List.append_nil w.log)
      rw [← same]
      exact (hf a).log_eq w'
  fails w rejected := by
    simp only [flow_bind, rejects_bind, Flow.run_bind] at rejected ⊢
    rcases h : x.flow.runIn w with ⟨e | a, w'⟩
    · exact ⟨e, rfl⟩
    · rw [h] at rejected
      rcases Bool.or_eq_true_iff.1 rejected with early | late
      · rcases hx.fails w early with ⟨e, failed⟩
        rw [h] at failed
        cases failed
      · exact (hf a).fails w' late

/-- A cancelled caller makes no difference to what is told of rejected writes. -/
theorem Told.unheard {x : Watched α} (h : x.Told) : x.unheard.Told where
  log_eq := h.log_eq
  fails _ _ := ⟨.cancelled, rfl⟩

/-- Any operation by itself is candid. -/
theorem candid_of (f : Flow α) : Candid (of f) := fun _ => rfl

/-- A sequence of candid operations is candid. -/
theorem Candid.bind {x : Watched α} {f : α → Watched β} (hx : x.Candid) (hf : ∀ a, (f a).Candid) :
    (x >>= f).Candid := by
  intro w
  have first := hx w
  simp only [flow_bind, rejects_bind, Flow.run_bind]
  rcases h : x.flow.runIn w with ⟨e | a, w'⟩
  · rw [h] at first
    exact (Bool.or_false _).trans first
  · rw [h] at first
    rw [first]
    exact hf a w'

end Watched

/-! ## Reading tokens -/

namespace Token

variable {α : Type} {p : Processor} {now : Float} {token : Option String}

/-- A token that does not verify is no rejected write. -/
theorem isRejected_verified : isRejected (p.verified now token) = false := by
  cases verified : p.verified now token with
  | ok claims => rfl
  | error e => rcases verified_error_cases verified with ⟨b, rfl⟩ | ⟨u, rfl⟩ | ⟨f, rfl⟩ <;> rfl

/-- Counting broken tokens as invalid makes no rejected write. -/
theorem isRejected_asInvalid {outcome : Except Failure α} (h : isRejected outcome = false) :
    isRejected (asInvalid outcome) = false := by
  unfold asInvalid
  split
  · rfl
  · exact h

/-- Neither does counting invalid tokens as not valid. -/
theorem isRejected_softened {outcome : Except Failure Claims} (h : isRejected outcome = false) :
    isRejected (softened outcome) = false := by
  unfold softened
  split
  · rfl
  · split
    · rfl
    · exact h
  · exact h

/-- Reading the subject of a token is no write. -/
theorem isRejected_subject : isRejected (p.subject now token) = false := by
  refine isRejected_bind isRejected_verified fun claims => ?_
  split <;> rfl

/-- Reading the id that a token names is no write. -/
theorem isRejected_memberId : isRejected (p.memberId now token) = false :=
  isRejected_bind isRejected_verified fun _ => rfl

/-- Validating a refresh token is no write. -/
theorem isRejected_validateRefresh : isRejected (p.validateRefresh now token) = false := by
  refine isRejected_bind (isRejected_softened isRejected_verified) fun found => ?_
  split
  · rfl
  · dsimp only
    split
    · rfl
    · split <;> rfl

/-- Validating a temporary token is no write. -/
theorem isRejected_validateTemporary {email : Option String} :
    isRejected (p.validateTemporary now token email) = false := by
  refine isRejected_bind (isRejected_asInvalid isRejected_verified) fun claims => ?_
  split
  · rfl
  · split
    · rfl
    · split <;> rfl

end Token

/-! ## Parts of the flows -/

namespace Account

open Gatehouse.Flow Gatehouse.Token

section Parts

variable (s : Service)

/-- Signing a token is discreet. -/
theorem discreet_mint (claims : Claims) (ttl : Int) : Discreet (s.mint claims ttl) := by
  refine discreet_bind discreet_now fun now => ?_
  refine discreet_bind (discreet_liftFault _) fun expiry => ?_
  refine discreet_bind discreet_freshId fun serial => ?_
  refine discreet_bind (discreet_liftFault _) fun token => ?_
  exact discreet_bind (discreet_of_total (fun _ => rfl) fun _ => ⟨_, rfl⟩) fun _ => discreet_pure _

/-- Issuing the tokens of a session is discreet. -/
theorem discreet_issue (m : Member) (refreshToken : Option String) :
    Discreet (s.issue m refreshToken) := by
  refine discreet_bind (discreet_mint s _ _) fun access => ?_
  cases refreshToken with
  | none => exact discreet_bind (discreet_mint s _ _) fun _ => discreet_pure _
  | some t => exact discreet_pure _

/-- Making a digest is discreet. -/
theorem discreet_digest (password : Option String) : Discreet (s.digest password) := by
  unfold Service.digest
  split
  · exact discreet_refuse rfl
  · exact discreet_refuse rfl
  · refine discreet_bind (discreet_of_total (fun _ => rfl) fun _ => ⟨_, rfl⟩) fun serial => ?_
    exact discreet_pure _

/-- Confirming the address of a temporary token is discreet. -/
theorem discreet_setupEmail (token : Option String) : Discreet (s.setupEmail token) := by
  refine discreet_bind discreet_now fun now => ?_
  refine discreet_bind (discreet_lift (isRejected_asInvalid isRejected_subject)) fun email => ?_
  refine discreet_bind (discreet_lift isRejected_validateTemporary) fun valid => ?_
  split
  · exact discreet_pure _
  · exact discreet_refuse rfl

/-- Settling on an id is discreet. -/
theorem discreet_claimedId (claimed : Option Json) : Discreet (Service.claimedId claimed) := by
  unfold Service.claimedId
  split
  · exact discreet_pure _
  · exact discreet_bind discreet_freshId fun _ => discreet_pure _

/-- Looking up an address is discreet. -/
theorem discreet_memberAt (email : Option String) : Discreet (Service.memberAt email) :=
  discreet_of_total (fun _ => rfl) fun _ => ⟨_, rfl⟩

end Parts

/-! ## Writes -/

/-- Rejecting a write logs that, and is a rejected write. -/
theorem discreet_reject (email : Option String) : Discreet (reject email) := fun _ => rfl

/-- Storing a record is discreet. -/
theorem discreet_store (stamp : String) (m : Member) : Discreet (store stamp m) := by
  refine discreet_bind (discreet_of_total (fun _ => rfl) fun _ => ⟨_, rfl⟩) fun d => ?_
  split
  · exact discreet_of_total (fun _ => rfl) fun _ => ⟨_, rfl⟩
  · exact discreet_reject _

/-- Saving a member is discreet. -/
theorem discreet_save (m : Member) : Discreet (save m) :=
  discreet_bind discreet_timestamp fun stamp => discreet_store stamp m

/-- Saving a new member is discreet. -/
theorem discreet_saveNew (id : Except Fault (Option String)) (email : Option String)
    (digest : String) : Discreet (saveNew id email digest) := by
  refine discreet_bind discreet_timestamp fun stamp => ?_
  refine discreet_bind (discreet_liftFault id) fun id => ?_
  split
  · exact discreet_store stamp _
  · exact discreet_reject _

end Account

end Gatehouse
