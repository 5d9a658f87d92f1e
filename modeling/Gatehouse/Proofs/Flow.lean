import Gatehouse.Account.Service

/-!
# Running operations

The run of an operation is computed from the runs of its parts: the primitive
operations have an equation each, and a sequence runs its second part in the world
that the first one left.  What no part of an operation touches, the operation leaves
alone, however it ends.

Main results:

- `run_bind`: the run of a sequence.
- `Keeps`, `keeps_bind`: a part of the world that an operation leaves alone.
- `Atomic`, `atomic_bind`, `atomic_bind_of_total`: a part of the world that an operation leaves
  alone when it fails.
- `Yields`, `yields_bind`: what an operation that succeeds answers and leaves.
- `keeps_mint`: signing a token leaves alone what its parts do.
- `keeps_issue`: issuing tokens leaves the members alone.
-/

namespace Gatehouse

namespace World

/-- Logging leaves the record of signed tokens alone. -/
@[simp]
theorem minted_logged (w : World) (line : LogLine) : (w.logged line).minted = w.minted := rfl

/-- Logging draws no id. -/
@[simp]
theorem ids_logged (w : World) (line : LogLine) : (w.logged line).ids = w.ids := rfl

/-- Logging draws no salt. -/
@[simp]
theorem salts_logged (w : World) (line : LogLine) : (w.logged line).salts = w.salts := rfl

end World

/-! ## Running step by step -/

namespace Flow

variable {α β : Type}

attribute [simp] run_pure

/-- A sequence runs its second part in the world that the first one left, if that one
succeeded. -/
@[simp]
theorem run_bind (f : Flow α) (g : α → Flow β) (w : World) :
    runIn (f >>= g) w =
      match runIn f w with
      | (.ok a, w') => runIn (g a) w'
      | (.error e, w') => (.error e, w') := by
  rcases h : runIn f w with ⟨_ | _, w'⟩
  · exact run_bind_error h
  · exact run_bind_ok h

/-- A result is changed after the run. -/
@[simp]
theorem run_map (f : α → β) (x : Flow α) (w : World) :
    runIn (f <$> x) w =
      match runIn x w with
      | (.ok a, w') => (.ok (f a), w')
      | (.error e, w') => (.error e, w') := by
  rw [map_eq_pure_bind, run_bind]
  rfl

/-- An operation that is given by its run has that run. -/
@[simp]
theorem run_of (f : World → Except Failure α × World) (w : World) : runIn (of f) w = f w := rfl

/-- An outcome is its own run. -/
@[simp]
theorem run_lift (outcome : Except Failure α) (w : World) :
    runIn (lift outcome) w = (outcome, w) := rfl

/-- A refusal ends the run. -/
@[simp]
theorem run_refuse (c : Cause) (w : World) :
    runIn (refuse c : Flow α) w = (.error (.refused c), w) := rfl

/-- The fault of an outcome ends the run. -/
@[simp]
theorem run_liftFault (outcome : Except Fault α) (w : World) :
    runIn (liftFault outcome) w = (outcome.mapError .fault, w) := rfl

/-- The clock is read off the world. -/
@[simp]
theorem run_now (w : World) : runIn now w = (.ok w.clock, w) := rfl

/-- The directory is read off the world. -/
@[simp]
theorem run_directory (w : World) : runIn directory w = (.ok w.directory, w) := rfl

/-- A fresh id counts one up. -/
@[simp]
theorem run_freshId (w : World) :
    runIn freshId w = (.ok (w.ids + 1), { w with ids := w.ids + 1 }) := rfl

/-- A fresh salt counts one up. -/
@[simp]
theorem run_freshSalt (w : World) :
    runIn freshSalt w = (.ok (w.salts + 1), { w with salts := w.salts + 1 }) := rfl

/-- A note is added to the record of signed tokens. -/
@[simp]
theorem run_note (m : Minted) (w : World) :
    runIn (note m) w = (.ok (), { w with minted := w.minted ++ [m] }) := rfl

/-- A line is added to the log. -/
@[simp]
theorem run_log (line : LogLine) (w : World) : runIn (log line) w = (.ok (), w.logged line) := rfl

/-- The timestamp is that of the clock. -/
@[simp]
theorem run_timestamp (w : World) :
    runIn timestamp w = ((Time.stampOf w.clock).mapError .fault, w) := rfl

/-- A failure is handled in the world that the failed operation left. -/
theorem run_tryCatch (f : Flow α) (handler : Failure → Flow α) (w : World) :
    runIn (tryCatch f handler) w =
      match runIn f w with
      | (.ok a, w') => (.ok a, w')
      | (.error e, w') => runIn (handler e) w' := by
  rcases h : runIn f w with ⟨_ | _, w'⟩
  all_goals
    unfold runIn at h ⊢
    simp only [ExceptT.run, StateT.run] at h
    simp only [tryCatch, tryCatchThe, MonadExceptOf.tryCatch, ExceptT.tryCatch, ExceptT.run,
      ExceptT.mk, StateT.run, bind, StateT.bind, h]
  rfl

/-- A run with a known outcome leaves the world that it leaves. -/
theorem run_of_outcome {f : Flow α} {w : World} {outcome : Except Failure α}
    (h : (f.runIn w).1 = outcome) : f.runIn w = (outcome, (f.runIn w).2) :=
  Prod.ext h rfl

/-! ## What an operation leaves alone -/

/-- An operation leaves a part of the world as it is, however it ends. -/
def Keeps {γ : Type} (part : World → γ) (f : Flow α) : Prop :=
  ∀ w, part (f.runIn w).2 = part w

section Keeps

variable {γ : Type} {part : World → γ}

/-- A plain result leaves everything alone. -/
theorem keeps_pure (a : α) : Keeps part (pure a) := fun _ => rfl

/-- The fault of an outcome leaves everything alone. -/
theorem keeps_liftFault (outcome : Except Fault α) : Keeps part (liftFault outcome) := fun _ => rfl

/-- A refusal leaves everything alone. -/
theorem keeps_refuse (c : Cause) : Keeps part (refuse c : Flow α) := fun _ => rfl

/-- An outcome leaves everything alone. -/
theorem keeps_lift (outcome : Except Failure α) : Keeps part (lift outcome) := fun _ => rfl

/-- Reading the clock leaves everything alone. -/
theorem keeps_now : Keeps part now := fun _ => rfl

/-- Reading the directory leaves everything alone. -/
theorem keeps_directory : Keeps part directory := fun _ => rfl

/-- Reading the timestamp leaves everything alone. -/
theorem keeps_timestamp : Keeps part timestamp := fun _ => rfl

/-- A sequence leaves alone what both of its parts leave alone. -/
theorem keeps_bind {f : Flow α} {g : α → Flow β} (hf : Keeps part f) (hg : ∀ a, Keeps part (g a)) :
    Keeps part (f >>= g) := by
  intro w
  have first := hf w
  rw [run_bind]
  rcases h : runIn f w with ⟨_ | a, w'⟩
  · simpa [h] using first
  · rw [h] at first
    exact (hg a w').trans first

/-- What the second part of a sequence leaves alone is as the first part left it. -/
theorem part_bind_of_keeps {f : Flow α} {g : α → Flow β} (hg : ∀ a, Keeps part (g a)) (w : World) :
    part ((f >>= g).runIn w).2 = part (f.runIn w).2 := by
  rw [run_bind]
  rcases runIn f w with ⟨_ | a, w'⟩
  · rfl
  · exact hg a w'

end Keeps

/-! ## What an operation leaves alone when it fails -/

/-- An operation that fails in a world leaves a part of it as it was. -/
def Atomic {γ : Type} (part : World → γ) (f : Flow α) (w : World) : Prop :=
  ∀ e, (f.runIn w).1 = .error e → part (f.runIn w).2 = part w

section Atomic

variable {γ : Type} {part : World → γ} {f : Flow α} {g : α → Flow β} {w : World}

/-- What an operation always leaves alone it leaves alone when it fails. -/
theorem Keeps.atomic (h : Keeps part f) (w : World) : Atomic part f w := fun _ _ => h w

/-- A sequence whose first part leaves alone what its second part does when it fails. -/
theorem atomic_bind (hf : Keeps part f)
    (hg : ∀ a w', f.runIn w = (.ok a, w') → Atomic part (g a) w') : Atomic part (f >>= g) w := by
  intro e failed
  have first := hf w
  rw [run_bind] at failed ⊢
  rcases run : f.runIn w with ⟨_ | a, w'⟩
  · simpa [run] using first
  · rw [run] at first failed
    exact (hg a w' run e failed).trans first

/-- A sequence whose second part never fails leaves alone what its first part does when it
fails. -/
theorem atomic_bind_of_total (hf : Atomic part f w)
    (hg : ∀ a w', f.runIn w = (.ok a, w') → ∃ b, ((g a).runIn w').1 = .ok b) :
    Atomic part (f >>= g) w := by
  intro e failed
  rw [run_bind] at failed ⊢
  rcases run : f.runIn w with ⟨e' | a, w'⟩
  · have first := hf e' (by rw [run])
    simpa [run] using first
  · rcases hg a w' run with ⟨b, succeeds⟩
    simp [run, succeeds] at failed

end Atomic

/-! ## What an operation that succeeds leaves -/

/-- An operation that succeeds in a world answers and leaves what is said of it. -/
structure Yields (post : α → World → Prop) (f : Flow α) (w : World) : Prop where
  of_run : ∀ a w', f.runIn w = (.ok a, w') → post a w'

section Yields

variable {post : α → World → Prop} {post' : β → World → Prop} {f : Flow α} {g : α → Flow β}
  {w w₁ : World}

/-- What a run that is known answers and leaves. -/
theorem yields_of_run {a : α} (run : f.runIn w = (.ok a, w₁)) (h : post a w₁) :
    Yields post f w := by
  refine ⟨fun b w' run' => ?_⟩
  rcases Prod.mk.inj (run.symm.trans run') with ⟨same, rfl⟩
  exact Except.ok.inj same ▸ h

/-- An operation that fails answers nothing. -/
theorem yields_of_error {e : Failure} (run : f.runIn w = (.error e, w₁)) : Yields post f w := by
  refine ⟨fun b w' run' => ?_⟩
  rw [run] at run'
  cases run'

/-- What implies something else may be replaced by it. -/
theorem Yields.mono {post'' : α → World → Prop} (h : Yields post f w)
    (implies : ∀ a w', post a w' → post'' a w') : Yields post'' f w :=
  ⟨fun a w' run => implies a w' (h.of_run a w' run)⟩

/-- A sequence leaves what its second part leaves after what its first part left. -/
theorem yields_bind (hf : Yields post f w) (hg : ∀ a w', post a w' → Yields post' (g a) w') :
    Yields post' (f >>= g) w := by
  refine ⟨fun b w' run => ?_⟩
  rw [run_bind] at run
  rcases first : f.runIn w with ⟨e | a, w₁⟩
  · rw [first] at run
    cases run
  · rw [first] at run
    exact (hg a w₁ (hf.of_run a w₁ first)).of_run b w' run

/-- A sequence whose first part is known goes on in the world that it left. -/
theorem yields_bind_of_run {a : α} (run : f.runIn w = (.ok a, w₁)) (h : Yields post' (g a) w₁) :
    Yields post' (f >>= g) w :=
  ⟨fun b w' run' => h.of_run b w' (by rwa [run_bind, run] at run')⟩

/-- A sequence whose first part fails answers nothing. -/
theorem yields_bind_of_error {e : Failure} (run : f.runIn w = (.error e, w₁)) :
    Yields post' (f >>= g) w :=
  yields_of_error (by rw [run_bind, run])

end Yields

end Flow

/-! ## Account operations -/

namespace Account

open Gatehouse.Flow

/-- The audit lines are written around the run of the body. -/
theorem run_audited {α : Type} (name : String) (body : Flow α) (w : World) :
    (audited name body).runIn w =
      ((body.runIn (w.logged (Audit.attempt name))).1,
        (body.runIn (w.logged (Audit.attempt name))).2.logged
          ((Audit.Ending.of (body.runIn (w.logged (Audit.attempt name))).1).line name)) := rfl

/-- Auditing an operation leaves alone what the operation does, apart from the log. -/
theorem keeps_audited {α γ : Type} {part : World → γ}
    (hlog : ∀ w line, part (w.logged line) = part w) {body : Flow α} (h : Keeps part body)
    (name : String) : Keeps part (audited name body) := by
  intro w
  rw [run_audited, hlog, h, hlog]

/-- An audited operation that fails leaves alone what the operation does, apart from the log. -/
theorem atomic_audited {α γ : Type} {part : World → γ}
    (hlog : ∀ w line, part (w.logged line) = part w) {body : Flow α} {name : String} {w : World}
    (h : Atomic part body (w.logged (Audit.attempt name))) : Atomic part (audited name body) w := by
  intro e failed
  rw [run_audited] at failed ⊢
  rw [hlog, h e failed, hlog]

/-- Auditing an operation adds to its log what does not matter. -/
theorem yields_audited {α : Type} {post : α → World → Prop} {body : Flow α} {name : String}
    {w : World} (hlog : ∀ a w line, post a w → post a (w.logged line))
    (h : Yields post body (w.logged (Audit.attempt name))) : Yields post (audited name body) w := by
  refine ⟨fun a w' run => ?_⟩
  rw [run_audited] at run
  rcases Prod.mk.inj run with ⟨outcome, rfl⟩
  exact hlog a _ _ (h.of_run a _ (run_of_outcome outcome))

/-- Signing a token leaves alone what drawing an id and noting a token do. -/
theorem keeps_mint {γ : Type} {part : World → γ} (fresh : Keeps part freshId)
    (noted : ∀ m, Keeps part (note m)) (s : Service) (claims : Token.Claims) (ttl : Int) :
    Keeps part (s.mint claims ttl) :=
  keeps_bind keeps_now fun _ => keeps_bind (keeps_liftFault _) fun _ =>
    keeps_bind fresh fun _ => keeps_bind (keeps_liftFault _) fun _ =>
      keeps_bind (noted _) fun _ => keeps_pure _

/-- Issuing the tokens of a session leaves the members alone. -/
theorem keeps_issue (s : Service) (m : Member) (refreshToken : Option String) :
    Keeps World.directory (s.issue m refreshToken) := by
  have signing (claims : Token.Claims) (ttl : Int) : Keeps World.directory (s.mint claims ttl) :=
    keeps_mint (fun _ => rfl) (fun _ _ => rfl) s claims ttl
  apply keeps_bind (signing _ _)
  intro access
  cases refreshToken with
  | none => exact keeps_bind (signing _ _) fun _ => keeps_pure _
  | some t => exact keeps_bind (keeps_pure t) fun _ => keeps_pure _

end Account

end Gatehouse
