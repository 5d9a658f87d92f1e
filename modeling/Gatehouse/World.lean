import Gatehouse.Failure.Basic
import Gatehouse.Log
import Gatehouse.Member.Directory
import Gatehouse.Time.Timestamp
import Gatehouse.Token.Claims

/-!
# The world of the service

Everything that an operation of the service may read or change: the clock, the
draws of fresh ids and salts, the member directory, the log, and a record of the
tokens that were signed.  An operation either answers or fails; what it did to
the world before failing stays done.

Main results:

- `run_pure`, `run_bind_ok`, `run_bind_error`: how operations are composed.
-/

namespace Gatehouse

open Gatehouse.Text

/-! ## State -/

/-- A token that was signed, with the claims it carries. -/
structure Minted where
  token : String
  claims : Token.Claims
deriving Repr

/-- The state that operations share. -/
structure World where
  /-- Seconds since 1970-01-01, in UTC. -/
  clock : Float
  /-- How many fresh ids were drawn. -/
  ids : Nat
  /-- How many salts were drawn. -/
  salts : Nat
  directory : Directory
  /-- The log, oldest line first. -/
  log : List LogLine
  /-- The tokens signed so far, oldest first. -/
  minted : List Minted

namespace World

/-- A world at a time, with an empty directory. -/
def start (clock : Float) : World :=
  ⟨clock, 0, 0, .empty, [], []⟩

/-- The world with one more line in its log. -/
def logged (w : World) (line : LogLine) : World :=
  { w with log := w.log ++ [line] }

/-- Logging leaves the members alone. -/
@[simp]
theorem directory_logged (w : World) (line : LogLine) :
    (w.logged line).directory = w.directory := rfl

/-- Logging leaves the clock alone. -/
@[simp]
theorem clock_logged (w : World) (line : LogLine) : (w.logged line).clock = w.clock := rfl

end World

/-! ## Operations -/

/-- An operation on the world that answers or fails. -/
abbrev Flow (α : Type) := ExceptT Failure (StateM World) α

namespace Flow

variable {α β : Type}

/-- The outcome of an operation and the world after it. -/
def runIn (f : Flow α) (w : World) : Except Failure α × World :=
  StateT.run (ExceptT.run f) w

/-- A plain result leaves the world alone. -/
theorem run_pure (a : α) (w : World) : runIn (pure a) w = (.ok a, w) := rfl

/-- After a success the next operation runs in the world that the first one left. -/
theorem run_bind_ok {f : Flow α} {g : α → Flow β} {w w' : World} {a : α}
    (h : runIn f w = (.ok a, w')) : runIn (f >>= g) w = runIn (g a) w' := by
  unfold runIn at h ⊢
  simp only [ExceptT.run, StateT.run] at h ⊢
  simp [bind, ExceptT.bind, ExceptT.mk, StateT.bind, h, ExceptT.bindCont]

/-- After a failure the next operation does not run. -/
theorem run_bind_error {f : Flow α} {g : α → Flow β} {w w' : World} {e : Failure}
    (h : runIn f w = (.error e, w')) : runIn (f >>= g) w = (.error e, w') := by
  unfold runIn at h ⊢
  simp only [ExceptT.run, StateT.run] at h ⊢
  simp only [bind, ExceptT.bind, ExceptT.mk, StateT.bind, h, ExceptT.bindCont]
  rfl

/-- An operation by what it does to the world. -/
def of (f : World → Except Failure α × World) : Flow α :=
  ExceptT.mk fun w => f w

/-- An outcome that does not touch the world. -/
def lift (outcome : Except Failure α) : Flow α :=
  of fun w => (outcome, w)

/-- Fail with a refusal. -/
def refuse (c : Cause) : Flow α :=
  lift (.error (.refused c))

/-- An outcome whose error is a fault. -/
def liftFault (outcome : Except Fault α) : Flow α :=
  lift (outcome.mapError .fault)

/-- Write a line to the log. -/
def log (line : LogLine) : Flow Unit :=
  of fun w => (.ok (), w.logged line)

/-- The clock. -/
def now : Flow Float :=
  of fun w => (.ok w.clock, w)

/-- The member directory. -/
def directory : Flow Directory :=
  of fun w => (.ok w.directory, w)

/-- The serial number of a fresh id. -/
def freshId : Flow Nat :=
  of fun w => (.ok (w.ids + 1), { w with ids := w.ids + 1 })

/-- The serial number of a fresh salt. -/
def freshSalt : Flow Nat :=
  of fun w => (.ok (w.salts + 1), { w with salts := w.salts + 1 })

/-- Note that a token was signed. -/
def note (m : Minted) : Flow Unit :=
  of fun w => (.ok (), { w with minted := w.minted ++ [m] })

/-- The clock as a timestamp. -/
def timestamp : Flow String := do
  liftFault (Time.stampOf (← now))

end Flow

/-- The text of the id with a serial number. -/
def idText (serial : Nat) : String :=
  "00000000-0000-4000-8000-" ++ String.ofList (hexList 12 serial)

end Gatehouse
