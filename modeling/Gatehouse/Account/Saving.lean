import Gatehouse.Member.Named
import Gatehouse.World

/-!
# Saving members

A member is saved under the current time.  A write whose address belongs to
another id is rejected as a duplicate, and so is one without an id or an address.
A rejected write is logged without saying whose it was.

Main results:

- `save`: store a member and return the stored record.
- `saveNew`: store a record whose id or address may be missing.
- `saveDraft`: store a record whose fields may be missing or unknown.
-/

namespace Gatehouse.Account

/-- The line that a rejected write leaves. -/
def rejectedWrite : LogLine :=
  ⟨.info, .directory, "Rejected write for duplicate email"⟩

/-- Reject a write, with a line in the log. -/
def reject (email : Option String) : Flow Member := do
  Flow.log rejectedWrite
  Flow.refuse (.emailRegistered email)

/-- Store a record at a time, or reject it. -/
def store (stamp : String) (m : Member) : Flow Member := do
  match (← Flow.directory).save? stamp m with
  | some (stored, d) => Flow.of fun w => (.ok stored, { w with directory := d })
  | none => reject m.email

/-- Save a member under the current time and return the stored record. -/
def save (m : Member) : Flow Member := do
  store (← Flow.timestamp) m

/-- Save a new, enabled member with a password; one without an id or an address is rejected.
An id that cannot be stored is found out after the time. -/
def saveNew (id : Except Fault (Option String)) (email : Option String) (digest : String) :
    Flow Member := do
  let stamp ← Flow.timestamp
  match ← Flow.liftFault id, email with
  | some id, some email => store stamp ⟨id, email, .member, some digest, true, "", ""⟩
  | _, _ => reject email

/-- A record to be saved, as it is handed in. -/
structure Draft where
  id : Option String
  email : Option String
  role : Json
  passwordDigest : Option String
  enabled : Bool
  createdAt : String

/-- Save a record as it is handed in. -/
def saveDraft (d : Draft) : Flow Member := do
  let stamp ← Flow.timestamp
  let role ← Flow.liftFault (roleOf d.role)
  match d.id, d.email with
  | some id, some email =>
    store stamp ⟨id, email, role, d.passwordDigest, d.enabled, d.createdAt, ""⟩
  | _, _ => reject d.email

end Gatehouse.Account
