import Gatehouse.Form.Basic
import Gatehouse.Json.Reader
import Gatehouse.Web.Request

/-!
# Submissions

What the body of a request submits.  A body is read as JSON if its type says so;
a body of another type, or without a type, submits no fields.

Main results:

- `Form.submitted_object`: an object is checked field by field, with the body as place.
- `readSubmission_of_empty`: an empty body submits nothing, whatever its type.
-/

namespace Gatehouse.Web

open Gatehouse.Form Gatehouse.Text

/-- What a body submits. -/
inductive Submission
  | nothing
  | json (v : Json)
  /-- A body that is not of a JSON type. -/
  | untyped (body : Bytes)
deriving Repr

/-- Why a body cannot be read. -/
inductive BodyFault
  /-- It is no JSON text; the fault is at a position, in characters. -/
  | malformedAt (position : Nat)
  | undecodable
deriving DecidableEq, Repr

/-- A type of content stands for JSON, whatever its parameters. -/
def isJsonType (type : String) : Bool :=
  let name := (trimList isBlank (type.toList.takeWhile (· ≠ ';'))).map Char.toLower
  match pieces '/' name with
  | [main, sub] =>
    main == "application".toList &&
      (sub == "json".toList || "+json".toList.isSuffixOf sub)
  | _ => false

/-- What the body of a request submits. -/
def readSubmission (r : Request) : Except BodyFault Submission :=
  if r.body.isEmpty then .ok .nothing
  else if (first? r.headers "content-type").any isJsonType then
    match bodyText? r.body with
    | none => .error .undecodable
    | some text =>
      match Json.read Json.usualNesting text with
      | .ok v => .ok (.json v)
      | .error (.malformedAt position) => .error (.malformedAt position)
      | .error _ => .error .undecodable
  else .ok (.untyped r.body)

/-- An empty body submits nothing. -/
theorem readSubmission_of_empty {r : Request} (h : r.body = []) :
    readSubmission r = .ok .nothing := by
  simp [readSubmission, h]

/-- The place of what the body of a request submits. -/
def bodyPlace : String := "body"

/-- The finding about a body that is no JSON text, with nothing in it. -/
def brokenBody (position : Nat) : Finding :=
  ⟨[.name bodyPlace, .index position], .brokenJson, .value (.object [])⟩

end Gatehouse.Web

namespace Gatehouse.Form

open Gatehouse.Web

/-- Check what a body submits against a form. -/
def submitted {α : Type} (f : Form α) : Submission → Checked α
  | .json (.object fields) => (f.read fields).under bodyPlace
  | .json v => .error [⟨[.name bodyPlace], .noFields, .value v⟩]
  | .untyped body => .error [⟨[.name bodyPlace], .noFields, .raw body⟩]
  | .nothing => .error [⟨[.name bodyPlace], .missing, .value .null⟩]

/-- An object in the body is read as the form, and its findings are placed in the body. -/
theorem submitted_object {α : Type} (f : Form α) (fields : Keyed Json) :
    f.submitted (.json (.object fields)) = (f.read fields).under bodyPlace := rfl

end Gatehouse.Form
