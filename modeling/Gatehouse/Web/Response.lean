import Gatehouse.Account.Caller
import Gatehouse.Form.Violation
import Gatehouse.Json.Display
import Gatehouse.Text.Percent

/-!
# Responses

A response has a status, headers and a content.  What goes wrong is told in one
envelope with a code and a message.  Of a refusal the client sees only the text
that is meant for it, and of a rejected value only where and how it is wrong.

Main results:

- `ofFindings_congr`: findings at the same places with the same messages make the
  same response.
- `ofRefusal_of_kind`: the response to a refusal that is not about a rule depends
  only on its kind.
-/

namespace Gatehouse.Web

open Gatehouse.Text Gatehouse.Form

/-! ## Contents -/

/-- What a response carries. -/
inductive Content
  | json (v : Json)
  | text (s : String)
  | empty
deriving Repr

/-- The type of a content. -/
def Content.type? : Content → Option String
  | .json _ => some "application/json"
  | .text _ => some "text/plain; charset=utf-8"
  | .empty => none

/-- A response; the type of its content is not among its headers. -/
structure Response where
  status : Nat
  headers : Headers
  content : Content
deriving Repr

namespace Response

/-- All headers of a response. -/
def allHeaders (r : Response) : Headers :=
  r.headers ++ (r.content.type?.map fun t => ("content-type", t)).toList

/-- The response with more headers. -/
def adding (r : Response) (more : Headers) : Response :=
  { r with headers := r.headers ++ more }

/-! ## Plain responses -/

/-- A response with a JSON value. -/
def json (status : Nat) (v : Json) : Response :=
  ⟨status, [], .json v⟩

/-- A response with a text. -/
def text (status : Nat) (s : String) : Response :=
  ⟨status, [], .text s⟩

/-- A response that may not be stored. -/
def secret (v : Json) : Response :=
  (json 200 v).adding [("cache-control", "no-store")]

/-- The characters of an address that are not escaped. -/
def keptInAddress (c : Char) : Bool :=
  c.isAlphanum || "_.-~:/%#?=@[]!$&'()*+,;".toList.contains c

/-- A response that sends the client to another address. -/
def redirect (address : String) : Response :=
  ⟨307, [("location", percentEncode keptInAddress address)], .empty⟩

/-! ## Errors -/

/-- The header that asks for a bearer token. -/
def challenge : Headers := [("www-authenticate", "Bearer")]

/-- An error with a code, a message and perhaps some detail. -/
def problem (status : Nat) (code message : String) (detail : Option String) : Response :=
  json status (.object [("error", .object
    [("code", .string code), ("message", .string message), ("detail", .ofString? detail)])])

/-- An error with a code and a message only. -/
def notice (status : Nat) (code message : String) : Response :=
  json status (.object [("error", .object [("code", .string code), ("message", .string message)])])

/-- An error of the transport, whose code names its status. -/
def failed (status : Nat) (message : String) : Response :=
  problem status ("http_" ++ decimal status) message none

/-- The response to a request that the service fails to handle. -/
def unexpected : Response :=
  problem 500 "internal_error" "An unexpected error occurred." none

/-- The response to a client that calls too often. -/
def throttled : Response :=
  json 429 (.object [("error", .string Kind.throttled.publicText)])

/-! ### Findings -/

/-- A place in the detail of a response. -/
def placeJson : Place → Json
  | .name s => .string s
  | .index n => .ofInt n

/-- A finding in the detail of a response.  What was handed in may be a password and is left out. -/
def findingJson (f : Finding) : Json :=
  .object [("loc", .array (f.places.map placeJson)), ("msg", .string f.violation.message)]

/-- The response to a request in which something is wrong. -/
def ofFindings (fs : List Finding) : Response :=
  problem 422 "validation_error" "Request validation failed."
    (some (Json.display (.array (fs.map findingJson))))

/-- Only the places and the messages of findings are shown. -/
theorem ofFindings_congr {fs gs : List Finding} (h : fs.map Finding.shown = gs.map Finding.shown) :
    ofFindings fs = ofFindings gs := by
  have key : ∀ fs : List Finding, fs.map findingJson =
      (fs.map Finding.shown).map fun p =>
        Json.object [("loc", .array (p.1.map placeJson)), ("msg", .string p.2)] := by
    intro fs
    rw [List.map_map]
    rfl
  unfold ofFindings
  rw [key fs, key gs, h]

/-! ### Refusals -/

/-- The status of the response to a refusal. -/
def statusOf : Kind → Nat
  | .invalidCredentials => 401
  | .invalidToken => 401
  | .brokenToken => 500
  | .throttled => 429
  | .duplicateMember => 409
  | .memberNotFound => 404
  | .invalidRequest => 400

/-- The response to a refusal. -/
def ofRefusal (r : Refusal) : Response :=
  let status := statusOf r.kind
  let answer := json status (.object [("error", .object
    [("code", .string r.kind.code), ("message", .ofString? r.shown), ("detail", .null)])])
  if status = 401 then answer.adding challenge else answer

/-- Refusals of one kind are answered alike, except those of an invalid request. -/
theorem ofRefusal_of_kind {c d : Cause} (hk : c.kind = d.kind) (h : c.kind ≠ .invalidRequest) :
    ofRefusal c.refusal = ofRefusal d.refusal := by
  have hc := Cause.shown_of_kind_ne h
  have hd := Cause.shown_of_kind_ne (c := d) (hk ▸ h)
  have hkind : c.refusal.kind = d.refusal.kind := hk
  unfold ofRefusal
  rw [hc, hd, hkind, hk]

/-- The response to a caller who is turned away. -/
def ofDenial (d : Account.Denial) : Response :=
  let answer := notice d.status d.code d.message
  if d.status = 401 then answer.adding challenge else answer

end Response

end Gatehouse.Web
