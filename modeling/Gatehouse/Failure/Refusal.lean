/-!
# Refusals

A refusal is an expected way for a request to fail.  It has a kind, a note for
the log, and a text that may be shown to the client.  The note may name the
reason or an address; the shown text never does, except for requests that break
a rule of the service, which are told so.

Main results:

- `Refusal.ofKind_shown`: a refusal of a kind shows the same text whatever its note.
-/

namespace Gatehouse

/-! ## Kinds -/

/-- The kinds of refusal. -/
inductive Kind
  | invalidCredentials
  | invalidToken
  | brokenToken
  | throttled
  | duplicateMember
  | memberNotFound
  | invalidRequest
deriving DecidableEq, Repr

namespace Kind

/-- The code of a kind, as shown to clients and written to the log. -/
def code : Kind → String
  | .invalidCredentials => "invalid_credentials"
  | .invalidToken => "invalid_token"
  | .brokenToken => "jwt_processing_error"
  | .throttled => "rate_limited"
  | .duplicateMember => "duplicate_member"
  | .memberNotFound => "member_not_found"
  | .invalidRequest => "invalid_request"

/-- The text shown to clients for a kind. -/
def publicText : Kind → String
  | .invalidCredentials => "Invalid email or password."
  | .invalidToken => "Token is invalid or expired."
  | .brokenToken => "Token processing failed."
  | .throttled => "Too many attempts. Please try again later."
  | .duplicateMember => "A member with that email already exists."
  | .memberNotFound => "Member not found."
  | .invalidRequest => "Request could not be processed."

/-- Kinds are told apart by their codes. -/
theorem code_injective {a b : Kind} (h : a.code = b.code) : a = b := by
  cases a <;> cases b <;> first | rfl | exact absurd h (by decide)

end Kind

/-! ## Refusals -/

/-- A refused request. -/
structure Refusal where
  kind : Kind
  /-- The text for the log. -/
  note : String
  /-- The text for the client, if there is one. -/
  shown : Option String
deriving DecidableEq, Repr

namespace Refusal

/-- A note, or the public text when the note is missing or empty. -/
def noteOr (publicText : String) : Option String → String
  | none => publicText
  | some s => if s = "" then publicText else s

/-- A refusal of a kind with a note that only the log sees. -/
def ofKind (kind : Kind) (note : Option String) : Refusal :=
  ⟨kind, noteOr kind.publicText note, some kind.publicText⟩

/-- A request that breaks a rule, with a text that the client sees too. -/
def ofRule (text : Option String) : Refusal :=
  ⟨.invalidRequest, noteOr Kind.invalidRequest.publicText text, text⟩

/-- A refusal made from a kind shows the text of the kind, whatever its note says. -/
@[simp]
theorem ofKind_shown (kind : Kind) (note : Option String) :
    (ofKind kind note).shown = some kind.publicText := rfl

/-- A refusal made from a kind has that kind. -/
@[simp]
theorem ofKind_kind (kind : Kind) (note : Option String) : (ofKind kind note).kind = kind := rfl

end Refusal

end Gatehouse
