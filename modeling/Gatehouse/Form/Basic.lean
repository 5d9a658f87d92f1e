import Gatehouse.Form.Field

/-!
# Request forms

The forms that clients fill in.  A form is an object; its fields are checked one
by one, and everything that is wrong is reported in the order of the form.
Fields that a form does not know are ignored.

Passwords are never trimmed, so that every password can be told from every other.

Main results:

- `Form.check_object`: a form reads the fields of an object.
- `Form.signup`, `Form.signin`, `Form.refresh`, `Form.temporaryToken`,
  `Form.passwordSetup`, `Form.passwordChange`: the forms.
-/

namespace Gatehouse

open Gatehouse.Form

/-- A form whose filled-in copies are values of a type. -/
structure Form (α : Type) where
  title : String
  /-- Check the fields of an object. -/
  read : Keyed Json → Checked α

namespace Form

/-! ## Reading a form -/

/-- Check a value against a form. -/
def check {α : Type} (f : Form α) : Json → Checked α
  | .object fields => f.read fields
  | v => .error [⟨[], .notObject f.title, .value v⟩]

/-- An object is read field by field. -/
theorem check_object {α : Type} (f : Form α) (fields : Keyed Json) :
    f.check (.object fields) = f.read fields := rfl

/-- The field of an object under a name.  Where it is missing, the object is what was handed in. -/
def field (fields : Keyed Json) (name : String) (rule : TextRule) : Checked String :=
  let v := Keyed.lookup fields name
  .named name (v.getD (.object fields)) (rule.check v)

/-! ## Filled-in forms -/

/-- An address and a password. -/
structure Credentials where
  email : String
  password : String
deriving DecidableEq, Repr

/-- A refresh token. -/
structure Renewal where
  refreshToken : String
deriving DecidableEq, Repr

/-- A confirmed address and the id of its member. -/
structure Confirmation where
  email : String
  memberId : String
deriving DecidableEq, Repr

/-- A first password. -/
structure FirstPassword where
  password : String
deriving DecidableEq, Repr

/-- The current password and the one to replace it. -/
structure Replacement where
  currentPassword : String
  newPassword : String
deriving DecidableEq, Repr

/-! ## The forms -/

/-- The greatest length of an address. -/
def longestEmail : Nat := 320

/-- The greatest length of a member id. -/
def longestMemberId : Nat := 64

/-- The least length of a new password. -/
def shortestPassword : Nat := 8

/-- The address of a sign-in; any text will do. -/
def knownEmail : TextRule := .bounded 1 longestEmail

/-- The address of a new member. -/
def newEmail : TextRule := { TextRule.bounded 3 longestEmail with address := true }

/-- A password to be compared. -/
def knownPassword : TextRule := .secret 1

/-- A password to be stored. -/
def newPassword : TextRule := .secret shortestPassword

/-- Sign in with an address and a password. -/
def signin : Form Credentials where
  title := "SigninRequest"
  read fields :=
    (Checked.both (field fields "email" knownEmail) (field fields "password" knownPassword)).map
      fun r => ⟨r.1, r.2⟩

/-- Become a member. -/
def signup : Form Credentials where
  title := "SignupRequest"
  read fields :=
    (Checked.both (field fields "email" newEmail) (field fields "password" newPassword)).map
      fun r => ⟨r.1, r.2⟩

/-- Renew an access token. -/
def refresh : Form Renewal where
  title := "RefreshRequest"
  read fields :=
    (field fields "refresh_token" ⟨true, 1, none, false, false⟩).map fun t => ⟨t⟩

/-- Ask for a temporary token. -/
def temporaryToken : Form Confirmation where
  title := "TemporaryTokenRequest"
  read fields :=
    (Checked.both
      (field fields "email" { TextRule.bounded 1 longestEmail with trimmed := true })
      (field fields "member_id" { TextRule.bounded 1 longestMemberId with trimmed := true })).map
      fun r => ⟨r.1, r.2⟩

/-- Set a first password. -/
def passwordSetup : Form FirstPassword where
  title := "PasswordSetupRequest"
  read fields := (field fields "password" newPassword).map fun p => ⟨p⟩

/-- Replace a password. -/
def passwordChange : Form Replacement where
  title := "PasswordChangeRequest"
  read fields :=
    (Checked.both (field fields "current_password" knownPassword)
      (field fields "new_password" newPassword)).map fun r => ⟨r.1, r.2⟩

end Form

end Gatehouse
