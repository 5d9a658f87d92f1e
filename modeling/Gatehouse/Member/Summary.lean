import Gatehouse.Failure.Basic
import Gatehouse.Member.Basic

/-!
# Summaries

One-line summaries of the values that pass through the account flows, for logs
and messages.  Passwords and digests never appear in them.

Main results:

- `identity_of_digest`: the summary of a member does not depend on its digest.
-/

namespace Gatehouse.Summary

open Gatehouse.Text

/-- The summary of an address with a password for signing in. -/
def credentials (email : Option String) : String :=
  "SigninCredentials(email=" ++ quotedOption email ++ ", password='***')"

/-- The summary of an address with a password for signing up. -/
def registration (email : Option String) : String :=
  "MemberRegistration(email=" ++ quotedOption email ++ ", password='***')"

/-- The summary of an address with a role. -/
def identityOf (email : Option String) (role : Role) : String :=
  "MemberIdentity(identifier=" ++ quotedOption email ++ ", role=" ++ role.name ++ ")"

/-- The summary of a member. -/
def identity (m : Member) : String :=
  identityOf m.email m.role

/-- The summary of a member does not depend on the digest of its password. -/
theorem identity_of_digest (m : Member) (digest : Option String) :
    identity { m with passwordDigest := digest } = identity m := rfl

end Gatehouse.Summary
