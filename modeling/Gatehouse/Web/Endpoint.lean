import Gatehouse.Web.Request

/-!
# Endpoints

What the service offers, each under a path and a method of its own.  Paths and
methods are compared as they are; a line break at the end of a path does not
count.  A path that is known once its trailing slashes are gone is sent there.

Main results:

- `path_injective`: no two endpoints share a path.
- `find_path`: the path of an endpoint leads to it with its method, and with no other.
-/

namespace Gatehouse.Web

/-- What the service offers. -/
inductive Endpoint
  | signin
  | refresh
  | temporaryToken
  | passwordSetup
  | passwordChange
  | signup
  | ownRecord
  | memberByEmail
  | health
deriving DecidableEq, Repr

namespace Endpoint

/-- The endpoints, in order. -/
def all : List Endpoint :=
  [.signin, .refresh, .temporaryToken, .passwordSetup, .passwordChange, .signup, .ownRecord,
    .memberByEmail, .health]

/-- The path of an endpoint. -/
def path : Endpoint → String
  | .signin => "/api/v1/auth/signin"
  | .refresh => "/api/v1/auth/refresh"
  | .temporaryToken => "/api/v1/auth/temporary-token"
  | .passwordSetup => "/api/v1/auth/password"
  | .passwordChange => "/api/v1/auth/new-password"
  | .signup => "/api/v1/members/signup"
  | .ownRecord => "/api/v1/members/me"
  | .memberByEmail => "/api/v1/admin/members"
  | .health => "/api/v1/health"

/-- The method of an endpoint. -/
def method : Endpoint → String
  | .ownRecord => "GET"
  | .memberByEmail => "GET"
  | .health => "GET"
  | _ => "POST"

/-- Every endpoint is listed. -/
theorem mem_all (e : Endpoint) : e ∈ all := by
  cases e <;> decide

/-! ## Finding an endpoint -/

/-- A path without a line break at its end. -/
def withoutBreak (path : List Char) : List Char :=
  if path.getLast? = some '\n' then path.dropLast else path

/-- The endpoint under a path. -/
def atPath? (path : List Char) : Option Endpoint :=
  all.find? fun e => e.path.toList == path || e.path.toList == withoutBreak path

/-- A path without its trailing slashes, or with one if it has none. -/
def otherSlash (path : List Char) : List Char :=
  if path.getLast? = some '/' then (path.reverse.dropWhile (· = '/')).reverse else path ++ ['/']

/-- Where a method and a path lead. -/
inductive Target
  | endpoint (e : Endpoint)
  /-- The path is known under another method. -/
  | otherMethod (method : String)
  /-- The path is known with other trailing slashes. -/
  | otherPath (path : String)
  | nowhere
deriving DecidableEq, Repr

/-- Where a method and a path lead. -/
def find (method path : String) : Target :=
  match atPath? path.toList with
  | some e => if method = e.method then .endpoint e else .otherMethod e.method
  | none =>
    let other := otherSlash path.toList
    if path ≠ "/" ∧ (atPath? other).isSome then .otherPath (String.ofList other) else .nowhere

/-- Every endpoint is found at its path. -/
theorem atPath?_path (e : Endpoint) : atPath? e.path.toList = some e := by
  cases e <;> decide

/-- Endpoints are told apart by their paths. -/
theorem path_injective {a b : Endpoint} (h : a.path = b.path) : a = b := by
  have ha := atPath?_path a
  rw [h, atPath?_path b] at ha
  exact (Option.some.inj ha).symm

/-- At the path of an endpoint only the method is left to compare. -/
theorem find_path (e : Endpoint) (method : String) :
    find method e.path = if method = e.method then .endpoint e else .otherMethod e.method := by
  simp [find, atPath?_path]

end Endpoint

end Gatehouse.Web
