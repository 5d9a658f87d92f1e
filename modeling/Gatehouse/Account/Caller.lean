import Gatehouse.Account.Service
import Gatehouse.Web.Header

/-!
# The caller of a request

A request is made by nobody or by the member behind its bearer token, with the
scopes of that token.  The caller is found once per request and kept.  A guarded
operation wants a caller, or a caller with a scope.

Main results:

- `identify_of_known`: a caller that is known is not looked up again.
- `demand_eq`: what a guarded operation answers to a known caller.
-/

namespace Gatehouse.Account

open Gatehouse.Web

/-- Who makes a request. -/
structure Caller where
  member : Option Member
  scopes : List String
deriving DecidableEq, Repr

/-- Nobody. -/
def Caller.anonymous : Caller :=
  ⟨none, []⟩

/-- Find the caller of a request, unless it is known already. -/
def Service.identify (s : Service) (known : Option Caller) (headers : Headers) : Flow Caller := do
  match known with
  | some c => return c
  | none =>
    match bearerToken? headers with
    | none => return .anonymous
    | some token =>
      match ← s.resolveBearer token with
      | none => return .anonymous
      | some m => return ⟨m, ← s.grantedScopes token⟩

/-- A caller who is known already is not identified again. -/
theorem identify_of_known (s : Service) (c : Caller) (headers : Headers) :
    s.identify (some c) headers = pure c := rfl

/-- Why a caller is turned away. -/
inductive Denial
  | unauthenticated
  | missingScope (scope : String)
deriving DecidableEq, Repr

/-- The status of the answer to a caller who is turned away. -/
def Denial.status : Denial → Nat
  | .unauthenticated => 401
  | .missingScope _ => 403

/-- The code of the answer. -/
def Denial.code : Denial → String
  | .unauthenticated => "unauthorized"
  | .missingScope _ => "forbidden"

/-- The text of the answer. -/
def Denial.message : Denial → String
  | .unauthenticated => "Authentication required."
  | .missingScope scope => "Missing required scope: " ++ scope ++ "."

/-- The member behind a caller. -/
def Caller.authenticated (c : Caller) : Except Denial Member :=
  match c.member with
  | some m => .ok m
  | none => .error .unauthenticated

/-- The member behind a caller whose token carries a scope. -/
def Caller.demand (c : Caller) (scope : String) : Except Denial Member := do
  let m ← c.authenticated
  if holds c.scopes scope then return m else throw (.missingScope scope)

/-- Whoever is not signed in is turned away before the scopes are looked at. -/
theorem demand_eq (c : Caller) (scope : String) :
    c.demand scope =
      match c.member with
      | none => .error .unauthenticated
      | some m => if holds c.scopes scope then .ok m else .error (.missingScope scope) := by
  unfold Caller.demand Caller.authenticated
  cases c.member with
  | none => rfl
  | some m => cases holds c.scopes scope <;> simp [bind, Except.bind, pure, Except.pure,
      throw, throwThe, MonadExceptOf.throw]

/-- The member behind a request whose token carries a scope. -/
def Service.requireScope (s : Service) (known : Option Caller) (headers : Headers)
    (scope : String) : Flow (Except Denial Member) := do
  return (← s.identify known headers).demand scope

end Gatehouse.Account
