import Gatehouse.Proofs.Account.TokenUses

/-!
# Tokens that are ordered

A service issues tokens of three types.  What they have in common is that they are minted from
claims that are written into the token as they stand: a type by which the token has its use, and
an address as its subject.

Main results:

- `Order.issue_eq_mint`: every token is minted from its claims.
- `Order.issuable_claims`: the claims of every token are read back and pass the checks.
- `Order.writable_claims`: the claims of every token tell its use and its address.
-/

namespace Gatehouse.Account

open Gatehouse.Token

/-- A token that a service is asked to issue. -/
inductive Order
  | access (email : String) (scopes : List String) (memberId : Option String)
  | refresh (email : String)
  | temporary (grant : SetupGrant)

namespace Order

/-- The claims of the token, apart from its times and its id. -/
def claims : Order → Claims
  | .access email scopes memberId => accessClaims email scopes memberId
  | .refresh email => refreshClaims email
  | .temporary grant => temporaryClaims grant

/-- The lifetime of the token. -/
def ttl (p : Processor) : Order → Int
  | .access .. => p.accessTtl
  | .refresh _ => p.refreshTtl
  | .temporary _ => p.temporaryTtl

/-- Issuing the token. -/
def issue (s : Service) : Order → Flow String
  | .access email scopes memberId => s.issueAccess email scopes memberId
  | .refresh email => s.issueRefresh email
  | .temporary grant => s.issueTemporary grant

/-- Every token is minted from its claims. -/
theorem issue_eq_mint (s : Service) (o : Order) : o.issue s = s.mint o.claims (o.ttl s.tokens) := by
  cases o <;> rfl

/-- The claims of every token are read back and pass the checks. -/
theorem issuable_claims (o : Order) : Issuable o.claims := by
  cases o with
  | access email scopes memberId =>
    have writable := writable_accessClaims email scopes memberId
    refine ⟨writable.names, writable.values, ⟨email, writable.subject⟩, ?_, ?_⟩
    · unfold claims accessClaims
      simp only
      split <;> split <;> (try split) <;> simp
    · unfold claims accessClaims
      simp only
      split <;> split <;> (try split) <;> simp
  | refresh email => exact (carries_refreshClaims email).issuable
  | temporary grant => exact (carries_temporaryClaims grant).issuable

/-- What the token is issued for. -/
def use : Order → Use
  | .access .. => .bearer
  | .refresh _ => .renewal
  | .temporary _ => .passwordSetup

/-- The address that the token is issued to. -/
def email : Order → String
  | .access email _ _ => email
  | .refresh email => email
  | .temporary grant => grant.email

/-- The claims of every token tell its use and its address. -/
theorem writable_claims (o : Order) : Writable o.claims o.use o.email := by
  cases o with
  | access email scopes memberId => exact writable_accessClaims email scopes memberId
  | refresh email => exact writable_refreshClaims email
  | temporary grant => exact writable_temporaryClaims grant

end Order

end Gatehouse.Account
