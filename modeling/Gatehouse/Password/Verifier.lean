import Gatehouse.Failure.Basic
import Gatehouse.Password.Digest

/-!
# Credential checks

Secrets are hashed byte for byte, without trimming or folding.  A secret of more
than 72 bytes is refused rather than cut.  Matching never fails: a missing secret,
a long one, and a missing or malformed digest are mismatches.

Main results:

- `secretBytes_eq_error_iff`: exactly which secrets are refused.
- `accepts_none_left`, `accepts_none_right`: what is missing never matches.
- `matched_eq_ok`: a match is answered by `accepts`, also where the check itself is refused.
-/

namespace Gatehouse.Password

open Gatehouse.Text

/-! ## Salts -/

/-- The characters of the salt with a serial number, which counts up to 21 digits and then starts
over. -/
def saltText (serial : Nat) : List Char :=
  padLeft 21 '0' (decimalList (serial % Nat.pow 10 21)) ++ ['.']

/-- The salt with a serial number. -/
def salt (serial : Nat) : Bytes :=
  (decodeSymbols? (saltText serial)).getD []

/-! ## Verifiers -/

/-- The cost of new digests. -/
structure Verifier where
  cost : Nat
deriving DecidableEq, Repr

/-- The largest number that a cost can be given as. -/
def maxGivenCost : Nat := 65535

/-- A verifier with a cost in the supported range. -/
def Verifier.create (cost : Int) : Except Fault Verifier :=
  if cost < 0 ∨ maxGivenCost < cost then .error .overflow
  else if cost < minCost ∨ maxCost < cost then .error .invalidCost
  else .ok ⟨cost.toNat⟩

/-- Why a secret is not hashed. -/
inductive SecretFault
  | missing
  | tooLong
deriving DecidableEq, Repr

/-- The bytes of a secret that may be hashed. -/
def secretBytes : Option String → Except SecretFault Bytes
  | none => .error .missing
  | some s => if maxSecretBytes < (utf8 s).length then .error .tooLong else .ok (utf8 s)

/-- The digest of a secret with the salt of a serial number. -/
def Verifier.hash (v : Verifier) (serial : Nat) (secret : Option String) :
    Except SecretFault String :=
  (secretBytes secret).map fun bs => (Digest.ofSecret 'b' v.cost (salt serial) bs).render

/-- The digest of a secret with any salt. -/
def Verifier.hashWith (v : Verifier) (salt : Bytes) (secret : Option String) :
    Except SecretFault String :=
  (secretBytes secret).map fun bs => (Digest.ofSecret 'b' v.cost salt bs).render

/-- Salts are drawn by their serial numbers. -/
theorem Verifier.hash_eq_hashWith (v : Verifier) (serial : Nat) (secret : Option String) :
    v.hash serial secret = v.hashWith (salt serial) secret := rfl

/-- A secret belongs to a digest. -/
def accepts (secret digest : Option String) : Bool :=
  match secretBytes secret, digest with
  | .ok bs, some d => verifies bs d
  | _, _ => false

/-- A secret is refused exactly when it is missing or too long. -/
theorem secretBytes_eq_error_iff {secret : Option String} :
    (∃ e, secretBytes secret = .error e) ↔
      secret = none ∨ ∃ s, secret = some s ∧ maxSecretBytes < (utf8 s).length := by
  cases secret with
  | none => simp [secretBytes]
  | some s => by_cases h : maxSecretBytes < (utf8 s).length <;> simp [secretBytes, h]

/-- A missing secret is never accepted. -/
theorem accepts_none_left (digest : Option String) : accepts none digest = false := rfl

/-- No secret is accepted for a missing digest. -/
theorem accepts_none_right (secret : Option String) : accepts secret none = false := by
  unfold accepts
  split
  · next h => simp at h
  · rfl

/-! ## Matching -/

/-- Why a check is refused. -/
inductive CheckFault
  | secretTooLong
  | malformedDigest
deriving DecidableEq, Repr

/-- Check the bytes of a secret against the text of a digest.  The cost and the salt are the
text's own, so a text without them cannot be checked. -/
def check (secret : Bytes) (digest : String) : Except CheckFault Bool :=
  if maxSecretBytes < secret.length then .error .secretTooLong
  else match Digest.parse? digest with
    | none => .error .malformedDigest
    | some d => .ok ((Digest.ofSecret d.variant d.cost d.salt secret).render = digest)

/-- Match a secret against a digest: what is missing or empty is not checked at all, and a check
that is refused counts as a mismatch. -/
def matched (secret digest : Option String) : Except CheckFault Bool :=
  match secret, digest with
  | some s, some text =>
    if text = "" then .ok false
    else match check (utf8 s) text with
      | .ok same => .ok same
      | .error _ => .ok false
  | _, _ => .ok false

/-- A text that is no digest is the digest of no secret. -/
theorem verifies_of_parse?_eq_none {secret : Bytes} {digest : String}
    (unread : Digest.parse? digest = none) : verifies secret digest = false := by
  rw [verifies, unread]

/-- Matching always has an answer, which is whether the secret is accepted. -/
theorem matched_eq_ok (secret digest : Option String) :
    matched secret digest = .ok (accepts secret digest) := by
  rcases secret with _ | s
  · rfl
  rcases digest with _ | text
  · rw [accepts_none_right]
    rfl
  by_cases long : maxSecretBytes < (utf8 s).length
  · simp [matched, accepts, secretBytes, check, long]
  by_cases empty : text = ""
  · subst empty
    have unread : Digest.parse? "" = none := rfl
    simp [matched, accepts, secretBytes, long, verifies_of_parse?_eq_none unread]
  · cases read : Digest.parse? text <;>
      simp [matched, accepts, secretBytes, check, verifies, long, empty, read]

end Gatehouse.Password
