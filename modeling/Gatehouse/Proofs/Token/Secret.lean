import Gatehouse.Account.Service

/-!
# Plain secrets

A secret is plain when its bytes are the key as they stand, both for signing and for
verification.  Most texts are plain; so is the literal of a number, which is JSON but stands
for itself.

Main results:

- `PlainSecret.sign_eq`, `PlainSecret.verify_eq`: a plain secret verifies exactly the
  signatures that it makes.
- `PlainSecret.of_not_json`: a text that is no JSON and looks like no other key is plain.
-/

namespace Gatehouse.Token

open Gatehouse.Text

/-- A secret whose bytes are the key as they stand, for signing and for verification. -/
structure PlainSecret (secret : String) : Prop where
  candidates_eq : candidates secret = .ok [.text secret]
  not_foreign : looksForeign secret = false

/-- A text that is no JSON and looks like no key of another kind is a plain secret. -/
theorem PlainSecret.of_not_json {secret : String} {e : Json.TextFault}
    (h : Json.readUnbounded secret = .error e) (hf : looksForeign secret = false) :
    PlainSecret secret :=
  ⟨candidates_of_not_json h, hf⟩

namespace PlainSecret

variable {secret : String} (h : PlainSecret secret)
include h

/-- A plain secret signs with its bytes. -/
theorem sign_eq (message : Bytes) :
    sign secret message = .ok (Digest.mac (utf8 secret) message) := by
  simp [sign, h.not_foreign]

/-- A plain secret verifies exactly the signatures that it makes. -/
theorem verify_eq (message signature : Bytes) :
    verify secret message signature =
      .ok (decide (Digest.mac (utf8 secret) message = signature)) := by
  simp only [verify, h.candidates_eq, verifyAny, Candidate.bytes, h.not_foreign]
  by_cases hm : Digest.mac (utf8 secret) message = signature <;> simp [hm]

end PlainSecret

/-- A service with a plain secret and the usual lifetimes. -/
def plainService : Account.Service where
  tokens := { secret := "secret", accessTtl := 900, refreshTtl := 604800, temporaryTtl := 900 }
  verifier := ⟨4⟩

/-- The secret of that service is a plain one. -/
theorem plainService_secret : PlainSecret plainService.tokens.secret :=
  .of_not_json (e := .malformedAt 0) rfl (by decide +kernel)

end Gatehouse.Token
