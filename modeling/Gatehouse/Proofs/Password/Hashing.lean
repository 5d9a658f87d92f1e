import Gatehouse.Proofs.Password.Digests

/-!
# Hashing and matching

A secret is hashed unless it is longer than the cipher's key, and is then accepted for its digest,
whatever the cost and the salt.  A match has an answer for every secret and every stored text.  Only
the text of a digest that is written in the one form that digests have is ever accepted, and only
for a secret with its checksum.

Main results:

- `Digest.wellFormed_of_parse?`: what is read from a text is a digest of the stored form.
- `accepts_eq_true_iff`: exactly which secrets are accepted for which texts.
- `hash_and_match_agree`: hashing, matching and what they refuse, for every cost and every salt.
-/

namespace Gatehouse.Password

open Gatehouse.Text Gatehouse.Codec

/-! ## Texts of digests -/

/-- Reading symbols keeps their number. -/
theorem length_of_mapM_sextet? {cs : List Char} {ss : List Nat} (read : cs.mapM sextet? = some ss) :
    ss.length = cs.length := by
  induction cs generalizing ss with
  | nil =>
    rcases Option.some.inj read with rfl
    rfl
  | cons c cs ih =>
    rw [List.mapM_cons] at read
    rcases Option.bind_eq_some_iff.1 read with ⟨s, _, more⟩
    rcases Option.bind_eq_some_iff.1 more with ⟨rest, readRest, same⟩
    rcases Option.some.inj same with rfl
    rw [List.length_cons, List.length_cons, ih readRest]

/-- Every four symbols are three bytes. -/
theorem length_of_decodeSymbols? {cs : List Char} {bs : Bytes}
    (read : decodeSymbols? cs = some bs) : bs.length = 3 * cs.length / 4 := by
  rcases Option.map_eq_some_iff.1 read with ⟨ss, sextets, rfl⟩
  rw [Sextet.length_toBytes, length_of_mapM_sextet? sextets]

/-- What is read from a text has the form of a stored digest. -/
theorem Digest.wellFormed_of_parse? {text : String} {d : Digest}
    (read : Digest.parse? text = some d) : d.WellFormed := by
  unfold Digest.parse? at read
  split at read
  · next v a b rest _ =>
    split at read
    · next form =>
      rcases form with ⟨known, _, _, long⟩
      simp only at read
      split at read
      · next supported =>
        rcases Option.bind_eq_some_iff.1 read with ⟨salt, readSalt, more⟩
        rcases Option.bind_eq_some_iff.1 more with ⟨checksum, readChecksum, same⟩
        rcases Option.some.inj same with rfl
        have saltLength := length_of_decodeSymbols? readSalt
        have checksumLength := length_of_decodeSymbols? readChecksum
        rw [List.length_take, long] at saltLength
        rw [List.length_drop, long] at checksumLength
        exact ⟨known, supported.1, supported.2, saltLength, checksumLength⟩
      · cases read
    · cases read
  · cases read

/-- A text is the written form of a digest. -/
def IsDigestText (text : String) : Prop :=
  ∃ d : Digest, d.WellFormed ∧ text = d.render

/-! ## Acceptance -/

/-- A secret's bytes verify against a text exactly if the text is written for a digest that holds
their checksum under its own cost and salt. -/
theorem verifies_eq_true_iff {secret : Bytes} {text : String} :
    verifies secret text = true ↔ ∃ d : Digest, d.WellFormed ∧ text = d.render ∧
      d.checksum = checksumOf d.cost d.salt secret := by
  constructor
  · intro verified
    unfold verifies at verified
    split at verified
    · cases verified
    · next d read =>
      -- The digest that is written again is well-formed, though the one that was read need not be
      -- written as the text is.
      have form := Digest.wellFormed_of_parse? read
      have written := wellFormed_ofSecret_of_length form.variant form.minCost form.maxCost form.salt
        secret
      exact ⟨_, written, (of_decide_eq_true verified).symm, by rw [Digest.ofSecret]⟩
  · rintro ⟨d, form, rfl, checksum⟩
    have again : Digest.ofSecret d.variant d.cost d.salt secret = d := by
      rw [Digest.ofSecret, ← checksum]
    simp only [verifies, Digest.parse?_render form, again, decide_true]

/-- A secret is accepted exactly if it is short enough and its bytes verify. -/
theorem accepts_eq_true_iff {secret digest : Option String} :
    accepts secret digest = true ↔ ∃ s text, secret = some s ∧ digest = some text ∧
      (utf8 s).length ≤ maxSecretBytes ∧ verifies (utf8 s) text = true := by
  rcases secret with _ | s
  · simp [accepts_none_left]
  rcases digest with _ | text
  · simp [accepts_none_right]
  by_cases long : maxSecretBytes < (utf8 s).length
  · simp [accepts, secretBytes, long, Nat.not_le.2 long]
  · simp [accepts, secretBytes, long, Nat.le_of_not_lt long]

/-- What can never match: a secret that is missing or too long, and a digest that is missing, empty
or no text of a digest. -/
inductive Unusable : Option String → Option String → Prop
  | missingSecret (digest : Option String) : Unusable none digest
  | longSecret (s : String) (digest : Option String) (long : maxSecretBytes < (utf8 s).length) :
      Unusable (some s) digest
  | missingDigest (secret : Option String) : Unusable secret none
  | emptyDigest (secret : Option String) : Unusable secret (some "")
  | malformedDigest (secret : Option String) (text : String) (malformed : ¬ IsDigestText text) :
      Unusable secret (some text)

/-- What can never match is not accepted. -/
theorem Unusable.accepts_eq_false {secret digest : Option String} (h : Unusable secret digest) :
    accepts secret digest = false := by
  apply Bool.eq_false_iff.2
  intro accepted
  rcases accepts_eq_true_iff.1 accepted with ⟨s, text, rfl, rfl, short, verified⟩
  rcases verifies_eq_true_iff.1 verified with ⟨d, form, written, _⟩
  cases h with
  | longSecret _ _ long => omega
  | emptyDigest => exact ne_empty_of_accepts accepted rfl
  | malformedDigest _ _ malformed => exact malformed ⟨d, form, written⟩

/-! ## Hashing -/

/-- Every supported cost makes a verifier. -/
theorem create_eq_ok {cost : Nat} (low : minCost ≤ cost) (high : cost ≤ maxCost) :
    Verifier.create cost = .ok ⟨cost⟩ := by
  have given : maxCost ≤ maxGivenCost := by decide
  rw [Verifier.create, if_neg (by omega), if_neg (by omega), Int.toNat_natCast]

/-- A secret is refused exactly if it is too long. -/
theorem hashWith_eq_error_iff {v : Verifier} {salt : Bytes} {s : String} :
    (∃ fault, v.hashWith salt (some s) = .error fault) ↔ maxSecretBytes < (utf8 s).length := by
  by_cases long : maxSecretBytes < (utf8 s).length <;>
    simp [Verifier.hashWith, secretBytes, long, Except.map]

/-- The digest that a secret is hashed to. -/
theorem hashWith_eq_ok {v : Verifier} {salt : Bytes} {s : String}
    (short : (utf8 s).length ≤ maxSecretBytes) :
    v.hashWith salt (some s) = .ok (Digest.ofSecret 'b' v.cost salt (utf8 s)).render := by
  simp [Verifier.hashWith, secretBytes, Nat.not_lt.2 short, Except.map]

/-- A secret verifies against the digest that it is hashed to exactly if it has the checksum of the
secret that was hashed. -/
theorem verifies_ofSecret {variant : Char} {cost : Nat} {salt hashed secret : Bytes}
    (known : variant ∈ variants) (low : minCost ≤ cost) (high : cost ≤ maxCost)
    (sixteen : salt.length = 16) :
    verifies secret (Digest.ofSecret variant cost salt hashed).render = true ↔
      checksumOf cost salt hashed = checksumOf cost salt secret := by
  have form := wellFormed_ofSecret_of_length known low high sixteen hashed
  constructor
  · intro verified
    rcases verifies_eq_true_iff.1 verified with ⟨d, formD, same, checksum⟩
    rcases form.eq_of_render formD same with rfl
    simpa only [Digest.ofSecret] using checksum
  · intro same
    exact verifies_eq_true_iff.2 ⟨_, form, rfl, by simpa only [Digest.ofSecret] using same⟩

/-- Hashing and matching agree.  At every supported cost and for every salt of sixteen bytes, a
secret is refused exactly if it has more than 72 bytes, and any other matches its digest.  A match
has an answer for every secret and every stored text.  It is false for all that can never match,
and true exactly for the texts of digests that hold the checksum of the secret. -/
theorem hash_and_match_agree {cost : Nat} (low : minCost ≤ cost) (high : cost ≤ maxCost) :
    ∃ v, Verifier.create cost = .ok v ∧
      (∀ (salt : Bytes) (s : String), salt.length = 16 →
        ((∃ fault, v.hashWith salt (some s) = .error fault) ↔ 72 < (utf8 s).length) ∧
        ((utf8 s).length ≤ 72 → ∃ digest, v.hashWith salt (some s) = .ok digest ∧
          matched (some s) (some digest) = .ok true)) ∧
      ∀ secret digest : Option String, ∃ answer,
        matched secret digest = .ok answer ∧ accepts secret digest = answer ∧
        (Unusable secret digest → answer = false) ∧
        (answer = true ↔ ∃ (s : String) (d : Digest), secret = some s ∧ (utf8 s).length ≤ 72 ∧
          d.WellFormed ∧ digest = some d.render ∧
          d.checksum = checksumOf d.cost d.salt (utf8 s)) := by
  refine ⟨⟨cost⟩, create_eq_ok low high, ?_, ?_⟩
  · intro salt s sixteen
    refine ⟨hashWith_eq_error_iff, fun short => ⟨_, hashWith_eq_ok short, ?_⟩⟩
    have verified : verifies (utf8 s) (Digest.ofSecret 'b' cost salt (utf8 s)).render = true :=
      (verifies_ofSecret (by decide) low high sixteen).2 rfl
    rw [matched_eq_ok, accepts_eq_true_iff.2 ⟨s, _, rfl, rfl, short, verified⟩]
  · intro secret digest
    refine ⟨accepts secret digest, matched_eq_ok secret digest, rfl, Unusable.accepts_eq_false, ?_⟩
    rw [accepts_eq_true_iff]
    constructor
    · rintro ⟨s, text, given, stored, short, verified⟩
      rcases verifies_eq_true_iff.1 verified with ⟨d, form, rfl, checksum⟩
      exact ⟨s, d, given, short, form, stored, checksum⟩
    · rintro ⟨s, d, given, short, form, stored, checksum⟩
      exact ⟨s, d.render, given, stored, short, verifies_eq_true_iff.2 ⟨d, form, rfl, checksum⟩⟩

/-- At the greatest cost, 36 characters of two bytes each are hashed and match, 37 of them are
refused, and a text that is no digest is a mismatch. -/
theorem greatest_cost_hashes_up_to_limit :
    minCost ≤ 31 ∧ 31 ≤ maxCost ∧ ∃ v, Verifier.create (31 : Nat) = .ok v ∧
      (∃ digest, v.hashWith (List.replicate 16 255) (some (String.ofList (List.replicate 36 'é'))) =
          .ok digest ∧
        matched (some (String.ofList (List.replicate 36 'é'))) (some digest) = .ok true) ∧
      (∃ fault, v.hashWith (List.replicate 16 255)
        (some (String.ofList (List.replicate 37 'é'))) = .error fault) ∧
      matched (some "secret") (some "$2b$04$secret") = .ok false := by
  have low : minCost ≤ 31 := by decide
  have high : 31 ≤ maxCost := by decide
  have malformed : ¬ IsDigestText "$2b$04$secret" := by
    rintro ⟨d, form, same⟩
    have unread : Digest.parse? "$2b$04$secret" = none := by decide
    rw [same, Digest.parse?_render form] at unread
    cases unread
  have fits : (utf8 (String.ofList (List.replicate 36 'é'))).length ≤ 72 := by decide +kernel
  have exceeds : 72 < (utf8 (String.ofList (List.replicate 37 'é'))).length := by decide +kernel
  rcases hash_and_match_agree low high with ⟨v, created, hashing, matching⟩
  rcases matching (some "secret") (some "$2b$04$secret") with ⟨answer, answered, _, unusable, _⟩
  refine ⟨low, high, v, created, ?_, ?_, ?_⟩
  · exact (hashing _ _ List.length_replicate).2 fits
  · exact (hashing _ _ List.length_replicate).1.2 exceeds
  · rw [answered, unusable (.malformedDigest _ _ malformed)]

end Gatehouse.Password
