import Gatehouse.Proofs.Flow
import Gatehouse.Proofs.Json.Decimals
import Gatehouse.Proofs.Text.Words
import Gatehouse.Proofs.Token.Secret
import Gatehouse.Proofs.Token.Segments

/-!
# Issued tokens, both ways

A token that is issued under a plain secret verifies under that secret whatever the clock
shows later, says what it was issued for, and is valid exactly while the clock is below its
expiry.  The time of issue and the expiry are read back from their literals, as every floating
point number is.

Main results:

- `whole_ofFloat`: a number counts as its integer part when it is read back.
- `verified_issuedText`: an issued token verifies, with the claims it was issued with.
- `issued_tokens_round_trip`: what each type of token says after it was issued.
-/

namespace Gatehouse.Token

open Gatehouse.Text Gatehouse.Number

/-! ## Issued texts -/

/-- Claims with the times and the id of a token. -/
def timedClaims (claims : Claims) (issuedAt expiry : Float) (serial : Nat) : Claims :=
  claims ++
    [("iat", .ofFloat issuedAt), ("exp", .ofFloat expiry), ("jti", .string (tokenId serial))]

/-- The token of claims under a plain secret. -/
def issuedText (secret : String) (claims : Claims) (issuedAt expiry : Float) (serial : Nat) :
    String :=
  compose (.object (timedClaims claims issuedAt expiry serial))
    (Digest.mac (utf8 secret)
      (textBytes (signingText (.object (timedClaims claims issuedAt expiry serial)))))

/-- Sealing claims gives their token. -/
theorem seal_eq_issuedText {p : Processor} (h : PlainSecret p.secret) (claims : Claims)
    (now expiry : Float) (serial : Nat) :
    p.seal claims now expiry serial = .ok (issuedText p.secret claims now expiry serial) := by
  rw [Processor.seal, h.sign_eq]
  rfl

/-- Minting claims answers with their token, timed by the clock. -/
theorem run_mint {s : Account.Service} (h : PlainSecret s.tokens.secret) (claims : Claims)
    {ttl : Int} {w : World} {expiry : Float} (he : expiryOf w.clock ttl = .ok expiry) :
    ((s.mint claims ttl).runIn w).1 =
      .ok (issuedText s.tokens.secret claims w.clock expiry (w.ids + 1)) := by
  simp [Account.Service.mint, he, seal_eq_issuedText h, Except.mapError]

/-! ## Claims that a token is issued with -/

/-- Claims that are read back and pass the checks of every accepted token. -/
structure Issuable (claims : Claims) : Prop where
  names : (claims.map Prod.fst ++ ["iat", "exp", "jti"]).Nodup
  values : ∀ f ∈ claims, f.2.ReadsBack
  subject : ∃ s, Keyed.lookup claims "sub" = some (.string s)
  notBefore : "nbf" ∉ claims.map Prod.fst
  accessHash : "at_hash" ∉ claims.map Prod.fst

/-- A name among the first entries is looked up there. -/
theorem lookup_append_of_isSome {α : Type} {entries more : Keyed α} {name : String} {v : α}
    (h : Keyed.lookup entries name = some v) : Keyed.lookup (entries ++ more) name = some v := by
  rw [Keyed.lookup_append, h, Option.some_or]

/-- A name that the first entries lack is looked up among the others. -/
theorem lookup_append_of_not_mem {α : Type} {entries more : Keyed α} {name : String}
    (h : name ∉ entries.map Prod.fst) :
    Keyed.lookup (entries ++ more) name = Keyed.lookup more name := by
  rw [Keyed.lookup_append, Keyed.lookup_eq_none_iff.2 h, Option.none_or]

namespace Issuable

variable {claims : Claims} (h : Issuable claims) (issuedAt expiry : Float) (serial : Nat)
include h

/-- The names of the times are none of the others. -/
theorem not_mem {name : String} (hn : name ∈ ["iat", "exp", "jti"]) :
    name ∉ claims.map Prod.fst :=
  fun hm => (List.nodup_append.1 h.names).2.2 name hm name hn rfl

/-- The time of issue is the one the token was issued at. -/
theorem lookup_iat :
    Keyed.lookup (timedClaims claims issuedAt expiry serial) "iat" = some (.ofFloat issuedAt) := by
  rw [timedClaims, lookup_append_of_not_mem (h.not_mem (by simp))]
  rfl

/-- The expiry is the one the token was issued with. -/
theorem lookup_exp :
    Keyed.lookup (timedClaims claims issuedAt expiry serial) "exp" = some (.ofFloat expiry) := by
  rw [timedClaims, lookup_append_of_not_mem (h.not_mem (by simp))]
  rfl

/-- The id is the one the token was issued with. -/
theorem lookup_jti :
    Keyed.lookup (timedClaims claims issuedAt expiry serial) "jti" =
      some (.string (tokenId serial)) := by
  rw [timedClaims, lookup_append_of_not_mem (h.not_mem (by simp))]
  rfl

/-- The names of the whole payload differ. -/
theorem names_timed : ((timedClaims claims issuedAt expiry serial).map Prod.fst).Nodup := by
  simpa [timedClaims] using h.names

/-- The values of the whole payload are read back. -/
theorem values_timed : ∀ f ∈ timedClaims claims issuedAt expiry serial, f.2.ReadsBack := by
  intro f hf
  rcases List.mem_append.1 hf with hf | hf
  · exact h.values f hf
  · simp only [List.mem_cons, List.not_mem_nil, or_false] at hf
    rcases hf with rfl | rfl | rfl
    · exact Json.readsBack_ofFloat issuedAt
    · exact Json.readsBack_ofFloat expiry
    · exact Json.readsBack_string _

end Issuable

/-! ## Verification of an issued token -/

/-- The literal of a floating point number is none of an integer. -/
theorem ofFloat_ne_integer (x : Float) (literal : String) :
    Numeral.ofFloat x ≠ .integer literal := by
  unfold Numeral.ofFloat
  split <;> simp

/-- A number that is read back counts as its integer part, if it has one. -/
theorem whole_ofFloat (x : Float) :
    Whole.of (.ofFloat x) =
      match truncate? x with
      | some n => .value n
      | none => if x.isNaN then .notANumber else .fault .overflow := by
  unfold Json.ofFloat Whole.of
  split
  · next h => simp at h
  · next literal h =>
    simp only [Json.number.injEq] at h
    exact absurd h (ofFloat_ne_integer x literal)
  · next n _ h =>
    simp only [Json.number.injEq] at h
    subst h
    cases value : truncate? x <;> simp only [Json.toFloat_ofFloat, value]
  · next h => simp at h
  · next number _ => exact absurd rfl (number (Numeral.ofFloat x))

/-- A finite number that is read back counts as an integer. -/
theorem exists_whole_ofFloat {x : Float} (hx : (toRat? x).isSome) :
    ∃ n, Whole.of (.ofFloat x) = .value n := by
  rcases Option.isSome_iff_exists.1 hx with ⟨q, hq⟩
  exact ⟨truncate q, by rw [whole_ofFloat, truncate?, hq, Option.map_some]⟩

namespace Issuable

variable {claims : Claims} (h : Issuable claims) {issuedAt expiry : Float} (serial : Nat)
include h

/-- The claims of an issued token pass every check, whatever the clock shows. -/
theorem check_timed (hx : (toRat? issuedAt).isSome) (now : Float) :
    check (timedClaims claims issuedAt expiry serial) now = .ok () := by
  rcases exists_whole_ofFloat hx with ⟨n, hn⟩
  rcases h.subject with ⟨s, hs⟩
  have notBefore : Keyed.lookup (timedClaims claims issuedAt expiry serial) "nbf" = none := by
    rw [timedClaims, lookup_append_of_not_mem h.notBefore]
    rfl
  have accessHash : Keyed.lookup (timedClaims claims issuedAt expiry serial) "at_hash" = none := by
    rw [timedClaims, lookup_append_of_not_mem h.accessHash]
    rfl
  have subject : Keyed.lookup (timedClaims claims issuedAt expiry serial) "sub" =
      some (.string s) := lookup_append_of_isSome hs
  have issued := h.lookup_iat issuedAt expiry serial
  have tokenId := h.lookup_jti issuedAt expiry serial
  simp [check, checkIssuedAt, checkNotBefore, checkString, checkAccessHash, issued, hn, notBefore,
    accessHash, subject, tokenId, bind, Except.bind]

/-- The claims of a token that was issued at no finite time pass no check. -/
theorem check_timed_of_not_finite (hx : ¬ (toRat? issuedAt).isSome) (now : Float) :
    check (timedClaims claims issuedAt expiry serial) now =
      .error (if issuedAt.isNaN then .unverified .issuedAt else .fault .overflow) := by
  have issued := h.lookup_iat issuedAt expiry serial
  have whole := whole_ofFloat issuedAt
  rw [truncate?, Option.not_isSome_iff_eq_none.1 hx, Option.map_none] at whole
  cases nan : issuedAt.isNaN with
  | true =>
    rw [nan] at whole
    simp [check, checkIssuedAt, issued, whole, bind, Except.bind]
  | false =>
    rw [nan] at whole
    simp [check, checkIssuedAt, issued, whole, bind, Except.bind]

/-- An issued token is live exactly while the clock is below its expiry. -/
theorem isLive_timed (now : Float) :
    isLive (timedClaims claims issuedAt expiry serial) now = decide (now < expiry) := by
  rw [isLive, h.lookup_exp, Json.ofFloat]
  split
  · next literal h =>
    simp only [Option.some.injEq, Json.number.injEq] at h
    exact absurd h (ofFloat_ne_integer expiry literal)
  · next n _ h =>
    simp only [Option.some.injEq, Json.number.injEq] at h
    rw [← h, Json.toFloat_ofFloat]
  · next h => exact absurd rfl (h (Numeral.ofFloat expiry))

/-- An issued token verifies under its secret, whatever the clock shows, and carries the
claims that it was issued with. -/
theorem verified_issuedText {q : Processor} (hq : PlainSecret q.secret)
    (hx : (toRat? issuedAt).isSome) (now : Float) :
    q.verified now (some (issuedText q.secret claims issuedAt expiry serial)) =
      .ok (timedClaims claims issuedAt expiry serial) := by
  rw [Processor.verified, issuedText,
    read_compose (h.names_timed issuedAt expiry serial) (h.values_timed issuedAt expiry serial)]
  simp only [hq.verify_eq, decide_true, h.check_timed serial hx now]

/-- A token that was issued at no finite time does not verify. -/
theorem verified_of_not_finite {q : Processor} (hq : PlainSecret q.secret)
    (hx : ¬ (toRat? issuedAt).isSome) (now : Float) :
    q.verified now (some (issuedText q.secret claims issuedAt expiry serial)) =
      .error (if issuedAt.isNaN then .refused (.unverifiedToken .issuedAt)
        else .fault .overflow) := by
  rw [Processor.verified, issuedText,
    read_compose (h.names_timed issuedAt expiry serial) (h.values_timed issuedAt expiry serial)]
  simp only [hq.verify_eq, decide_true, h.check_timed_of_not_finite serial hx now]
  cases issuedAt.isNaN <;> rfl

end Issuable

/-! ## What a token says -/

/-- A token says, whatever the clock shows, to whom it was issued, with which scopes, for
which member and as which type, and it is valid exactly while the clock is below its expiry. -/
structure Says (q : Processor) (token email : String) (granted : List String)
    (memberId : Option String) (type : String) (expiry : Float) : Prop where
  verified : ∀ now, ∃ claims, q.verified now (some token) = .ok claims
  subject : ∀ now, q.subject now (some token) = .ok email
  scopes : ∀ now, ∃ xs, q.grantedScopes now (some token) = .ok xs ∧ ∀ x, x ∈ xs ↔ x ∈ granted
  memberId : ∀ now, q.memberId now (some token) = .ok (memberId.map .string)
  type : ∀ now, q.tokenType now (some token) = .ok (some (.string type))
  valid : ∀ now, q.validate now (some token) = .ok (decide (now < expiry))

/-- What is looked up in the claims of an issued token. -/
structure Carries (claims : Claims) (email : String) (granted : List String)
    (memberId : Option String) (type : String) : Prop where
  issuable : Issuable claims
  subject : Keyed.lookup claims "sub" = some (.string email)
  scope : Keyed.lookup claims "scope" =
    if granted = [] then none else some (.string (joined granted))
  memberId : Keyed.lookup claims "cid" = memberId.map .string
  type : Keyed.lookup claims "type" = some (.string type)

/-- The times and the id of a token have no part in what it carries. -/
theorem lookup_timedClaims (claims : Claims) (issuedAt expiry : Float) (serial : Nat)
    {name : String} (hn : name ∉ ["iat", "exp", "jti"]) :
    Keyed.lookup (timedClaims claims issuedAt expiry serial) name = Keyed.lookup claims name := by
  simp only [List.mem_cons, List.not_mem_nil, or_false, not_or] at hn
  by_cases hm : name ∈ claims.map Prod.fst
  · have some : (Keyed.lookup claims name).isSome := by
      rw [Option.isSome_iff_ne_none]
      exact fun h => Keyed.lookup_eq_none_iff.1 h hm
    rcases Option.isSome_iff_exists.1 some with ⟨v, hv⟩
    rw [hv, timedClaims, lookup_append_of_isSome hv]
  · rw [timedClaims, lookup_append_of_not_mem hm, Keyed.lookup_eq_none_iff.2 hm]
    simp [Keyed.lookup, Ne.symm hn.1, Ne.symm hn.2.1, Ne.symm hn.2.2]

/-- An issued token says what its claims carry. -/
theorem says_issuedText {q : Processor} (hq : PlainSecret q.secret) {claims : Claims}
    {email : String} {granted : List String} {memberId : Option String} {type : String}
    (h : Carries claims email granted memberId type) (hemail : email ≠ "")
    (hwords : ∀ x ∈ granted, IsWord x) {issuedAt : Float} (hx : (toRat? issuedAt).isSome)
    (expiry : Float) (serial : Nat) :
    Says q (issuedText q.secret claims issuedAt expiry serial) email granted memberId type
      expiry := by
  have verified : ∀ now,
      q.verified now (some (issuedText q.secret claims issuedAt expiry serial)) =
        .ok (timedClaims claims issuedAt expiry serial) :=
    h.issuable.verified_issuedText serial hq hx
  have sub := lookup_timedClaims claims issuedAt expiry serial (show "sub" ∉ _ by decide)
  have scope := lookup_timedClaims claims issuedAt expiry serial (show "scope" ∉ _ by decide)
  have cid := lookup_timedClaims claims issuedAt expiry serial (show "cid" ∉ _ by decide)
  have type := lookup_timedClaims claims issuedAt expiry serial (show "type" ∉ _ by decide)
  refine ⟨fun now => ⟨_, verified now⟩, ?_, ?_, ?_, ?_, ?_⟩ <;> intro now
  · simp [Processor.subject, verified now, subject?, sub, h.subject, hemail, bind, Except.bind,
      pure, Except.pure]
  · refine ⟨granted, ?_, fun x => Iff.rfl⟩
    by_cases hg : granted = []
    · simp [Processor.grantedScopes, verified now, Token.scopes, scope, h.scope, hg, bind,
        Except.bind, pure, Except.pure]
    · have words : words (joined granted) = granted := words_intercalate hwords
      simp [Processor.grantedScopes, verified now, Token.scopes, scope, h.scope, hg, words, bind,
        Except.bind, pure, Except.pure]
  · simp [Processor.memberId, verified now, cid, h.memberId, bind, Except.bind, pure, Except.pure]
  · simp [Processor.tokenType, verified now, type, h.type, bind, Except.bind, pure, Except.pure]
  · simp [Processor.validate, verified now, softened, h.issuable.isLive_timed serial now, bind,
      Except.bind, pure, Except.pure]

/-! ## The three types of tokens -/

/-- The scopes in the order in which they are written into a token. -/
def inOrder (scopes : List String) : List String :=
  scopes.mergeSort fun a b => decide (a ≤ b)

/-- Words join to an empty text only if there are none. -/
theorem joined_eq_empty_iff {xs : List String} (h : ∀ x ∈ xs, IsWord x) :
    joined xs = "" ↔ xs = [] := by
  constructor
  · intro hx
    have apart : words (joined xs) = xs := words_intercalate h
    rw [hx] at apart
    exact apart.symm
  · rintro rfl
    rfl

/-- An access token carries its address, its scopes and an id that is not empty. -/
theorem carries_accessClaims (email : String) {scopes : List String}
    (h : ∀ x ∈ scopes, IsWord x) (memberId : Option String) :
    Carries (accessClaims email scopes memberId) email (inOrder scopes)
      (memberId.filter (· ≠ "")) access := by
  have sorted : ∀ x ∈ inOrder scopes, IsWord x := fun x hx => h x (List.mem_mergeSort.1 hx)
  have empty := joined_eq_empty_iff sorted
  have claims : accessClaims email scopes memberId =
      [("sub", .string email), ("type", .string access)] ++
        ((if inOrder scopes = [] then [] else [("scope", .string (joined (inOrder scopes)))]) ++
          ((memberId.filter (· ≠ "")).map fun i => ("cid", Json.string i)).toList) := by
    have written : joined (scopes.mergeSort fun a b => decide (a ≤ b)) = joined (inOrder scopes) :=
      rfl
    unfold accessClaims
    simp only [written, empty, List.append_assoc, Json.ofString?]
    cases memberId with
    | none => rfl
    | some i => by_cases hi : i = "" <;> simp [Option.filter, hi]
  rw [claims]
  -- the two optional claims are there or not
  by_cases hs : inOrder scopes = [] <;> cases hm : memberId.filter (· ≠ "") with
  | none | some i =>
    refine ⟨⟨?_, ?_, ⟨email, ?_⟩, ?_, ?_⟩, ?_, ?_, ?_, ?_⟩ <;>
      simp [hs, Json.readsBack_string, Keyed.lookup]

/-- A refresh token carries its address and nothing else. -/
theorem carries_refreshClaims (email : String) :
    Carries (refreshClaims email) email [] none refresh := by
  refine ⟨⟨?_, ?_, ⟨email, ?_⟩, ?_, ?_⟩, ?_, ?_, ?_, ?_⟩ <;>
    simp [refreshClaims, Json.ofString?, Json.readsBack_string, Keyed.lookup]

/-- A temporary token carries the address and the id of its grant. -/
theorem carries_temporaryClaims (grant : SetupGrant) :
    Carries (temporaryClaims grant) grant.email [] (some grant.memberId) temporary := by
  refine ⟨⟨?_, ?_, ⟨grant.email, ?_⟩, ?_, ?_⟩, ?_, ?_, ?_, ?_⟩ <;>
    simp [temporaryClaims, Json.readsBack_string, Keyed.lookup]

/-- An issued temporary token is a password-setup token for its address exactly while the clock
is below its expiry. -/
theorem validateTemporary_issuedText {q : Processor} (hq : PlainSecret q.secret)
    (grant : SetupGrant) {issuedAt : Float} (hx : (toRat? issuedAt).isSome) (expiry : Float)
    (serial : Nat) (now : Float) :
    q.validateTemporary now
        (some (issuedText q.secret (temporaryClaims grant) issuedAt expiry serial)) grant.email =
      .ok (decide (now < expiry)) := by
  have carries := carries_temporaryClaims grant
  have verified :
      q.verified now (some (issuedText q.secret (temporaryClaims grant) issuedAt expiry serial)) =
        .ok (timedClaims (temporaryClaims grant) issuedAt expiry serial) :=
    carries.issuable.verified_issuedText serial hq hx now
  have live : isLive (timedClaims (temporaryClaims grant) issuedAt expiry serial) now =
      decide (now < expiry) := carries.issuable.isLive_timed serial now
  have sub := lookup_timedClaims (temporaryClaims grant) issuedAt expiry serial
    (show "sub" ∉ _ by decide)
  have type := lookup_timedClaims (temporaryClaims grant) issuedAt expiry serial
    (show "type" ∉ _ by decide)
  have purpose := lookup_timedClaims (temporaryClaims grant) issuedAt expiry serial
    (show "purpose" ∉ _ by decide)
  have setup : Keyed.lookup (temporaryClaims grant) "purpose" = some (.string passwordSetup) := by
    simp [temporaryClaims, Keyed.lookup]
  by_cases below : now < expiry
  · simp [Processor.validateTemporary, verified, asInvalid, live, sub, carries.subject, type,
      carries.type, purpose, setup, Json.isString, below, bind, Except.bind, pure, Except.pure]
  · simp [Processor.validateTemporary, verified, asInvalid, live, type, carries.type, purpose,
      setup, Json.isString, below, bind, Except.bind, pure, Except.pure]

/-- The order of the scopes has no part in what a token says. -/
theorem Says.of_inOrder {q : Processor} {token email : String} {scopes : List String}
    {memberId : Option String} {type : String} {expiry : Float}
    (h : Says q token email (inOrder scopes) memberId type expiry) :
    Says q token email scopes memberId type expiry := by
  refine { h with scopes := ?_ }
  intro now
  rcases h.scopes now with ⟨xs, hxs, same⟩
  exact ⟨xs, hxs, fun x => (same x).trans List.mem_mergeSort⟩

/-- A grant is made of two texts that are not blank. -/
theorem SetupGrant.create_of_not_blank {email memberId : String} (he : allBlank email = false)
    (hi : allBlank memberId = false) :
    SetupGrant.create email memberId = .ok ⟨email, memberId⟩ := by
  simp [SetupGrant.create, Option.filter, he, hi]

/-- Under a plain secret and a finite clock each type of token is issued, verifies under the
same secret and says what it was issued for: its address, exactly its scopes, its member id
unless that is empty, its type, and an expiry that the clock has to stay below. -/
theorem issued_tokens_round_trip (s : Account.Service) (secret : PlainSecret s.tokens.secret)
    (q : Processor) (same : q.secret = s.tokens.secret) (w : World)
    (finite : (toRat? w.clock).isSome) (email : String) (nonempty : email ≠ "") :
    (∀ (scopes : List String) (memberId : Option String) (t : Float),
      (∀ x ∈ scopes, IsWord x) → floatOfInt? s.tokens.accessTtl = some t →
      ∃ token, ((s.issueAccess email scopes memberId).runIn w).1 = .ok token ∧
        Says q token email scopes (memberId.filter (· ≠ "")) access (w.clock + t)) ∧
    (∀ t : Float, floatOfInt? s.tokens.refreshTtl = some t →
      ∃ token, ((s.issueRefresh email).runIn w).1 = .ok token ∧
        Says q token email [] none refresh (w.clock + t)) ∧
    (∀ (memberId : String) (t : Float), allBlank email = false → allBlank memberId = false →
      floatOfInt? s.tokens.temporaryTtl = some t →
      ∃ grant token, SetupGrant.create email memberId = .ok grant ∧
        ((s.issueTemporary grant).runIn w).1 = .ok token ∧
        Says q token email [] (some memberId) temporary (w.clock + t)) := by
  have plain : PlainSecret q.secret := same ▸ secret
  refine ⟨?_, ?_, ?_⟩
  · intro scopes memberId t words ht
    refine ⟨_, run_mint secret _ (by rw [expiryOf, ht]), ?_⟩
    rw [← same]
    have sorted : ∀ x ∈ inOrder scopes, IsWord x := fun x hx => words x (List.mem_mergeSort.1 hx)
    exact (says_issuedText plain (carries_accessClaims email words memberId) nonempty sorted
      finite _ _).of_inOrder
  · intro t ht
    refine ⟨_, run_mint secret _ (by rw [expiryOf, ht]), ?_⟩
    rw [← same]
    exact says_issuedText plain (carries_refreshClaims email) nonempty (by simp) finite _ _
  · intro memberId t he hi ht
    refine ⟨⟨email, memberId⟩, _, SetupGrant.create_of_not_blank he hi,
      run_mint secret _ (by rw [expiryOf, ht]), ?_⟩
    rw [← same]
    exact says_issuedText plain (carries_temporaryClaims ⟨email, memberId⟩) nonempty (by simp)
      finite _ _

/-- At the end of 2023 an access token with two scopes, a refresh token and a temporary token
come back with what they were issued for. -/
theorem issued_tokens_round_trip_in_2023 :
    ∃ access refresh temporary,
      ((plainService.issueAccess "a@x" ["b", "a"] "m1").runIn (.start 1700000000.5)).1 =
        .ok access ∧
      Says plainService.tokens access "a@x" ["b", "a"] "m1" Token.access 1700000900.5 ∧
      ((plainService.issueRefresh "a@x").runIn (.start 1700000000.5)).1 = .ok refresh ∧
      Says plainService.tokens refresh "a@x" [] none Token.refresh 1700604800.5 ∧
      ((plainService.issueTemporary ⟨"a@x", "m1"⟩).runIn (.start 1700000000.5)).1 =
        .ok temporary ∧
      Says plainService.tokens temporary "a@x" [] "m1" Token.temporary 1700000900.5 := by
  have short : (World.start 1700000000.5).clock + 900 = 1700000900.5 := by decide +kernel
  have long : (World.start 1700000000.5).clock + 604800 = 1700604800.5 := by decide +kernel
  have words : ∀ x ∈ ["b", "a"], IsWord x := by
    intro x hx
    simp only [List.mem_cons, List.not_mem_nil, or_false] at hx
    rcases hx with rfl | rfl <;>
      exact ⟨by decide, List.forall_mem_singleton.2 (by decide)⟩
  obtain ⟨forAccess, forRefresh, forTemporary⟩ := issued_tokens_round_trip plainService
    plainService_secret plainService.tokens rfl (.start 1700000000.5) (by decide +kernel) "a@x"
    (by decide)
  obtain ⟨a, ha, saysA⟩ := forAccess ["b", "a"] "m1" 900 words (by decide +kernel)
  obtain ⟨r, hr, saysR⟩ := forRefresh 604800 (by decide +kernel)
  obtain ⟨grant, t, hg, ht, saysT⟩ := forTemporary "m1" 900 (by decide) (by decide)
    (by decide +kernel)
  obtain rfl : ⟨"a@x", "m1"⟩ = grant :=
    Except.ok.inj ((SetupGrant.create_of_not_blank (by decide) (by decide)).symm.trans hg)
  rw [short] at saysA saysT
  rw [long] at saysR
  exact ⟨a, r, t, ha, by simpa [Option.filter] using saysA, hr, saysR, ht, saysT⟩

end Gatehouse.Token
