import Gatehouse.Account.Caller
import Gatehouse.Proofs.Account.TokenUses

/-!
# Who is let through

An operation that wants a scope lets a request through for one reason only: its bearer token
verifies, is live and of the access type, names the address of an enabled member, and carries the
scope.  Each other case has its own answer.  The member's role has no part in it, and neither has
it any effect that the caller was asked for before.

A token that cannot be read for the depth of its payload has no answer at all, and neither has a
signed one whose claims are of a kind that the checks cannot handle: the request ends in a fault.

Main results:

- `presents_iff`: the token that a request presents.
- `run_requireScope_of_verified`: the answer to a token that verifies.
- `scope_demand_decided`: every request is answered as it should be, apart from faults.
-/

namespace Gatehouse.Account

open Gatehouse.Text Gatehouse.Token Gatehouse.Flow Gatehouse.Web

/-! ## The token that is presented -/

/-- A request presents a bearer token: its first authorization header names the bearer scheme and
then the token, which may have blanks around it. -/
def Presents (headers : Headers) (t : String) : Prop :=
  ∃ before name rest after, headers = before ++ (name, "Bearer " ++ rest) :: after ∧
    lower name = "authorization" ∧ (∀ h ∈ before, lower h.1 ≠ "authorization") ∧
    trim isBlank rest = t ∧ t ≠ ""

/-- The bearer token is what follows the scheme, without the blanks around it. -/
theorem bearerToken?_of_scheme {headers : Headers} {rest : String}
    (found : first? headers "authorization" = some ("Bearer " ++ rest)) :
    bearerToken? headers = if trim isBlank rest = "" then none else some (trim isBlank rest) := by
  have scheme : "Bearer ".toList.isPrefixOf ("Bearer " ++ rest).toList = true := by
    rw [List.isPrefixOf_iff_prefix, String.toList_append]
    exact List.prefix_append _ _
  have after : ("Bearer " ++ rest).toList.drop "Bearer ".toList.length = rest.toList := by
    rw [String.toList_append, List.drop_left]
  have empty : trim isBlank rest = "" ↔ (trimList isBlank rest.toList).isEmpty = true := by
    rw [trim, List.isEmpty_iff, ← String.toList_eq_nil_iff, String.toList_ofList]
  simp only [bearerToken?, found, scheme, after, if_true, empty]
  rfl

/-- A bearer token follows its scheme. -/
theorem exists_scheme_of_bearerToken? {headers : Headers} {t : String}
    (h : bearerToken? headers = some t) :
    ∃ rest, first? headers "authorization" = some ("Bearer " ++ rest) := by
  unfold bearerToken? at h
  split at h
  · cases h
  · next v found =>
    by_cases scheme : "Bearer ".toList.isPrefixOf v.toList = true
    · rcases List.isPrefixOf_iff_prefix.1 scheme with ⟨rest, text⟩
      have same : v = "Bearer " ++ String.ofList rest := String.toList_inj.1 (by simp [← text])
      exact ⟨String.ofList rest, same ▸ found⟩
    · simp only [scheme] at h
      cases h

/-- The token that is presented is the bearer token that is found. -/
theorem presents_iff {headers : Headers} {t : String} :
    Presents headers t ↔ bearerToken? headers = some t := by
  constructor
  · intro presented
    rcases presented with ⟨before, name, rest, after, text, named, others, rfl, nonempty⟩
    rw [bearerToken?_of_scheme (first?_eq_some_iff.2 ⟨before, name, after, text, named, others⟩),
      if_neg nonempty]
  · intro found
    rcases exists_scheme_of_bearerToken? found with ⟨rest, scheme⟩
    rcases first?_eq_some_iff.1 scheme with ⟨before, name, after, text, named, others⟩
    rw [bearerToken?_of_scheme scheme] at found
    split at found
    · cases found
    · next nonempty =>
      have trimmed := Option.some.inj found
      exact ⟨before, name, rest, after, text, named, others, trimmed, trimmed ▸ nonempty⟩

/-- A request presents one token at most. -/
theorem Presents.unique {headers : Headers} {t t' : String} (h : Presents headers t)
    (h' : Presents headers t') : t = t' :=
  Option.some.inj ((presents_iff.1 h).symm.trans (presents_iff.1 h'))

/-! ## The answer -/

section Answers

variable {s : Service} {w : World} {headers : Headers} {scope t : String}

/-- A request without a token is not let through. -/
theorem run_requireScope_of_anonymous (missing : bearerToken? headers = none) :
    (s.requireScope none headers scope).runIn w = (.ok (.error .unauthenticated), w) := by
  simp [Service.requireScope, Service.identify, missing, demand_eq, Caller.anonymous]

/-- A token that cannot be read ends the request as its reading does. -/
theorem run_requireScope_of_error (presented : bearerToken? headers = some t) {e : Failure}
    (h : s.tokens.verified w.clock t = .error e) (he : softened (.error e) = .error e) :
    (s.requireScope none headers scope).runIn w = (.error e, w) := by
  simp [Service.requireScope, Service.identify, presented, run_resolveBearer_of_error h he]

/-- An unsigned token is none. -/
theorem run_requireScope_of_unverified (presented : bearerToken? headers = some t)
    {u : Unverified} (h : s.tokens.verified w.clock t = .error (.refused (.unverifiedToken u))) :
    (s.requireScope none headers scope).runIn w = (.ok (.error .unauthenticated), w) := by
  simp [Service.requireScope, Service.identify, presented, run_resolveBearer_of_unverified h,
    demand_eq, Caller.anonymous]

/-- A token that does not verify is none, or ends the request, as its failure counts. -/
theorem run_requireScope_of_not_verified (presented : bearerToken? headers = some t) {e : Failure}
    (h : s.tokens.verified w.clock t = .error e) :
    (s.requireScope none headers scope).runIn w =
      (match softened (.error e) with
        | .ok _ => .ok (.error .unauthenticated)
        | .error e' => .error e', w) := by
  rcases verified_error_cases h with ⟨b, rfl⟩ | ⟨u, rfl⟩ | ⟨f, rfl⟩
  · exact run_requireScope_of_error presented h rfl
  · exact run_requireScope_of_unverified presented h
  · exact run_requireScope_of_error presented h rfl

/-- The answer to a token that verifies. -/
theorem run_requireScope_of_verified (presented : bearerToken? headers = some t)
    {claims : Claims} (h : s.tokens.verified w.clock t = .ok claims) :
    (s.requireScope none headers scope).runIn w =
      (match bearerOf claims w with
        | .error e => .error e
        | .ok none => .ok (.error .unauthenticated)
        | .ok (some m) =>
          match scopes claims with
          | .error f => .error (.fault f)
          | .ok granted =>
            .ok (if holds granted scope then .ok m else .error (.missingScope scope)), w) := by
  have granted : s.tokens.grantedScopes w.clock t = (scopes claims).mapError Failure.fault := by
    cases words : scopes claims <;>
      simp [Processor.grantedScopes, h, words, bind, Except.bind, pure, Except.pure,
        Except.mapError, throw, throwThe, MonadExceptOf.throw]
  simp only [Service.requireScope, Service.identify, presented, run_bind,
    run_resolveBearer_of_verified h]
  cases bearerOf claims w with
  | error e => rfl
  | ok found =>
    cases found with
    | none => simp [demand_eq, Caller.anonymous]
    | some m =>
      cases words : scopes claims <;>
        simp [Service.grantedScopes, granted, words, Except.mapError, demand_eq]

end Answers

/-! ## The cases -/

/-- The scope claim of a token lists a scope. -/
def Lists (claims : Claims) (scope : String) : Prop :=
  ∃ text, Keyed.lookup claims "scope" = some (.string text) ∧ scope ∈ words text

section Cases

variable (s : Service) (w : World) (headers : Headers) (scope : String)

/-- The presented token verifies, and its claims stand for a member. -/
def Identified (claims : Claims) (m : Member) : Prop :=
  ∃ t, Presents headers t ∧ s.tokens.verified w.clock t = .ok claims ∧ StandsFor claims w m

/-- The presented token stands for a member and lists the scope. -/
def Grants (m : Member) : Prop :=
  ∃ claims, Identified s w headers claims m ∧ Lists claims scope

/-- The presented token stands for a member, and only the scope is missing. -/
def LacksScope : Prop :=
  ∃ claims m, Identified s w headers claims m ∧ ¬ Lists claims scope

/-- The presented token has not the structure of one, as the service reads it. -/
def PresentsBroken : Prop :=
  ∃ t, Presents headers t ∧ ¬ ∃ c, Structured s.tokens.nesting t c

/-- Verifying the presented token ends in a fault. -/
def PresentsFault (f : Fault) : Prop :=
  ∃ t, Presents headers t ∧ s.tokens.verified w.clock t = .error (.fault f)

/-- The presented token was issued to a subject with an address, by some service and at some time,
or it does not verify. -/
def IssuedOrUnverified : Prop :=
  ∀ t, Presents headers t → (∃ use email, email ≠ "" ∧ Issued t use (some email)) ∨
    ∀ claims, s.tokens.verified w.clock t ≠ .ok claims

/-- An outcome is the right answer to a request that asks for a scope. -/
structure Decides (verdict : Except Failure (Except Denial Member)) : Prop where
  granted : ∀ m, verdict = .ok (.ok m) ↔ Grants s w headers scope m
  forbidden : verdict = .ok (.error (.missingScope scope)) ↔ LacksScope s w headers scope
  broken : Refuses verdict .brokenToken ↔ PresentsBroken s headers
  unauthenticated : verdict = .ok (.error .unauthenticated) ↔
    (¬ ∃ m, Grants s w headers scope m) ∧ ¬ LacksScope s w headers scope ∧
      ¬ PresentsBroken s headers

end Cases

/-- The claims of a token can be read for what is asked of them: they name an address, and they
list scopes or have none. -/
structure Readable (claims : Claims) : Prop where
  named : ∃ email, subject? claims = some email
  listed : ∃ granted, scopes claims = .ok granted ∧ ∀ scope, scope ∈ granted ↔ Lists claims scope

/-- Issued claims can be read. -/
theorem IssuedClaims.readable {claims : Claims} {use : Use} {email : String}
    (h : IssuedClaims claims use (some email)) (nonempty : email ≠ "") : Readable claims := by
  refine ⟨⟨email, subject?_eq_some_iff.2 ⟨h.subject, nonempty⟩⟩, ?_⟩
  cases scope : Keyed.lookup claims "scope" with
  | none => exact ⟨[], by simp [scopes, scope], by simp [Lists, scope]⟩
  | some v =>
    rcases h.scope v scope with ⟨text, rfl⟩
    exact ⟨words text, by simp [scopes, scope], by simp [Lists, scope]⟩

section Verdicts

variable {s : Service} {w : World} {headers : Headers} {scope t : String} {claims : Claims}

/-- A presented token that verifies can be read. -/
theorem IssuedOrUnverified.readable (h : IssuedOrUnverified s w headers)
    (presented : Presents headers t) (verified : s.tokens.verified w.clock t = .ok claims) :
    Readable claims := by
  rcases h t presented with ⟨use, email, nonempty, issued⟩ | unverified
  · rcases claims_of_issued issued with ⟨c, read, carried⟩
    rcases exists_read_of_verified verified with ⟨c', read', rfl⟩
    rw [ReadsAs.unique ⟨_, read'⟩ read]
    exact carried.readable nonempty
  · exact absurd verified (unverified claims)

/-- A token that verifies is answered by its member and its scopes. -/
theorem run_requireScope_of_readable (presented : Presents headers t)
    (verified : s.tokens.verified w.clock t = .ok claims) (readable : Readable claims) :
    (∀ m, StandsFor claims w m → Lists claims scope →
        ((s.requireScope none headers scope).runIn w).1 = .ok (.ok m)) ∧
      (∀ m, StandsFor claims w m → ¬ Lists claims scope →
        ((s.requireScope none headers scope).runIn w).1 = .ok (.error (.missingScope scope))) ∧
      ((¬ ∃ m, StandsFor claims w m) →
        ((s.requireScope none headers scope).runIn w).1 = .ok (.error .unauthenticated)) := by
  rcases readable.named with ⟨email, named⟩
  rcases readable.listed with ⟨granted, listed, mem⟩
  have stands (m : Member) := bearerOf_eq_some_iff (w := w) (m := m) named
  rw [run_requireScope_of_verified (presents_iff.1 presented) verified]
  refine ⟨?_, ?_, ?_⟩
  · intro m standsFor lists
    have holds : holds granted scope = true := by simpa [holds] using (mem scope).2 lists
    simp [(stands m).2 standsFor, listed, holds]
  · intro m standsFor lacks
    have holds : holds granted scope = false := by simpa [holds] using mt (mem scope).1 lacks
    simp [(stands m).2 standsFor, listed, holds]
  · intro nobody
    rcases exists_bearerOf named w with ⟨found, bearer⟩
    cases found with
    | none => simp [bearer]
    | some m => exact absurd ⟨m, (stands m).1 bearer⟩ nobody

/-- An outcome is the right answer when each case is answered: no case is left out, and the
answers differ. -/
theorem Decides.of_answers {verdict : Except Failure (Except Denial Member)}
    (granted : ∀ m, Grants s w headers scope m → verdict = .ok (.ok m))
    (forbidden : LacksScope s w headers scope → verdict = .ok (.error (.missingScope scope)))
    (broken : PresentsBroken s headers → Refuses verdict .brokenToken)
    (unauthenticated : (¬ ∃ m, Grants s w headers scope m) → ¬ LacksScope s w headers scope →
      ¬ PresentsBroken s headers → verdict = .ok (.error .unauthenticated)) :
    Decides s w headers scope verdict := by
  have answered : (∃ m, Grants s w headers scope m ∧ verdict = .ok (.ok m)) ∨
      (LacksScope s w headers scope ∧ verdict = .ok (.error (.missingScope scope))) ∨
      (PresentsBroken s headers ∧ ∃ c, verdict = .error (.refused c)) ∨
      (((¬ ∃ m, Grants s w headers scope m) ∧ ¬ LacksScope s w headers scope ∧
        ¬ PresentsBroken s headers) ∧ verdict = .ok (.error .unauthenticated)) := by
    by_cases grants : ∃ m, Grants s w headers scope m
    · exact .inl (grants.imp fun m grants => ⟨grants, granted m grants⟩)
    by_cases lacks : LacksScope s w headers scope
    · exact .inr (.inl ⟨lacks, forbidden lacks⟩)
    by_cases isBroken : PresentsBroken s headers
    · exact .inr (.inr (.inl ⟨isBroken, (broken isBroken).imp fun c refused => refused.1⟩))
    · exact .inr (.inr (.inr ⟨⟨grants, lacks, isBroken⟩, unauthenticated grants lacks isBroken⟩))
  refine ⟨fun m => ⟨fun same => ?_, granted m⟩, ⟨fun same => ?_, forbidden⟩,
    ⟨fun refused => ?_, broken⟩, ⟨fun same => ?_, fun h => unauthenticated h.1 h.2.1 h.2.2⟩⟩
  · rcases answered with ⟨m', grants, answer⟩ | ⟨_, answer⟩ | ⟨_, c, answer⟩ | ⟨_, answer⟩ <;>
      rw [answer] at same <;> cases same
    exact grants
  · rcases answered with ⟨m', _, answer⟩ | ⟨lacks, answer⟩ | ⟨_, c, answer⟩ | ⟨_, answer⟩ <;>
      rw [answer] at same <;> cases same
    exact lacks
  · rcases refused with ⟨c', same, _⟩
    rcases answered with ⟨m', _, answer⟩ | ⟨_, answer⟩ | ⟨isBroken, c, answer⟩ | ⟨_, answer⟩ <;>
      rw [answer] at same <;> cases same
    exact isBroken
  · rcases answered with ⟨m', _, answer⟩ | ⟨_, answer⟩ | ⟨_, c, answer⟩ | ⟨nothing, answer⟩ <;>
      rw [answer] at same <;> cases same
    exact nothing

/-- A token that is broken when it is verified has not the structure of one. -/
theorem not_structured_of_broken {b : BrokenToken}
    (h : s.tokens.verified w.clock t = .error (.broken b)) :
    ¬ ∃ c, Structured s.tokens.nesting t c := by
  intro given
  rcases given with ⟨c, structured⟩
  rw [Processor.verified, read_eq_ok_iff.2 structured] at h
  simp only at h
  split at h
  · cases h
  · cases h
  · split at h <;> cases h

/-- Where verifying the token does not end in a fault, each case has its answer. -/
theorem decides_of_no_fault (presented : IssuedOrUnverified s w headers)
    (sound : ¬ ∃ f, PresentsFault s w headers f) :
    Decides s w headers scope ((s.requireScope none headers scope).runIn w).1 := by
  apply Decides.of_answers
  case granted =>
    rintro m ⟨claims, ⟨t, presents, verified, standsFor⟩, lists⟩
    exact (run_requireScope_of_readable presents verified
      (presented.readable presents verified)).1 m standsFor lists
  case forbidden =>
    rintro ⟨claims, m, ⟨t, presents, verified, standsFor⟩, lacks⟩
    exact (run_requireScope_of_readable presents verified
      (presented.readable presents verified)).2.1 m standsFor lacks
  case broken =>
    rintro ⟨t, presents, notStructured⟩
    have shallow : ¬ NestedTooDeep s.tokens.nesting t := fun deep =>
      sound ⟨.nestedTooDeep, t, presents, by
        rw [Processor.verified, read_eq_nested_iff.2 ⟨rfl, deep⟩]⟩
    rcases read_of_not_structured notStructured shallow with ⟨b, read⟩
    rw [run_requireScope_of_error (presents_iff.1 presents) (verified_of_broken read) rfl]
    exact ⟨_, rfl, rfl⟩
  case unauthenticated =>
    intro nobody allListed structured
    cases found : bearerToken? headers with
    | none => rw [run_requireScope_of_anonymous found]
    | some t =>
      have presents := presents_iff.2 found
      cases verified : s.tokens.verified w.clock t with
      | ok claims =>
        refine (run_requireScope_of_readable presents verified
          (presented.readable presents verified)).2.2 ?_
        rintro ⟨m, standsFor⟩
        have identified : Identified s w headers claims m := ⟨t, presents, verified, standsFor⟩
        by_cases lists : Lists claims scope
        · exact nobody ⟨m, claims, identified, lists⟩
        · exact allListed ⟨claims, m, identified, lists⟩
      | error e =>
        rcases verified_error_cases verified with ⟨b, rfl⟩ | ⟨u, rfl⟩ | ⟨f, rfl⟩
        · exact absurd ⟨t, presents, not_structured_of_broken verified⟩ structured
        · rw [run_requireScope_of_unverified found verified]
        · exact absurd ⟨f, t, presents, verified⟩ sound

/-- A fault in verifying the token is the end of the request. -/
theorem run_requireScope_of_fault {f : Fault} (h : PresentsFault s w headers f)
    (scope : String) :
    (s.requireScope none headers scope).runIn w = (.error (.fault f), w) := by
  rcases h with ⟨t, presents, verified⟩
  exact run_requireScope_of_error (presents_iff.1 presents) verified rfl

/-- A fault is the right answer to no request. -/
theorem not_decides_fault (f : Fault) : ¬ Decides s w headers scope (.error (.fault f)) := by
  intro decides
  have nobody : ¬ ∃ m, Grants s w headers scope m := by
    rintro ⟨m, grants⟩
    cases (decides.granted m).2 grants
  have allListed : ¬ LacksScope s w headers scope := fun lacks => by
    cases decides.forbidden.2 lacks
  have structured : ¬ PresentsBroken s headers := fun isBroken => by
    rcases decides.broken.2 isBroken with ⟨c, refused, _⟩
    cases refused
  cases decides.unauthenticated.2 ⟨nobody, allListed, structured⟩

/-- Under a plain secret, verifying a token ends in a fault when its payload is nested too deep,
or when it is signed and its claims are of a kind that the checks cannot handle. -/
theorem exists_fault_iff (plain : PlainSecret s.tokens.secret) (now : Float) :
    (∃ f, s.tokens.verified now t = .error (.fault f)) ↔
      NestedTooDeep s.tokens.nesting t ∨ ∃ c f, Structured s.tokens.nesting t c ∧
        c.signature = Digest.mac (utf8 s.tokens.secret) c.signed ∧
        check c.claims now = .error (.fault f) := by
  constructor
  · rintro ⟨f, h⟩
    unfold Processor.verified at h
    split at h
    · next e read =>
      rcases Except.error.inj h with rfl
      exact .inl (read_eq_nested_iff.1 read).2
    · next c read =>
      simp only [plain.verify_eq] at h
      split at h
      · next broken => cases broken
      · cases h
      · next signed =>
        have same : Digest.mac (utf8 s.tokens.secret) c.signed = c.signature := by
          simpa using signed
        split at h
        · cases h
        · cases h
        · next f' fault =>
          exact .inr ⟨c, f', read_eq_ok_iff.1 read, same.symm, fault⟩
  · rintro (deep | ⟨c, f, structured, signed, fault⟩)
    · exact ⟨.nestedTooDeep, by rw [Processor.verified, read_eq_nested_iff.2 ⟨rfl, deep⟩]⟩
    · refine ⟨f, ?_⟩
      rw [Processor.verified, read_eq_ok_iff.2 structured]
      simp only [plain.verify_eq, signed, decide_true, fault]

end Verdicts

/-! ## Tokens that were issued -/

section IssuedTokens

variable {claims : Claims} {granted : List String} {memberId : Option String} {m : Member}

/-- A live access token stands for the enabled member with its address. -/
theorem standsFor_timedClaims (h : Carries claims m.email granted memberId access) {w : World}
    {expiry : Float} (live : w.clock < expiry) (stored : m ∈ w.directory.members)
    (enabled : m.enabled = true) (issuedAt : Float) (serial : Nat) :
    StandsFor (timedClaims claims issuedAt expiry serial) w m where
  live := by
    rw [h.issuable.isLive_timed serial]
    exact decide_eq_true live
  type := (lookup_timedClaims claims issuedAt expiry serial (by decide)).trans h.type
  subject := (lookup_timedClaims claims issuedAt expiry serial (by decide)).trans h.subject
  stored := stored
  enabled := enabled

/-- A token lists the scopes that it was issued with, and no others. -/
theorem lists_timedClaims_iff {email type : String}
    (h : Carries claims email granted memberId type) (words : ∀ x ∈ granted, IsWord x)
    (issuedAt expiry : Float) (serial : Nat) (scope : String) :
    Lists (timedClaims claims issuedAt expiry serial) scope ↔ scope ∈ granted := by
  have apart : Text.words (joined granted) = granted := words_intercalate words
  have carried := (lookup_timedClaims claims issuedAt expiry serial (by decide)).trans h.scope
  unfold Lists
  rw [carried]
  split
  · next none => simp [none]
  · simp [apart]

end IssuedTokens

/-! ## Roles -/

/-- A member under another role. -/
def withRole (roles : Member → Role) (m : Member) : Member :=
  { m with role := roles m }

/-- Two worlds are the same for a request at one time, but for the roles of their members. -/
structure SameButRoles (roles : Member → Role) (w w' : World) : Prop where
  clock : w'.clock = w.clock
  members : w'.directory.members = w.directory.members.map (withRole roles)

namespace SameButRoles

variable {roles : Member → Role} {w w' : World} (same : SameButRoles roles w w')
include same

/-- Under an address the same member is found, but for its role. -/
theorem findByEmail_eq (email : String) :
    w'.directory.findByEmail email = (w.directory.findByEmail email).map (withRole roles) := by
  rw [Directory.findByEmail, same.members, List.find?_map]
  rfl

/-- Claims stand for the same member, but for its role. -/
theorem bearerOf_eq (claims : Claims) :
    bearerOf claims w' = (bearerOf claims w).map (Option.map (withRole roles)) := by
  unfold bearerOf
  rw [same.clock]
  split
  · split
    · next email _ =>
      rw [same.findByEmail_eq email]
      cases w.directory.findByEmail email with
      | none => rfl
      | some m => cases enabled : m.enabled <;> simp [Option.filter, withRole, enabled, Except.map]
    · rfl
  · rfl

/-- A request is answered the same, but for the role of the member. -/
theorem run_requireScope_eq (s : Service) (headers : Headers) (scope : String) :
    ((s.requireScope none headers scope).runIn w').1 =
      ((s.requireScope none headers scope).runIn w).1.map (Except.map (withRole roles)) := by
  cases found : bearerToken? headers with
  | none => rw [run_requireScope_of_anonymous found, run_requireScope_of_anonymous found]; rfl
  | some t =>
    cases verified : s.tokens.verified w.clock t with
    | ok claims =>
      have verified' : s.tokens.verified w'.clock t = .ok claims := same.clock ▸ verified
      rw [run_requireScope_of_verified found verified, run_requireScope_of_verified found verified',
        same.bearerOf_eq claims]
      cases bearerOf claims w with
      | error e => rfl
      | ok bearer =>
        cases bearer with
        | none => rfl
        | some m =>
          cases listed : scopes claims with
          | error f => rfl
          | ok granted => cases holds : holds granted scope <;> simp [Except.map, holds]
    | error e =>
      have verified' : s.tokens.verified w'.clock t = .error e := same.clock ▸ verified
      rw [run_requireScope_of_not_verified found verified,
        run_requireScope_of_not_verified found verified']
      cases softened (.error e) <;> rfl

end SameButRoles

/-! ## Callers that are known -/

/-- Asking for a scope leaves the world as it is. -/
theorem run_requireScope_world (s : Service) (w : World) (headers : Headers) (scope : String) :
    ((s.requireScope none headers scope).runIn w).2 = w := by
  cases found : bearerToken? headers with
  | none => rw [run_requireScope_of_anonymous found]
  | some t =>
    cases verified : s.tokens.verified w.clock t with
    | ok claims => rw [run_requireScope_of_verified found verified]
    | error e => rw [run_requireScope_of_not_verified found verified]

/-- It makes no difference to a request that it was asked before who makes it: where that found
the caller, the request is answered the same from then on, and where it failed, so does the
request, then and when it is asked again. -/
structure SameOnceAsked (s : Service) (w : World) (headers : Headers) (scope : String) : Prop where
  found : ∀ c w', (s.identify none headers).runIn w = (.ok c, w') → ∀ later,
    ((s.requireScope (some c) headers scope).runIn later).1 =
      ((s.requireScope none headers scope).runIn w).1
  failed : ∀ e w', (s.identify none headers).runIn w = (.error e, w') →
    ((s.requireScope none headers scope).runIn w').1 = .error e ∧
      ((s.requireScope none headers scope).runIn w).1 = .error e

/-- The caller of a request is kept as it was found. -/
theorem sameOnceAsked (s : Service) (w : World) (headers : Headers) (scope : String) :
    SameOnceAsked s w headers scope := by
  constructor
  · intro c w' identified later
    simp [Service.requireScope, identified, identify_of_known]
  · intro e w' failed
    have run : (s.requireScope none headers scope).runIn w = (.error e, w') := by
      simp [Service.requireScope, failed]
    have same : w' = w := by
      rw [← run_requireScope_world s w headers scope, run]
    exact ⟨by rw [same, run], by rw [run]⟩

/-! ## Every request -/

/-- A request that asks for a scope, with a token that was issued to a subject with an address or
with one that does not verify:

- it is answered as it should be unless verifying the token ends in a fault, and then the request
  ends in that fault;
- under a plain secret, only a payload that is nested too deep is such a token, or one that is
  signed with claims that the checks cannot handle;
- the roles of the members have no part in the answer;
- and it is the same when the caller is known already. -/
theorem scope_demand_decided (s : Service) (w : World) (headers : Headers) (scope : String)
    (presented : IssuedOrUnverified s w headers) :
    (Decides s w headers scope ((s.requireScope none headers scope).runIn w).1 ↔
        ¬ ∃ f, PresentsFault s w headers f) ∧
      (∀ f, PresentsFault s w headers f →
        ((s.requireScope none headers scope).runIn w).1 = .error (.fault f)) ∧
      (PlainSecret s.tokens.secret → ∀ t : String,
        (∃ f, s.tokens.verified w.clock t = .error (.fault f)) ↔
          NestedTooDeep s.tokens.nesting t ∨ ∃ c f, Structured s.tokens.nesting t c ∧
            c.signature = Digest.mac (utf8 s.tokens.secret) c.signed ∧
            check c.claims w.clock = .error (.fault f)) ∧
      (∀ roles w', SameButRoles roles w w' →
        ((s.requireScope none headers scope).runIn w').1 =
          ((s.requireScope none headers scope).runIn w).1.map (Except.map (withRole roles))) ∧
      SameOnceAsked s w headers scope := by
  have faults : ∀ f, PresentsFault s w headers f →
      ((s.requireScope none headers scope).runIn w).1 = .error (.fault f) :=
    fun f fault => congrArg Prod.fst (run_requireScope_of_fault fault scope)
  refine ⟨⟨?_, decides_of_no_fault presented⟩, faults, fun plain t => exists_fault_iff plain _,
    fun roles w' same => same.run_requireScope_eq s headers scope, sameOnceAsked s w headers scope⟩
  rintro decides ⟨f, fault⟩
  rw [faults f fault] at decides
  exact not_decides_fault f decides

/-- The headers of a request with a bearer token. -/
def bearing (t : String) : Headers :=
  [("Authorization", "Bearer " ++ t)]

/-- Such a request presents its token. -/
theorem presents_bearing {t : String} (word : IsWord t) : Presents (bearing t) t :=
  ⟨[], "Authorization", t, [], rfl, by decide, by simp, trim_of_forall word.2, word.1⟩

/-- The token with which the newcomer may read its own record. -/
def readersToken : String :=
  issuedText "secret" (accessClaims "a@x" ["ef:members:read:own"] "m1") 1700000000.5
    1700000900.5 1

/-- With that token the newcomer may read its own record, and not those of others. -/
theorem newcomer_reads_own_record :
    ((plainService.requireScope none (bearing readersToken) "ef:members:read:own").runIn
        newcomersWorld).1 = .ok (.ok newcomer) ∧
      ((plainService.requireScope none (bearing readersToken) "ef:members:read:all").runIn
        newcomersWorld).1 = .ok (.error (.missingScope "ef:members:read:all")) := by
  have finite := newcomersWorld_clock
  obtain ⟨ttl, live⟩ := newcomersWorld_short
  obtain ⟨stored, -⟩ := Directory.findByEmail_eq_some_iff.1 newcomersWorld_newcomer
  have word : ∀ x ∈ ["ef:members:read:own"], IsWord x := by
    simp only [List.mem_singleton, forall_eq]
    have plain : ("ef:members:read:own".toList.all fun c => !isBlank c) = true := by decide
    exact ⟨by decide, fun c hc => by simpa using List.all_eq_true.1 plain c hc⟩
  have carries := carries_accessClaims "a@x" word "m1"
  rw [show inOrder ["ef:members:read:own"] = ["ef:members:read:own"] by simp [inOrder]] at carries
  have presents : Presents (bearing readersToken) readersToken :=
    presents_bearing (isWord_three _ _ _)
  have verified : plainService.tokens.verified newcomersWorld.clock readersToken = .ok _ :=
    carries.issuable.verified_issuedText 1 plainService_secret finite newcomersWorld.clock
  have access : Issued readersToken .bearer "a@x" :=
    .access (run_mint (w := newcomersWorld) plainService_secret _ ttl)
  have presented : IssuedOrUnverified plainService newcomersWorld (bearing readersToken) := by
    intro t h
    exact .inl ⟨.bearer, "a@x", by decide, h.unique presents ▸ access⟩
  have sound : ¬ ∃ f, PresentsFault plainService newcomersWorld (bearing readersToken) f := by
    rintro ⟨f, t, h, fault⟩
    rw [h.unique presents, verified] at fault
    cases fault
  have identified : Identified plainService newcomersWorld (bearing readersToken) _ newcomer :=
    ⟨_, presents, verified,
      standsFor_timedClaims (m := newcomer) carries live stored rfl _ _⟩
  have decides (scope : String) :=
    (scope_demand_decided plainService newcomersWorld (bearing readersToken) scope presented).1.2
      sound
  have lists := lists_timedClaims_iff carries word 1700000000.5 1700000900.5 1
  exact ⟨((decides _).granted newcomer).2 ⟨_, identified, (lists _).2 (by simp)⟩,
    (decides _).forbidden.2 ⟨_, _, identified, mt (lists _).1 (by simp)⟩⟩

/-- The payload of this token is no JSON object, so that the token is a broken one; but a request
that presents it to the usual service is not told so: it ends in a fault, whatever the scope. -/
theorem nested_bearer_not_decided :
    PresentsBroken plainService (bearing (nestedToken 1500)) ∧ ∀ scope,
      ((plainService.requireScope none (bearing (nestedToken 1500)) scope).runIn
        (.start 1700000000.5)).1 = .error (.fault .nestedTooDeep) ∧
      ¬ Decides plainService (.start 1700000000.5) (bearing (nestedToken 1500)) scope
        ((plainService.requireScope none (bearing (nestedToken 1500)) scope).runIn
          (.start 1700000000.5)).1 := by
  have nested : NestedTooDeep plainService.tokens.nesting (nestedToken 1500) :=
    nestedTooDeep_nestedToken (by decide)
  have presents : Presents (bearing (nestedToken 1500)) (nestedToken 1500) :=
    presents_bearing (isWord_three _ _ [])
  have fault : PresentsFault plainService (.start 1700000000.5) (bearing (nestedToken 1500))
      .nestedTooDeep :=
    ⟨_, presents, by rw [Processor.verified, read_eq_nested_iff.2 ⟨rfl, nested⟩]⟩
  refine ⟨⟨_, presents, nested.not_structured⟩, fun scope => ?_⟩
  have answer := congrArg Prod.fst (run_requireScope_of_fault fault scope)
  refine ⟨answer, ?_⟩
  rw [answer]
  exact not_decides_fault .nestedTooDeep

end Gatehouse.Account
