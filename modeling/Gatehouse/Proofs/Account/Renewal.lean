import Gatehouse.Proofs.Account.Orders
import Gatehouse.Proofs.Account.Sessions

/-!
# Renewing sessions

A service that is asked to renew a session looks at three things and at nothing else: what the
token claims, what time it is, and which member has the address that the token names.  So it does
not matter how often the token has renewed a session before, or what has happened to the members
since.  The session that is renewed is that of the member as it is stored now, and it carries the
token that was presented.

Renewing fails with a fault, and not with a refusal, where an access token could not be given an
expiry, because its lifetime is out of the range of floating point numbers.

Main results:

- `outcome_refresh_of_verified`: the outcome of renewing, by what the token claims.
- `Order.outcome_refresh_of_due`, `Order.refuses_refresh_of_not_due`: when a token renews.
- `renewals_eq_map`: renewing again and again.
- `renewal_decided_by_expiry_and_member`: when an issued token renews a session, and which.
-/

namespace Gatehouse.Token

/-- What a token that verifies is worth as a refresh token, by what its claims tell. -/
theorem validateRefresh_eq_of_verified {p : Processor} {now : Float} {token : Option String}
    {claims : Claims} (verified : p.verified now token = .ok claims) :
    p.validateRefresh now token =
      if isLive claims now then
        if Json.isString (Keyed.lookup claims "type") refresh then .ok true
        else .error (.refused (.notRefresh (Keyed.lookup claims "type")))
      else .ok false := by
  simp only [Processor.validateRefresh, verified, softened, bind, Except.bind]
  cases isLive claims now <;> rfl

end Gatehouse.Token

namespace Gatehouse.Account

open Gatehouse.Text Gatehouse.Token Gatehouse.Flow

/-! ## One renewal -/

section Outcome

variable {s : Service} {w : World} {t : String}

/-- The outcome of renewing on a token that verifies, by what its claims tell. -/
theorem outcome_refresh_of_verified {claims : Claims} {email : String}
    (verified : s.tokens.verified w.clock t = .ok claims) (named : subject? claims = some email) :
    ((s.refresh t).runIn w).1 =
      if isLive claims w.clock then
        if Json.isString (Keyed.lookup claims "type") Token.refresh then
          match (w.directory.findByEmail email).filter Member.enabled with
          | some m => ((s.issue m t).runIn (w.logged (Audit.attempt "refresh"))).1
          | none => .error (.refused .refreshOrphaned)
        else .error (.refused (.notRefresh (Keyed.lookup claims "type")))
      else .error (.refused .refreshExpired) := by
  have subject : s.tokens.subject w.clock t = .ok email := by
    simp [Processor.subject, verified, named, bind, Except.bind, pure, Except.pure]
  have valid := validateRefresh_eq_of_verified verified
  rw [Service.refresh, run_audited]
  simp only [run_bind, run_now, run_lift, World.clock_logged]
  cases live : isLive claims w.clock with
  | false =>
    rw [live] at valid
    simp [valid, asInvalid]
  | true =>
    rw [live] at valid
    cases type : Json.isString (Keyed.lookup claims "type") Token.refresh with
    | false =>
      rw [type] at valid
      simp [valid, asInvalid]
    | true =>
      rw [type] at valid
      simp only [valid, subject, asInvalid, if_true, Bool.not_true, Bool.false_eq_true, if_false,
        run_bind, run_lift, run_directory, World.directory_logged]
      cases w.directory.findByEmail email with
      | none => rfl
      | some m => cases enabled : m.enabled <;> simp [Option.filter, enabled]

/-- Under a plain secret the session of a member is issued on a presented token if its access
token has an expiry. -/
theorem outcome_issue_presented (plain : PlainSecret s.tokens.secret) (m : Member) (t : String) :
    ((s.issue m t).runIn w).1 =
      match expiryOf w.clock s.tokens.accessTtl with
      | .ok expiry => .ok ⟨m, issuedText s.tokens.secret
          (accessClaims m.email m.role.scopeTexts m.id) w.clock expiry (w.ids + 1), t,
          m.role.scopeTexts⟩
      | .error f => .error (.fault f) := by
  simp only [Service.issue, Service.issueAccess, Service.mint, run_bind, run_now, run_liftFault]
  cases expiryOf w.clock s.tokens.accessTtl with
  | error f => rfl
  | ok expiry =>
    simp only [Except.mapError, run_freshId, seal_eq_issuedText plain, run_note, run_pure]

end Outcome

/-! ## Orders that are due -/

namespace Order

variable {s : Service} {o : Order} {w₀ w : World} {t : String} {expiry : Float} {m : Member}

/-- A token that was ordered is due to renew the session of a member: it is a refresh token, it
has not expired, and the member is stored under its address and enabled. -/
structure Due (o : Order) (expiry : Float) (w : World) (m : Member) : Prop where
  renewal : o.use = .renewal
  live : w.clock < expiry
  found : w.directory.findByEmail o.email = some m
  enabled : m.enabled = true

/-- What an ordered token claims when it verifies. -/
structure Reads (s : Service) (o : Order) (t : String) (expiry : Float) (claims : Claims) :
    Prop where
  verified : ∀ now, s.tokens.verified now t = .ok claims
  live : ∀ now, isLive claims now = decide (now < expiry)
  type : Keyed.lookup claims "type" = some (.string o.use.type)
  named : subject? claims = some o.email

/-- A token that is issued at a finite time verifies under its secret ever after, and claims what
it was ordered with. -/
theorem exists_reads (plain : PlainSecret s.tokens.secret) (named : o.email ≠ "")
    (finite : (Number.toRat? w₀.clock).isSome) (expiry : Float) (serial : Nat) :
    ∃ claims, Reads s o (issuedText s.tokens.secret o.claims w₀.clock expiry serial) expiry
      claims := by
  have subject := lookup_timedClaims o.claims w₀.clock expiry serial (show "sub" ∉ _ by decide)
  have type := lookup_timedClaims o.claims w₀.clock expiry serial (show "type" ∉ _ by decide)
  exact ⟨_, o.issuable_claims.verified_issuedText serial plain finite,
    o.issuable_claims.isLive_timed serial, type.trans o.writable_claims.type,
    subject?_eq_some_iff.2 ⟨subject.trans o.writable_claims.subject, named⟩⟩

/-- A token that is due is exchanged for a session of its member. -/
theorem outcome_refresh_of_due {claims : Claims} (reads : Reads s o t expiry claims)
    (due : o.Due expiry w m) :
    ((s.refresh t).runIn w).1 =
      ((s.issue m t).runIn (w.logged (Audit.attempt "refresh"))).1 := by
  have type := reads.type
  rw [due.renewal] at type
  rw [outcome_refresh_of_verified (reads.verified w.clock) reads.named, reads.live,
    decide_eq_true due.live, type]
  simp [Json.isString, Use.type, due.found, Option.filter, due.enabled]

/-- A token that is due for no member is refused as an invalid one. -/
theorem refuses_refresh_of_not_due {claims : Claims} (reads : Reads s o t expiry claims)
    (none : ¬ ∃ m, o.Due expiry w m) : Refuses ((s.refresh t).runIn w).1 .invalidToken := by
  rw [outcome_refresh_of_verified (reads.verified w.clock) reads.named, reads.live]
  split
  · next live =>
    split
    · next renewal =>
      split
      · next m found =>
        rcases Option.filter_eq_some_iff.1 found with ⟨found, enabled⟩
        have type : o.use.type = Token.refresh := by
          simpa using reads.type.symm.trans (Json.isString_eq_true_iff.1 renewal)
        have use : o.use = .renewal :=
          Use.type_injective (show o.use.type = Use.type .renewal from type)
        exact absurd ⟨m, use, of_decide_eq_true live, found, enabled⟩ none
      · exact ⟨_, rfl, rfl⟩
    · exact ⟨_, rfl, rfl⟩
  · exact ⟨_, rfl, rfl⟩

end Order

/-! ## What a renewed session carries -/

/-- The session that is renewed on an ordered token carries the token itself, its member as it is
stored now, and the scopes of the role that the member has now.  Its access token was signed for
these, and says so. -/
structure Renewed (s : Service) (o : Order) (t : String) (w : World) (session : Session) :
    Prop where
  refreshToken : session.refreshToken = t
  member : w.directory.findByEmail o.email = some session.member
  scopes : session.scopes = session.member.role.scopeTexts
  access : ∃ expiry serial, expiryOf w.clock s.tokens.accessTtl = .ok expiry ∧
    session.accessToken = issuedText s.tokens.secret
      (accessClaims session.member.email session.scopes session.member.id) w.clock expiry serial ∧
    ((Number.toRat? w.clock).isSome →
      Says s.tokens session.accessToken session.member.email session.scopes
        ((some session.member.id).filter (· ≠ "")) Token.access expiry)

/-- Renewing on an ordered token is as it should be: it succeeds exactly if the token is due, it
refuses the token as an invalid one if not, and the session that it renews carries the token and
what is stored now of the member. -/
structure RenewsWhenDue (s : Service) (o : Order) (t : String) (expiry : Float) (w : World) :
    Prop where
  succeeds_iff : (∃ session, ((s.refresh t).runIn w).1 = .ok session) ↔ ∃ m, o.Due expiry w m
  refuses : (∀ session, ((s.refresh t).runIn w).1 ≠ .ok session) →
    Refuses ((s.refresh t).runIn w).1 .invalidToken
  renews : ∀ session, ((s.refresh t).runIn w).1 = .ok session → Renewed s o t w session

namespace Order

variable {s : Service} {o : Order} {w₀ w : World} {t : String} {expiry : Float} {claims : Claims}

/-- A session is renewed only on a token that is due, and with what is stored now. -/
theorem renewed_of_refresh (plain : PlainSecret s.tokens.secret) (named : o.email ≠ "")
    (reads : Reads s o t expiry claims) {session : Session}
    (h : ((s.refresh t).runIn w).1 = .ok session) :
    (∃ m, o.Due expiry w m) ∧ Renewed s o t w session := by
  by_cases due : ∃ m, o.Due expiry w m
  · refine ⟨due, ?_⟩
    rcases due with ⟨m, due⟩
    have starts : (Operation.refresh t).Starts s w session ((s.refresh t).runIn w).2 :=
      ⟨session, Prod.ext h rfl, rfl⟩
    have run := (outcome_refresh_of_due reads due).symm.trans h
    rcases issued_of_run run with ⟨issuedTo, _, _⟩
    rcases issuedTo.member with rfl
    have address : session.member.email = o.email :=
      (Directory.findByEmail_eq_some_iff.1 due.found).2
    rcases starts.text plain with ⟨scopes, expiry', serial, times, text⟩
    refine ⟨issuedTo.refreshToken t rfl, due.found, scopes, expiry', serial, times, ?_, ?_⟩
    · rw [scopes, text]
    · exact fun finite => starts.shown plain (address ▸ named) finite times
  · rcases refuses_refresh_of_not_due reads due with ⟨c, refused, _⟩
    rw [h] at refused
    cases refused

/-- A token that is due renews a session if access tokens have a lifetime in range, and ends in a
fault if not. -/
theorem outcome_of_due (plain : PlainSecret s.tokens.secret) (reads : Reads s o t expiry claims)
    (due : ∃ m, o.Due expiry w m) :
    ((Number.floatOfInt? s.tokens.accessTtl).isSome →
        ∃ session, ((s.refresh t).runIn w).1 = .ok session) ∧
      (¬ (Number.floatOfInt? s.tokens.accessTtl).isSome →
        ((s.refresh t).runIn w).1 = .error (.fault .overflow)) := by
  rcases due with ⟨m, due⟩
  rw [outcome_refresh_of_due reads due, outcome_issue_presented plain, expiryOf]
  cases Number.floatOfInt? s.tokens.accessTtl <;> simp

/-- Renewing on a token that was issued at a finite time is as it should be exactly if the token
is not due, or access tokens have a lifetime in range. -/
theorem renewsWhenDue_iff (plain : PlainSecret s.tokens.secret) (named : o.email ≠ "")
    (reads : Reads s o t expiry claims) :
    RenewsWhenDue s o t expiry w ↔
      ((∃ m, o.Due expiry w m) → (Number.floatOfInt? s.tokens.accessTtl).isSome) := by
  constructor
  · intro h due
    by_contra endless
    rcases h.succeeds_iff.2 due with ⟨session, renewed⟩
    rw [(outcome_of_due plain reads due).2 endless] at renewed
    cases renewed
  · intro inRange
    have succeeds (due : ∃ m, o.Due expiry w m) :
        ∃ session, ((s.refresh t).runIn w).1 = .ok session :=
      (outcome_of_due plain reads due).1 (inRange due)
    refine ⟨⟨?_, succeeds⟩, ?_, fun session h => (renewed_of_refresh plain named reads h).2⟩
    · rintro ⟨session, h⟩
      exact (renewed_of_refresh plain named reads h).1
    · intro failed
      refine refuses_refresh_of_not_due reads fun due => ?_
      rcases succeeds due with ⟨session, renewed⟩
      exact failed session renewed

/-- A token that was issued at no finite time renews nothing. -/
theorem outcome_refresh_of_not_finite (plain : PlainSecret s.tokens.secret)
    (infinite : ¬ (Number.toRat? w₀.clock).isSome) (expiry : Float) (serial : Nat) (w : World) :
    ((s.refresh (issuedText s.tokens.secret o.claims w₀.clock expiry serial)).runIn w).1 =
      .error (if w₀.clock.isNaN then .refused .refreshExpired else .fault .overflow) := by
  have failed : s.tokens.verified w.clock
      (issuedText s.tokens.secret o.claims w₀.clock expiry serial) = _ :=
    o.issuable_claims.verified_of_not_finite serial plain infinite w.clock
  cases nan : w₀.clock.isNaN with
  | true =>
    rw [nan] at failed
    exact (run_refresh_of_unverified failed).1
  | false =>
    rw [nan] at failed
    exact (run_refresh_of_error failed rfl rfl).1

end Order

/-! ## Renewing again and again -/

/-- The outcomes of renewing a session again and again, each time with the refresh token of the
latest session, in worlds in which anything may have changed in between. -/
def renewals (s : Service) (t : String) : List World → List (Except Failure Session)
  | [] => []
  | w :: later =>
    let outcome := ((s.refresh t).runIn w).1
    let held := match outcome with
      | .ok session => session.refreshToken
      | .error _ => t
    outcome :: renewals s held later

/-- A session is renewed with the token that was presented for it. -/
theorem refreshToken_of_refresh {s : Service} {w : World} {t : String} {session : Session}
    (h : ((s.refresh t).runIn w).1 = .ok session) : session.refreshToken = t := by
  rcases opens_refresh.issued (Prod.ext h rfl) with ⟨_, ⟨_, rfl⟩, issuance⟩
  rcases issuance.issued with ⟨w₁, _, issued⟩
  exact (issued_of_run issued).1.refreshToken t rfl

/-- Renewing again and again is renewing on the first token each time: what it comes to at one
time does not depend on what it came to before. -/
theorem renewals_eq_map (s : Service) (t : String) (worlds : List World) :
    renewals s t worlds = worlds.map fun w => ((s.refresh t).runIn w).1 := by
  induction worlds with
  | nil => rfl
  | cons w later ih =>
    rw [renewals, List.map_cons]
    cases outcome : ((s.refresh t).runIn w).1 with
    | ok session => simp only [refreshToken_of_refresh outcome, ih]
    | error e => simp only [ih]

/-- When a token that was issued for an address under a plain secret renews a session, and which.

If the clock showed a finite time when the token was issued, then at every time and with any
members, renewing succeeds exactly if the token is a refresh token, it has not expired, and the
member with that address is stored and enabled; it refuses the token as an invalid one if not; and
the session that it renews carries the token itself and is that of the member as it is stored now,
with the scopes of its role.  The only exception are services whose access tokens have a lifetime
out of range: a token that is due ends in a fault there.

If the clock showed no finite time, the token never renews anything.

All this holds as well when the session has been renewed before, however often. -/
theorem renewal_decided_by_expiry_and_member (s : Service) (plain : PlainSecret s.tokens.secret)
    (o : Order) (named : o.email ≠ "") (w₀ : World) (t : String)
    (issued : ((o.issue s).runIn w₀).1 = .ok t) :
    ∃ expiry, expiryOf w₀.clock (o.ttl s.tokens) = .ok expiry ∧
      ((Number.toRat? w₀.clock).isSome → ∀ w,
        (RenewsWhenDue s o t expiry w ↔
          ((∃ m, o.Due expiry w m) → (Number.floatOfInt? s.tokens.accessTtl).isSome)) ∧
        ((∃ m, o.Due expiry w m) → ¬ (Number.floatOfInt? s.tokens.accessTtl).isSome →
          ((s.refresh t).runIn w).1 = .error (.fault .overflow))) ∧
      (¬ (Number.toRat? w₀.clock).isSome → ∀ w, ((s.refresh t).runIn w).1 =
        .error (if w₀.clock.isNaN then .refused .refreshExpired else .fault .overflow)) ∧
      ∀ worlds, renewals s t worlds = worlds.map fun w => ((s.refresh t).runIn w).1 := by
  rw [o.issue_eq_mint] at issued
  rcases text_of_mint plain issued with ⟨expiry, serial, times, rfl⟩
  refine ⟨expiry, times, fun finite w => ?_, fun infinite w => ?_, renewals_eq_map s _⟩
  · rcases Order.exists_reads plain named finite expiry serial with ⟨claims, reads⟩
    exact ⟨Order.renewsWhenDue_iff plain named reads,
      fun due => (Order.outcome_of_due plain reads due).2⟩
  · exact Order.outcome_refresh_of_not_finite plain infinite expiry serial w

/-- The world in which the newcomer has been disabled. -/
def disabledWorld : World :=
  { newcomersWorld with
    directory := ⟨[{ newcomer with enabled := false }], by decide, by decide⟩ }

/-- The refresh token of a newcomer renews its session, and no longer once the newcomer has been
disabled. -/
theorem newcomer_renews_until_disabled :
    ∃ t, (((Order.refresh "a@x").issue plainService).runIn newcomersWorld).1 = .ok t ∧
      (∃ session, ((plainService.refresh t).runIn newcomersWorld).1 = .ok session ∧
        session.refreshToken = t ∧ session.member = newcomer) ∧
      Refuses ((plainService.refresh t).runIn disabledWorld).1 .invalidToken ∧
      (renewals plainService t [newcomersWorld, disabledWorld]).map Except.isOk =
        [true, false] := by
  have finite := newcomersWorld_clock
  obtain ⟨times, live⟩ := newcomersWorld_long
  have issued : (((Order.refresh "a@x").issue plainService).runIn newcomersWorld).1 = .ok _ :=
    run_mint plainService_secret (refreshClaims "a@x") times
  obtain ⟨expiry, times', decided, _, again⟩ := renewal_decided_by_expiry_and_member plainService
    plainService_secret (.refresh "a@x") (by decide) newcomersWorld _ issued
  rcases Except.ok.inj (times.symm.trans times') with rfl
  have inRange : (Number.floatOfInt? plainService.tokens.accessTtl).isSome := by decide +kernel
  have rightly := (decided finite newcomersWorld).1.2 fun _ => inRange
  have rightlyThen := (decided finite disabledWorld).1.2 fun _ => inRange
  obtain ⟨session, renewed⟩ := rightly.succeeds_iff.2
    ⟨newcomer, rfl, live, newcomersWorld_newcomer, rfl⟩
  have carries := rightly.renews session renewed
  have member : session.member = newcomer :=
    Option.some.inj (carries.member.symm.trans newcomersWorld_newcomer)
  have stored : disabledWorld.directory.findByEmail "a@x" =
      some { newcomer with enabled := false } := by decide
  have refused := rightlyThen.refuses fun session' renewed' => by
    rcases rightlyThen.succeeds_iff.1 ⟨session', renewed'⟩ with ⟨m, due⟩
    rcases Option.some.inj (stored.symm.trans due.found) with rfl
    exact absurd due.enabled (by decide)
  refine ⟨_, issued, ⟨session, renewed, carries.refreshToken, member⟩, refused, ?_⟩
  rcases refused with ⟨c, refused, _⟩
  simp only [again, List.map_cons, List.map_nil, renewed, refused]
  rfl

/-- A service whose access tokens have a lifetime that is no floating point number. -/
def endlessService : Service :=
  { plainService with tokens := { plainService.tokens with accessTtl := 10 ^ 309 } }

/-- The refresh token of a newcomer does not renew its session there, though it is due: it ends
in a fault, which is no refusal. -/
theorem due_token_ends_in_fault :
    ∃ t, (((Order.refresh "a@x").issue endlessService).runIn newcomersWorld).1 = .ok t ∧
      (Order.refresh "a@x").Due 1700604800.5 newcomersWorld newcomer ∧
      ((endlessService.refresh t).runIn newcomersWorld).1 = .error (.fault .overflow) ∧
      ¬ RenewsWhenDue endlessService (.refresh "a@x") t 1700604800.5 newcomersWorld := by
  have finite := newcomersWorld_clock
  obtain ⟨times, live⟩ := newcomersWorld_long
  have plain : PlainSecret endlessService.tokens.secret := plainService_secret
  have endless : ¬ (Number.floatOfInt? endlessService.tokens.accessTtl).isSome := by decide +kernel
  have issued : (((Order.refresh "a@x").issue endlessService).runIn newcomersWorld).1 = .ok _ :=
    run_mint plain (refreshClaims "a@x") times
  have due : (Order.refresh "a@x").Due 1700604800.5 newcomersWorld newcomer :=
    ⟨rfl, live, newcomersWorld_newcomer, rfl⟩
  rcases Order.exists_reads plain (show (Order.refresh "a@x").email ≠ "" by decide) finite
    1700604800.5 1 with ⟨claims, reads⟩
  have outcome := (Order.outcome_of_due plain reads ⟨newcomer, due⟩).2 endless
  exact ⟨_, issued, due, outcome, fun rightly =>
    endless ((Order.renewsWhenDue_iff plain (by decide) reads).1 rightly ⟨newcomer, due⟩)⟩

end Gatehouse.Account
