import Gatehouse.Proofs.Web.Throttling

/-!
# What the guard charges for

A request asks for the options of a path, or its address starts with none of the limited paths:
then the guard leaves the limiter as it is and passes the request on.  Every other request is
charged one call of its client, no more and no less, whether or not there is an endpoint for it.
If the bucket of the client is short, the request is turned away, and then nothing is left of it
but that call and two lines in the log.

A client is known by the first address that its request was forwarded for.  Later addresses and
the peer of the connection make no difference.

Main results:

- `costs_eq_true_iff`: which requests are charged.
- `turnedAway_of_denied`: what is left of a request that is turned away.
- `clientKey_of_forwardedFor`: requests that were forwarded for one client have one key.
- `guard_charges_exactly`: the guard charges the requests under the limited paths, once each.
-/

namespace Gatehouse.Web

open Gatehouse.Text Gatehouse.Throttle

/-! ## Clients -/

/-- A text is the first entry of the list of addresses that a request was forwarded for: what
stands before the first comma, without the blanks around it. -/
def ForwardedFor (headers : Headers) (entry : List Char) : Prop :=
  ∃ list first rest, first? headers "x-forwarded-for" = some list ∧
    list.toList = first ++ rest ∧ ',' ∉ first ∧ (rest = [] ∨ rest.head? = some ',') ∧
    entry = trimList isBlank first

/-- The first entry is the client of a request, unless it is blank: neither the later entries nor
the peer make a difference. -/
theorem clientKey_of_forwardedFor {headers : Headers} {entry : List Char}
    (given : ForwardedFor headers entry) (proper : entry ≠ []) (peer : Option Peer) :
    clientKey headers peer = String.ofList entry := by
  rcases given with ⟨list, first, rest, header, text, before, boundary, rfl⟩
  have cut : list.toList.takeWhile (· ≠ ',') = first := by
    have inside : ∀ c ∈ first, (decide (c ≠ ',')) = true := by
      intro c hc
      exact decide_eq_true fun same => before (same ▸ hc)
    rw [text, List.takeWhile_append_of_pos inside]
    rcases boundary with rfl | comma
    · simp
    · rcases List.head?_eq_some_iff.1 comma with ⟨others, rfl⟩
      simp
  apply clientKey_of_firstHop
  simp only [firstHop?, header, cut, List.isEmpty_iff, proper, if_false]

namespace Site

variable {site : Site} {r : Request} {s : Server} {run : Endpoint → Flow Response}

/-! ## Requests that are charged -/

/-- A request is charged for: it does not ask for options, and one of the limited paths begins the
path of its address. -/
def Limited (site : Site) (r : Request) : Prop :=
  r.method ≠ "OPTIONS" ∧
    ∃ start ∈ site.settings.limitedPaths, start.toList <+: r.shownPath.toList

/-- A request costs a token exactly when it is one of those that are charged for. -/
theorem costs_eq_true_iff : site.costs r = true ↔ site.Limited r := by
  simp [costs, Limited, underAny, List.any_eq_true]

/-- A question of a browser is free. -/
theorem isPreflight_of_limited (h : site.Limited r) : OriginPolicy.isPreflight r = false := by
  simp [OriginPolicy.isPreflight, h.1]

/-- The limiter after one call of the client of a request. -/
def limiterAfterCall (r : Request) (s : Server) : Limiter Float :=
  (s.limiter.attempt (clientKey r.headers r.peer) s.world.clock).2

/-- The client of a request may call: the bucket that it finds holds a whole token. -/
def MayCall (r : Request) (s : Server) : Prop :=
  1 ≤ (s.limiter.found (clientKey r.headers r.peer) s.world.clock).tokens

instance : Decidable (MayCall r s) :=
  inferInstanceAs (Decidable (1 ≤ (s.limiter.found _ s.world.clock).tokens))

/-! ## The three ways through the guard -/

/-- What the layers inside the guard make of a request, on a server with a new limiter. -/
def passedOn (site : Site) (r : Request) (run : Endpoint → Flow Response) (s : Server)
    (l : Limiter Float) : Except Failure Response × Server :=
  (((site.inner r run).runIn s.world).1, ⟨((site.inner r run).runIn s.world).2, l⟩)

/-- A request that is not charged for is passed on with the limiter as it is. -/
theorem guarded_of_not_limited (free : ¬ site.Limited r) :
    site.guarded r run s = site.passedOn r run s s.limiter := by
  apply guarded_of_passes
  rw [Passes, if_neg (mt costs_eq_true_iff.1 free)]

/-- A request that is charged for is passed on after one call of its client, if there is a token
for it. -/
theorem guarded_of_mayCall (limited : site.Limited r)
    (fits : (allowance site.settings).fits = true) (whole : MayCall r s) :
    site.guarded r run s = site.passedOn r run s (limiterAfterCall r s) := by
  apply guarded_of_passes
  rw [Passes, if_pos (costs_eq_true_iff.2 limited), Allowance.attempt_of_fits fits]
  exact congrArg Except.ok (Prod.ext (Limiter.attempt_admitted_iff.2 whole) rfl)

/-- Without a token the request is denied, after the same call. -/
theorem guarded_of_denied (limited : site.Limited r)
    (fits : (allowance site.settings).fits = true) (short : ¬ MayCall r s) :
    site.guarded r run s =
      (.ok .throttled,
        ⟨s.world.logged (Limiter.denial (clientKey r.headers r.peer)), limiterAfterCall r s⟩) := by
  have denied : s.limiter.attempt (clientKey r.headers r.peer) s.world.clock =
      (false, limiterAfterCall r s) :=
    Prod.ext (Bool.eq_false_iff.2 (mt Limiter.attempt_admitted_iff.1 short)) rfl
  simp only [guarded, costs_eq_true_iff.2 limited, if_true, Allowance.attempt_of_fits fits, denied]

/-- Where no bucket can be made, the call fails and leaves the limiter as it is. -/
theorem guarded_of_not_fits (limited : site.Limited r)
    (large : (allowance site.settings).fits = false) :
    site.guarded r run s = (.error (.fault .overflow), s) := by
  simp [guarded, costs_eq_true_iff.2 limited, Allowance.attempt, Allowance.guard, large]

/-! ## The whole service -/

/-- The layers outside the guard leave the limiter as the guard does. -/
theorem limiter_answerBy_of_guarded {l : Limiter Float}
    (left : (site.guarded r run s).2.limiter = l)
    (asked : OriginPolicy.isPreflight r = true → s.limiter = l) :
    (site.answerBy r run s).2.limiter = l := by
  have outside : (site.answerBy r run s).2.limiter = (site.marked r run s).2.limiter := by
    unfold answerBy
    rcases site.marked r run s with ⟨_ | _, _⟩ <;> rfl
  rw [outside, marked]
  split
  · next preflight => exact asked preflight
  · exact left

/-- A request is turned away: whatever the endpoints would do, it is answered with the status 429,
none of them is reached, and all that is new in the world are two lines of the log. -/
structure TurnedAway (site : Site) (r : Request) (s : Server) : Prop where
  status : ∀ run, (site.answerBy r run s).1.status = 429
  alike : ∀ run run', site.answerBy r run s = site.answerBy r run' s
  unreached : ∀ e, ¬ site.Reaches r s e
  world : ∀ run, (site.answerBy r run s).2.world =
    { s.world with
      log := s.world.log ++ [Limiter.denial (clientKey r.headers r.peer), accessLine r 429] }

/-- What is answered to a request that is denied, and what is left of it. -/
theorem answerBy_of_denied (limited : site.Limited r)
    (fits : (allowance site.settings).fits = true) (short : ¬ MayCall r s) :
    site.answerBy r run s =
      ((OriginPolicy.mk site.settings.corsOrigins).decorate r .throttled,
        ⟨(s.world.logged (Limiter.denial (clientKey r.headers r.peer))).logged (accessLine r 429),
          limiterAfterCall r s⟩) := by
  simp only [answerBy, marked, isPreflight_of_limited limited, guarded_of_denied limited fits short,
    Bool.false_eq_true, if_false]
  rfl

/-- A request that is denied is turned away. -/
theorem turnedAway_of_denied (limited : site.Limited r)
    (fits : (allowance site.settings).fits = true) (short : ¬ MayCall r s) :
    site.TurnedAway r s := by
  have alike : ∀ run run', site.answerBy r run s = site.answerBy r run' s := by
    intro run run'
    rw [answerBy_of_denied limited fits short, answerBy_of_denied limited fits short]
  refine ⟨?_, alike, ?_, ?_⟩
  · intro run
    rw [answerBy_of_denied limited fits short]
    rfl
  · intro e reached
    rcases reached with ⟨run, run', _, differ⟩
    exact differ (alike run run')
  · intro run
    simp only [answerBy_of_denied limited fits short, World.logged, List.append_assoc]
    rfl

/-- The guard charges exactly the requests under the limited paths.  On every server and for every
list of limited paths, a request that asks for options, or the path of whose address starts with
none of these, is passed on and leaves the limiter as it is.  Every other request leaves the
limiter as one call of its client does, so that no bucket changes but the client's own, and only
the cap removes one; it is passed on if its client may call, and turned away if not.  Two requests
that were forwarded for the same client are charged to the same key, whatever else is different
between them. -/
theorem guard_charges_exactly (site : Site) (r : Request) (run : Endpoint → Flow Response)
    (s : Server) :
    ((r.method = "OPTIONS" ∨
        ∀ start ∈ site.settings.limitedPaths, ¬ start.toList <+: r.shownPath.toList) →
      site.guarded r run s = site.passedOn r run s s.limiter ∧
      (site.answerBy r run s).2.limiter = s.limiter) ∧
    (site.Limited r → (allowance site.settings).fits = true →
      (site.answerBy r run s).2.limiter =
        (s.limiter.attempt (clientKey r.headers r.peer) s.world.clock).2 ∧
      Limiter.Charges s.limiter (site.answerBy r run s).2.limiter (clientKey r.headers r.peer)
        s.world.clock ∧
      (MayCall r s → site.guarded r run s = site.passedOn r run s (limiterAfterCall r s)) ∧
      (¬ MayCall r s → site.TurnedAway r s)) ∧
    (site.Limited r → (allowance site.settings).fits = false →
      site.guarded r run s = (.error (.fault .overflow), s) ∧
      (site.answerBy r run s).2.limiter = s.limiter) ∧
    (∀ (r' : Request) (entry : List Char), entry ≠ [] → ForwardedFor r.headers entry →
      ForwardedFor r'.headers entry →
        clientKey r.headers r.peer = String.ofList entry ∧
          clientKey r'.headers r'.peer = String.ofList entry) := by
  refine ⟨?_, ?_, ?_, ?_⟩
  · intro given
    have free : ¬ site.Limited r := by
      intro limited
      rcases given with options | outside
      · exact limited.1 options
      · rcases limited.2 with ⟨start, listed, begins⟩
        exact outside start listed begins
    have passes : site.guarded r run s = site.passedOn r run s s.limiter :=
      guarded_of_not_limited free
    exact ⟨passes, limiter_answerBy_of_guarded (by rw [passes]; rfl) fun _ => rfl⟩
  · intro limited fits
    have asked : OriginPolicy.isPreflight r = true → s.limiter = limiterAfterCall r s := by
      simp [isPreflight_of_limited limited]
    have left : (site.guarded r run s).2.limiter = limiterAfterCall r s := by
      by_cases whole : MayCall r s
      · rw [guarded_of_mayCall limited fits whole]
        rfl
      · rw [guarded_of_denied limited fits whole]
    have after := limiter_answerBy_of_guarded left asked
    refine ⟨after, ?_, guarded_of_mayCall limited fits, turnedAway_of_denied limited fits⟩
    rw [after]
    exact Limiter.charges_attempt _ _ _
  · intro limited large
    have fails : site.guarded r run s = (.error (.fault .overflow), s) :=
      guarded_of_not_fits limited large
    exact ⟨fails, limiter_answerBy_of_guarded (by rw [fails]) fun _ => rfl⟩
  · intro r' entry proper given given'
    exact ⟨clientKey_of_forwardedFor given proper _, clientKey_of_forwardedFor given' proper _⟩

/-- A request to sign in that two proxies forwarded. -/
def forwardedSignin : Request :=
  { oddSignin with
    path := "/api/v1/auth/signin"
    headers := [("x-forwarded-for", " 10.0.0.1 , 10.0.0.7")]
    peer := some ⟨"10.0.0.8"⟩ }

/-- A server that knows one client, which has used all its tokens up. -/
def drainedServer : Server :=
  ⟨.start 1700000000, ⟨5, 0.08, 10000, [("10.0.0.1", ⟨5, 0.08, 0, 1700000000, false⟩)]⟩⟩

/-- A request is charged to the client that it was forwarded for, and turned away with it; a
request for the state of the service is not. -/
theorem forwarded_signin_turned_away :
    usualSite.TurnedAway forwardedSignin drainedServer ∧
      clientKey forwardedSignin.headers forwardedSignin.peer = "10.0.0.1" ∧
      (usualSite.answer { forwardedSignin with path := "/api/v1/health" } drainedServer).2.limiter =
        drainedServer.limiter := by
  have limited : usualSite.Limited forwardedSignin := costs_eq_true_iff.1 (by decide +kernel)
  have charged := guard_charges_exactly usualSite forwardedSignin
    (usualSite.run forwardedSignin) drainedServer
  have free := guard_charges_exactly usualSite { forwardedSignin with path := "/api/v1/health" }
    (usualSite.run { forwardedSignin with path := "/api/v1/health" }) drainedServer
  have first : ForwardedFor forwardedSignin.headers "10.0.0.1".toList :=
    ⟨_, " 10.0.0.1 ".toList, ", 10.0.0.7".toList, rfl, by decide +kernel, by decide, by decide,
      by decide⟩
  refine ⟨(charged.2.1 limited (by decide +kernel)).2.2.2 (by decide +kernel), ?_, ?_⟩
  · exact (charged.2.2.2 forwardedSignin _ (by decide) first first).1
  · exact (free.1 (.inr (by decide +kernel))).2

end Site

end Gatehouse.Web
