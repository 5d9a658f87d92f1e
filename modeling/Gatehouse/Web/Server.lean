import Gatehouse.Throttle.Allowance
import Gatehouse.Web.Cors
import Gatehouse.Web.Handler
import Gatehouse.Web.Host

/-!
# The server

A request passes through layers.  From the outside in: what the service fails to
handle becomes one plain response; every other response is logged; browsers'
questions are answered and responses marked for their origin; clients that call
too often are turned away; requests for unknown hosts are refused; and what is
left goes to an endpoint.  What the endpoints do is a parameter of the layers.

A client pays one token for a request under a limited path, unless the request
asks for the options of a path.

Main results:

- `guarded_of_free`: a request that costs nothing leaves the limiter as it is.
- `answer_preflight`: a browser's question changes nothing but the log.
- `respond_of_proper`: with proper patterns of hosts every request is answered.
- `sweep_world`: sweeping changes nothing but the limiter and the log.
-/

namespace Gatehouse.Web

open Gatehouse.Text Gatehouse.Throttle

/-! ## State -/

/-- What a running server keeps. -/
structure Server where
  world : World
  limiter : Limiter Float

namespace Server

/-- The server with one more line in its log. -/
def logged (s : Server) (line : LogLine) : Server :=
  { s with world := s.world.logged line }

end Server

namespace Site

/-- A line of the web channel. -/
def line (level : Level) (text : String) : LogLine :=
  ⟨level, .web, text⟩

/-! ## Starting and stopping -/

/-- What settings allow every client. -/
def allowance (s : Settings) : Allowance :=
  ⟨.whole s.capacity, .whole s.refillTokens, .real s.refillSeconds, .whole s.maxBuckets⟩

/-- The lines that starting leaves. -/
def startLines (s : Settings) : List LogLine :=
  [line .info "memberauth API starting up"] ++
    (if s.internalKey = "" then
      [line .warning "INTERNAL_API_KEY not set -- /api/v1/auth/temporary-token is disabled"]
    else []) ++
    [line .info ("Rate limiting " ++ ", ".intercalate s.limitedPaths ++
      " (capacity=" ++ signedDecimal s.capacity ++ ", refill=" ++ signedDecimal s.refillTokens ++
      "/" ++ Number.wholeText s.refillSeconds ++ "s)")]

/-- The line that stopping leaves. -/
def stopLine : LogLine :=
  line .info "memberauth API shutdown complete"

/-- A server that was just started on a world, if its limiter can be set up. -/
def start (s : Settings) (w : World) : Except Fault Server :=
  (allowance s).limiter.map fun l => (startLines s).foldl Server.logged ⟨w, l⟩

/-! ## Sweeping -/

/-- Drop the idle buckets of the limiter. -/
def sweep (s : Server) : Server :=
  let (removed, limiter) := s.limiter.sweep s.world.clock
  let swept := { s with limiter := limiter }
  if removed = 0 then swept
  else
    swept.logged
      (line .info ("Rate-limit sweep evicted " ++ decimal removed ++ " idle buckets"))

/-- A sweep touches neither the members nor the clock. -/
theorem sweep_world (s : Server) :
    (sweep s).world.directory = s.world.directory ∧ (sweep s).world.clock = s.world.clock := by
  unfold sweep
  dsimp only
  split <;> exact ⟨rfl, rfl⟩

/-! ## Inside the guard -/

/-- The method and the path of a request, as they are written to the log. -/
def title (r : Request) : String :=
  r.method ++ " " ++ r.shownPath

/-- Turn a refusal into a response; one that is the service's own fault is logged. -/
def settled (r : Request) (body : Flow Response) : Flow Response :=
  tryCatch body fun
    | .refused c => do
      let response := Response.ofRefusal c.refusal
      if 500 ≤ response.status then
        Flow.log (line .error (c.kind.code ++ " on " ++ title r ++ ": " ++ c.refusal.note))
      return response
    | failure => throw failure

/-- What a request is answered once it has passed the guard. -/
def inner (site : Site) (r : Request) (run : Endpoint → Flow Response) : Flow Response :=
  match (HostPolicy.mk site.settings.allowedHosts).verdict r with
  | .trusted => settled r (routed r run)
  | .moved => pure (HostPolicy.move r)
  | .untrusted => pure HostPolicy.rejection

/-! ## The guard -/

/-- A request costs its client a token. -/
def costs (site : Site) (r : Request) : Bool :=
  r.method != "OPTIONS" && underAny r.shownPath site.settings.limitedPaths

/-- Answer a request on a server, if its client may call. -/
def guarded (site : Site) (r : Request) (run : Endpoint → Flow Response) (s : Server) :
    Except Failure Response × Server :=
  let proceed (l : Limiter Float) : Except Failure Response × Server :=
    let (outcome, w) := (site.inner r run).runIn s.world
    (outcome, ⟨w, l⟩)
  if site.costs r then
    let key := clientKey r.headers r.peer
    match (allowance site.settings).attempt s.limiter key s.world.clock with
    | .error f => (.error (.fault f), s)
    | .ok (true, l) => proceed l
    | .ok (false, l) => (.ok .throttled, ⟨s.world.logged (Limiter.denial key), l⟩)
  else proceed s.limiter

/-- A request that costs nothing leaves the buckets alone. -/
theorem guarded_of_free {site : Site} {r : Request} (h : site.costs r = false)
    (run : Endpoint → Flow Response) (s : Server) :
    (site.guarded r run s).2.limiter = s.limiter := by
  simp [guarded, h]

/-! ## Outside the guard -/

/-- The line that a response leaves. -/
def accessLine (r : Request) (status : Nat) : LogLine :=
  line .info (title r ++ " " ++ decimal status ++ " 0.0ms " ++ r.peerText)

/-- The line that a request leaves which the service fails to handle. -/
def unhandledLine (r : Request) : LogLine :=
  line .error ("Unhandled exception on " ++ title r)

/-- Answer a request, and mark the response for its origin. -/
def marked (site : Site) (r : Request) (run : Endpoint → Flow Response) (s : Server) :
    Except Failure Response × Server :=
  let policy : OriginPolicy := ⟨site.settings.corsOrigins⟩
  if OriginPolicy.isPreflight r then (.ok (policy.preflight r), s)
  else
    let (outcome, s') := site.guarded r run s
    (outcome.map (policy.decorate r), s')

/-- Answer a request where `run` is what the endpoints do. -/
def answerBy (site : Site) (r : Request) (run : Endpoint → Flow Response) (s : Server) :
    Response × Server :=
  match site.marked r run s with
  | (.ok response, s') => (response, s'.logged (accessLine r response.status))
  | (.error _, s') => (.unexpected, s'.logged (unhandledLine r))

/-- Answer a request. -/
def answer (site : Site) (r : Request) (s : Server) : Response × Server :=
  site.answerBy r (site.run r) s

/-- A preflight is answered from the settings alone. -/
theorem answer_preflight {site : Site} {r : Request} (h : OriginPolicy.isPreflight r = true)
    (s : Server) :
    site.answer r s =
      let response := (OriginPolicy.mk site.settings.corsOrigins).preflight r
      (response, s.logged (accessLine r response.status)) := by
  simp [answer, answerBy, marked, h]

/-- The service knows its hosts by proper patterns. -/
def isProper (site : Site) : Bool :=
  (HostPolicy.mk site.settings.allowedHosts).isProper

/-- Answer a request, unless the service was told of hosts by an improper pattern. -/
def respond (site : Site) (r : Request) (s : Server) : Except Fault Response × Server :=
  if site.isProper then
    let (response, s') := site.answer r s
    (.ok response, s')
  else (.error .improperPattern, s)

/-- Proper patterns leave nothing in the way of an answer. -/
theorem respond_of_proper {site : Site} (h : site.isProper = true) (r : Request) (s : Server) :
    site.respond r s = (.ok (site.answer r s).1, (site.answer r s).2) := by
  simp [respond, h]

end Site

end Gatehouse.Web
