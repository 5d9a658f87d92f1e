import Gatehouse.Web.Response
import Gatehouse.Web.Request

/-!
# Requests from other origins

Browsers ask before they let a page of another origin call the service, and look
at the response to tell whether the page may read it.  A question is answered at
once; every other response gets headers for the origin that it is for.

Main results:

- `decorate_content`: headers are all that is added to a response.
- `preflight_status`: a question is answered with yes exactly when nothing is wrong.
-/

namespace Gatehouse.Web

open Gatehouse.Text

/-- The origins whose pages may call the service. -/
structure OriginPolicy where
  origins : List String
deriving DecidableEq, Repr

namespace OriginPolicy

/-- Pages of every origin may call the service. -/
def isOpen (p : OriginPolicy) : Bool :=
  p.origins.contains "*"

/-- Pages of an origin may call the service. -/
def allows (p : OriginPolicy) (origin : String) : Bool :=
  p.isOpen || p.origins.contains origin

/-! ## Questions -/

/-- The methods that pages may use. -/
def methods : List String := ["GET", "POST"]

/-- The headers that pages may send. -/
def requestHeaders : List String :=
  ["Accept", "Accept-Language", "Authorization", "Content-Language", "Content-Type"]

/-- A request is a browser's question. -/
def isPreflight (r : Request) : Bool :=
  r.method == "OPTIONS" && (first? r.headers "origin").isSome &&
    (first? r.headers "access-control-request-method").isSome

/-- All the headers in a list may be sent. -/
def allowsHeaders (list : String) : Bool :=
  (pieces ',' list.toList).all fun name =>
    (requestHeaders.map lower).contains (lower (String.ofList (trimList isBlank name)))

/-- What is wrong with what a browser asks for. -/
def objections (p : OriginPolicy) (r : Request) : List String :=
  let origin := (first? r.headers "origin").getD ""
  let method := (first? r.headers "access-control-request-method").getD ""
  let headers := first? r.headers "access-control-request-headers"
  (if p.allows origin then [] else ["origin"]) ++
    (if methods.contains method then [] else ["method"]) ++
    (if headers.any fun list => !allowsHeaders list then ["headers"] else []) ++
    (if (first? r.headers "access-control-request-private-network").isSome then
      ["private-network"] else [])

/-- The header that names the origin whose pages may read a response. -/
def allowOrigin (origin : String) : Headers :=
  [("access-control-allow-origin", origin)]

/-- The header that lets pages of an origin read a response. -/
def headerFor (p : OriginPolicy) (origin : String) : Headers :=
  if p.isOpen then allowOrigin "*" else if p.allows origin then allowOrigin origin else []

/-- The headers of the answer to a question. -/
def preflightHeaders (p : OriginPolicy) (r : Request) : Headers :=
  let origin := (first? r.headers "origin").getD ""
  [("vary", "Origin, Access-Control-Request-Method, Access-Control-Request-Headers, " ++
      "Access-Control-Request-Private-Network"),
    ("access-control-allow-methods", ", ".intercalate methods),
    ("access-control-max-age", "3600"),
    ("access-control-allow-headers", ", ".intercalate requestHeaders)] ++
    p.headerFor origin

/-- The answer to a question. -/
def preflight (p : OriginPolicy) (r : Request) : Response :=
  let answer :=
    match p.objections r with
    | [] => Response.text 200 "OK"
    | wrong => Response.text 400 ("Disallowed CORS " ++ ", ".intercalate wrong)
  answer.adding (p.preflightHeaders r)

/-- A preflight succeeds exactly when nothing about it is objected to. -/
theorem preflight_status (p : OriginPolicy) (r : Request) :
    (p.preflight r).status = if p.objections r = [] then 200 else 400 := by
  unfold preflight
  cases p.objections r <;> rfl

/-! ## Other responses -/

/-- The header for the origin of a request. -/
def originHeader (p : OriginPolicy) (r : Request) : Headers :=
  match first? r.headers "origin" with
  | none => []
  | some origin => p.headerFor origin

/-- The response with the headers for the origin of its request. -/
def decorate (p : OriginPolicy) (r : Request) (response : Response) : Response :=
  response.adding (("vary", "Origin") :: p.originHeader r)

/-- Decoration keeps the status and the content of a response. -/
theorem decorate_content (p : OriginPolicy) (r : Request) (response : Response) :
    (p.decorate r response).status = response.status ∧
      (p.decorate r response).content = response.content := ⟨rfl, rfl⟩

end OriginPolicy

end Gatehouse.Web
