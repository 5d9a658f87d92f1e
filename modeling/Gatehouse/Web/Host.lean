import Gatehouse.Web.Request
import Gatehouse.Web.Response

/-!
# Trusted hosts

The service answers only requests for hosts that it knows.  A pattern is the name
of a host, or `*.` and the end of names.  A request for a host that is known under
its name with `www.` in front is sent there.  What a request names must be an
authority, whose number does not matter.

Main results:

- `judge_of_open`: with the pattern `*` every request is trusted.
- `judge_of_mem`: a host whose name is listed is trusted.
-/

namespace Gatehouse.Web

open Gatehouse.Text

/-- The patterns of the hosts that the service knows. -/
structure HostPolicy where
  patterns : List String
deriving DecidableEq, Repr

/-- What becomes of a request for a host. -/
inductive Verdict
  | trusted
  /-- The host is known with `www.` in front. -/
  | moved
  | untrusted
deriving DecidableEq, Repr

namespace HostPolicy

/-- A pattern has no star but the one that stands for the beginning of names. -/
def isPattern (pattern : String) : Bool :=
  match pattern.toList with
  | ['*'] => true
  | '*' :: rest => rest.head? == some '.' && !rest.contains '*'
  | _ :: rest => !rest.contains '*'
  | [] => true

/-- All patterns are proper ones. -/
def isProper (p : HostPolicy) : Bool :=
  p.patterns.all isPattern

/-- A name fits a pattern. -/
def fits (name pattern : String) : Bool :=
  name == pattern ||
    match pattern.toList with
    | '*' :: ending => ending.isSuffixOf name.toList
    | _ => false

/-- What becomes of a request for the host of a name, if it names one. -/
def judge (p : HostPolicy) (name : Option String) : Verdict :=
  let known := p.patterns.map fold
  if p.patterns.contains "*" then .trusted
  else
    match name with
    | none => .untrusted
    | some host =>
      if known.any (fits host) then .trusted
      else if known.contains ("www." ++ host) then .moved
      else .untrusted

/-- With a star among the patterns every host is trusted. -/
theorem judge_of_open {p : HostPolicy} (h : "*" ∈ p.patterns) (name : Option String) :
    p.judge name = .trusted := by
  simp [judge, h]

/-- A listed host is trusted. -/
theorem judge_of_mem {p : HostPolicy} {host : String} (h : host ∈ p.patterns.map fold) :
    p.judge (some host) = .trusted := by
  have hany : (p.patterns.map fold).any (fits host) = true :=
    List.any_eq_true.2 ⟨host, h, by simp [fits]⟩
  simp [judge, hany]

/-- What becomes of a request. -/
def verdict (p : HostPolicy) (r : Request) : Verdict :=
  p.judge ((Authority.read? r.host.toList).map Authority.name)

/-- The response to a request for an untrusted host. -/
def rejection : Response :=
  .text 400 "Invalid host header"

/-- The response that sends a client to the host with `www.` in front. -/
def move (r : Request) : Response :=
  let there := { r.address with authority := "www.".toList ++ r.address.authority }
  .redirect ("http://" ++ String.ofList there.text)

end HostPolicy

end Gatehouse.Web
