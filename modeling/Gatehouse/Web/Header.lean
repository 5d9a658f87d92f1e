import Gatehouse.Text.Blank
import Gatehouse.Text.Case
import Gatehouse.Text.Split

/-!
# Request headers

Headers are name-value pairs.  Names are compared without regard to ASCII case,
and where a name is repeated its first value counts.

The bearer token is what follows `Bearer ` in the `Authorization` header.  The
client key is the first hop of `X-Forwarded-For`, or else the address of the
peer; clients with neither share one key.

Main results:

- `first?_append`: later headers do not override earlier ones.
- `first?_eq_some_iff`: the value of a header that none of the same name comes before.
- `clientKey_of_firstHop`: a first hop decides the key, whatever follows it.
-/

namespace Gatehouse.Web

open Gatehouse.Text

/-- Headers in the order in which they came. -/
abbrev Headers := List (String × String)

/-- The peer of a connection. -/
structure Peer where
  host : String
deriving DecidableEq, Repr

/-- The first value of a header, whose name is given in lower case. -/
def first? (headers : Headers) (name : String) : Option String :=
  match headers with
  | [] => none
  | (n, v) :: rest => if lower n = name then some v else first? rest name

/-- The first header of a name hides the later ones. -/
theorem first?_append {hs : Headers} {name v : String} (h : first? hs name = some v)
    (more : Headers) : first? (hs ++ more) name = some v := by
  induction hs with
  | nil => simp [first?] at h
  | cons e es ih =>
    by_cases hn : lower e.1 = name
    · simpa [first?, hn] using h
    · simp only [first?, hn, if_false] at h
      simpa [first?, hn] using ih h

/-- What is found under a name is the value of the header before which no other has the name. -/
theorem first?_eq_some_iff {hs : Headers} {name v : String} :
    first? hs name = some v ↔ ∃ before n after, hs = before ++ (n, v) :: after ∧
      lower n = name ∧ ∀ h ∈ before, lower h.1 ≠ name := by
  constructor
  · intro found
    induction hs with
    | nil => cases found
    | cons e es ih =>
      by_cases hn : lower e.1 = name
      · simp only [first?, hn, if_true, Option.some.injEq] at found
        exact ⟨[], e.1, es, by simp [← found], hn, by simp⟩
      · simp only [first?, hn, if_false] at found
        rcases ih found with ⟨before, n, after, rfl, named, others⟩
        refine ⟨e :: before, n, after, rfl, named, ?_⟩
        simpa [hn] using others
  · intro given
    rcases given with ⟨before, n, after, rfl, named, others⟩
    induction before with
    | nil => simp [first?, named]
    | cons e es ih =>
      have hn := others e List.mem_cons_self
      simpa [first?, hn] using ih fun h hh => others h (List.mem_cons_of_mem _ hh)

/-! ## Bearer tokens -/

/-- The bearer token of a request, if it has one. -/
def bearerToken? (headers : Headers) : Option String :=
  match first? headers "authorization" with
  | none => none
  | some v =>
    let scheme := "Bearer ".toList
    if scheme.isPrefixOf v.toList then
      let token := trimList isBlank (v.toList.drop scheme.length)
      if token.isEmpty then none else some (String.ofList token)
    else none

/-! ## Client keys -/

/-- The key of clients of which nothing is known. -/
def unknownClient : String := "unknown"

/-- The first hop that a request was forwarded through, unless it is blank. -/
def firstHop? (headers : Headers) : Option String :=
  match first? headers "x-forwarded-for" with
  | none => none
  | some v =>
    let hop := trimList isBlank (v.toList.takeWhile (· ≠ ','))
    if hop.isEmpty then none else some (String.ofList hop)

/-- The key under which a request is counted. -/
def clientKey (headers : Headers) (peer : Option Peer) : String :=
  match firstHop? headers with
  | some hop => hop
  | none =>
    match peer with
    | some p => if p.host = "" then unknownClient else p.host
    | none => unknownClient

/-- A forwarded address stands for the client, whoever connects. -/
theorem clientKey_of_firstHop {headers : Headers} {hop : String}
    (h : firstHop? headers = some hop) (peer : Option Peer) : clientKey headers peer = hop := by
  simp [clientKey, h]

/-- A path starts with one of the given texts. -/
def underAny (path : String) (starts : List String) : Bool :=
  starts.any fun s => s.toList.isPrefixOf path.toList

end Gatehouse.Web
