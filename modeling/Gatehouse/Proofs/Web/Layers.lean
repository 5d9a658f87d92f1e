import Gatehouse.Proofs.Flow
import Gatehouse.Web.Server

/-!
# Through the layers of the server

What an endpoint does to the world and what it answers, followed outwards through the layers
around it: refusals become responses, unknown hosts and clients that call too often are turned
away, and responses are marked and logged.  The layers look at the clock, the limiter and the
request, and at nothing else.  So two servers that agree on these answer alike, if their
endpoints do.

Main results:

- `run_settled`: what becomes of a refusal.
- `submitted_of_filledIn`, `submitted_of_not_filledIn`: what an endpoint with a form does.
- `Resembling`, `respond_agree`: two servers in worlds that resemble each other answer alike.
-/

namespace Gatehouse

namespace Web

open Gatehouse.Text Gatehouse.Throttle Gatehouse.Flow

namespace Site

/-! ## Forms -/

/-- What the body of a request fills in of a form, if it can be read and keeps the rules. -/
def filledIn? {α : Type} (r : Request) (form : Form α) : Option α :=
  match readSubmission r with
  | .ok submission => (form.submitted submission).toOption
  | .error _ => none

section Forms

variable {α : Type} {r : Request} {form : Form α}

/-- An endpoint acts on a form that is filled in. -/
theorem submitted_of_filledIn {a : α} (h : filledIn? r form = some a) (act : α → Flow Response) :
    submitted r form act = act a := by
  unfold filledIn? at h
  split at h
  · next submission read =>
    cases checked : form.submitted submission with
    | ok b =>
      rw [checked] at h
      rcases Option.some.inj h with rfl
      simp [submitted, submittedAfter, read, checked]
    | error findings =>
      rw [checked] at h
      cases h
  · cases h

/-- A form that is not filled in is answered without acting. -/
theorem submitted_of_not_filledIn (h : filledIn? r form = none) (act : α → Flow Response) :
    ∃ response, submitted r form act = pure response := by
  unfold filledIn? at h
  split at h
  · next submission read =>
    cases checked : form.submitted submission with
    | ok b =>
      rw [checked] at h
      cases h
    | error findings =>
      exact ⟨.ofFindings findings, by simp [submitted, submittedAfter, read, checked]⟩
  · next fault read => exact ⟨_, submittedAfter_of_fault read _ _ _⟩

end Forms

/-! ## Refusals -/

/-- The line that a refused request leaves, if the refusal is the service's own fault. -/
def refusalLines (r : Request) (c : Cause) : List LogLine :=
  if 500 ≤ (Response.ofRefusal c.refusal).status then
    [line .error (c.kind.code ++ " on " ++ title r ++ ": " ++ c.refusal.note)]
  else []

/-- A refusal becomes a response; what succeeds and what fails otherwise is left as it is. -/
theorem run_settled (r : Request) (body : Flow Response) (w : World) :
    (settled r body).runIn w =
      match body.runIn w with
      | (.error (.refused c), w') =>
        (.ok (.ofRefusal c.refusal), (refusalLines r c).foldl World.logged w')
      | other => other := by
  unfold settled
  rw [run_tryCatch]
  rcases body.runIn w with ⟨e | response, w'⟩
  · cases e with
    | refused c =>
      simp only [refusalLines]
      split <;> rfl
    | fault f => rfl
    | cancelled => rfl
  · rfl

/-! ## Two servers -/

/-- A relation of worlds at one time that writing a line to both logs keeps. -/
structure Resembling (R : World → World → Prop) : Prop where
  clock : ∀ w w', R w w' → w.clock = w'.clock
  logged : ∀ w w' line, R w w' → R (w.logged line) (w'.logged line)

/-- Two runs agree: they have one outcome, and end in worlds that resemble each other. -/
structure RunsAgree {α : Type} (R : World → World → Prop) (x y : α × World) : Prop where
  outcome : x.1 = y.1
  worlds : R x.2 y.2

/-- Two servers agree: they answer alike, with one limiter, and end in worlds that resemble each
other. -/
structure ServersAgree {α : Type} (R : World → World → Prop) (x y : α × Server) : Prop where
  answer : x.1 = y.1
  limiter : x.2.limiter = y.2.limiter
  worlds : R x.2.world y.2.world

/-- Lines in both logs leave two worlds resembling each other. -/
theorem Resembling.foldl_logged {R : World → World → Prop} (resembling : Resembling R)
    (lines : List LogLine) {w w' : World} (worlds : R w w') :
    R (lines.foldl World.logged w) (lines.foldl World.logged w') := by
  induction lines generalizing w w' with
  | nil => exact worlds
  | cons line rest ih => exact ih (resembling.logged _ _ line worlds)

/-- Two runs that agree still do once refusals are responses. -/
theorem settled_agree {R : World → World → Prop} (resembling : Resembling R) {r : Request}
    {f g : Flow Response} {w w' : World} (same : RunsAgree R (f.runIn w) (g.runIn w')) :
    RunsAgree R ((settled r f).runIn w) ((settled r g).runIn w') := by
  rw [run_settled, run_settled]
  generalize f.runIn w = x at same
  generalize g.runIn w' = y at same
  rcases x with ⟨outcome, v⟩
  rcases y with ⟨outcome', v'⟩
  rcases same with ⟨answer, worlds⟩
  rcases (show outcome = outcome' from answer) with rfl
  rcases outcome with (c | e | _) | response
  · exact ⟨rfl, resembling.foldl_logged _ worlds⟩
  all_goals exact ⟨rfl, worlds⟩

section Agree

variable {R : World → World → Prop} (site : Site) {r : Request} {s s' : Server}
  {run run' : Endpoint → Flow Response}

/-- The endpoint that a request leads to makes the two servers agree, once refusals are
responses. -/
def EndpointsAgree (R : World → World → Prop) (r : Request) (run run' : Endpoint → Flow Response)
    (w w' : World) : Prop :=
  ∀ e, Endpoint.find r.method r.path = .endpoint e →
    RunsAgree R ((settled r (run e)).runIn w) ((settled r (run' e)).runIn w')

/-- Inside the guard two servers agree if their endpoints do. -/
theorem inner_agree {w w' : World} (worlds : R w w') (same : EndpointsAgree R r run run' w w') :
    RunsAgree R ((site.inner r run).runIn w) ((site.inner r run').runIn w') := by
  have plain (response : Response) :
      RunsAgree R (runIn (pure response) w) (runIn (pure response) w') :=
    ⟨rfl, worlds⟩
  unfold inner
  split
  · unfold routed
    split
    · next e found => exact same e found
    all_goals
      rw [run_settled, run_settled]
      exact plain _
  · exact plain _
  · exact plain _

/-- The guard looks at the limiter and the clock only. -/
theorem guarded_agree (resembling : Resembling R) (worlds : R s.world s'.world)
    (limiters : s.limiter = s'.limiter) (same : EndpointsAgree R r run run' s.world s'.world) :
    ServersAgree R (site.guarded r run s) (site.guarded r run' s') := by
  have inside := inner_agree site worlds same
  unfold guarded
  simp only
  rw [← limiters, ← resembling.clock _ _ worlds]
  split
  · split
    · exact ⟨rfl, limiters, worlds⟩
    · exact ⟨inside.outcome, rfl, inside.worlds⟩
    · exact ⟨rfl, rfl, resembling.logged _ _ _ worlds⟩
  · exact ⟨inside.outcome, rfl, inside.worlds⟩

/-- Two servers that agree still do once responses are marked for their origin. -/
theorem marked_agree (resembling : Resembling R) (worlds : R s.world s'.world)
    (limiters : s.limiter = s'.limiter) (same : EndpointsAgree R r run run' s.world s'.world) :
    ServersAgree R (site.marked r run s) (site.marked r run' s') := by
  have inside := guarded_agree site resembling worlds limiters same
  unfold marked
  simp only
  split
  · exact ⟨rfl, limiters, worlds⟩
  · exact ⟨by rw [inside.answer], inside.limiter, inside.worlds⟩

/-- Two servers in worlds that resemble each other agree on a request if their endpoints do. -/
theorem answerBy_agree (resembling : Resembling R) (worlds : R s.world s'.world)
    (limiters : s.limiter = s'.limiter) (same : EndpointsAgree R r run run' s.world s'.world) :
    ServersAgree R (site.answerBy r run s) (site.answerBy r run' s') := by
  have inside := marked_agree site resembling worlds limiters same
  unfold answerBy
  rcases one : site.marked r run s with ⟨outcome, t⟩
  rcases other : site.marked r run' s' with ⟨outcome', t'⟩
  rw [one, other] at inside
  rcases inside with ⟨answer, limiter, worlds⟩
  simp only at answer
  subst answer
  cases outcome with
  | ok response => exact ⟨rfl, limiter, resembling.logged _ _ _ worlds⟩
  | error e => exact ⟨rfl, limiter, resembling.logged _ _ _ worlds⟩

/-- Two servers of one service in worlds that resemble each other agree on a request if its
endpoint makes them agree. -/
theorem respond_agree (resembling : Resembling R) (worlds : R s.world s'.world)
    (limiters : s.limiter = s'.limiter)
    (same : EndpointsAgree R r (site.run r) (site.run r) s.world s'.world) :
    ServersAgree R (site.respond r s) (site.respond r s') := by
  have inside := answerBy_agree site resembling worlds limiters same
  unfold respond answer
  split
  · exact ⟨congrArg Except.ok inside.answer, inside.limiter, inside.worlds⟩
  · exact ⟨rfl, limiters, worlds⟩

end Agree

end Site

end Web

end Gatehouse
