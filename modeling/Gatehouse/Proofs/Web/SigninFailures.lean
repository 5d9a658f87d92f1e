import Gatehouse.Proofs.Account.Signing
import Gatehouse.Proofs.Web.Layers
import Gatehouse.Proofs.Web.Throttling

/-!
# Sign-ins that fail

A sign-in fails because nobody has the address, because the member is disabled or has no
password, because the password does not belong to its digest, or because the digest cannot be
read.  A client is not told which: whoever the members are, as long as they do not let the
sign-in succeed, they make no difference to the response, to the log, or to anything else that
the server keeps besides the members.

Main results:

- `signinFails_iff`: sign-ins fail in these ways exactly where nobody is recognised.
- `run_signin_of_fails`: what a failed sign-in does, whichever way it fails.
- `signin_failures_indistinguishable`: the members make no difference to a sign-in that fails.
-/

namespace Gatehouse

/-! ## Ways to fail -/

namespace Account

open Gatehouse.Flow

/-- The ways in which nobody is recognised. -/
inductive SigninFails (d : Directory) (email password : Option String) : Prop
  | unknown (free : ∀ m ∈ d.members, email ≠ some m.email)
  | disabled {m : Member} (stored : m ∈ d.members) (named : email = some m.email)
    (disabled : m.enabled = false)
  | withoutPassword {m : Member} (stored : m ∈ d.members) (named : email = some m.email)
    (absent : m.hasPassword = false)
  | mismatch {m : Member} (stored : m ∈ d.members) (named : email = some m.email)
    (wrong : Password.accepts password m.passwordDigest = false)
  | unusable {m : Member} {digest : String} (stored : m ∈ d.members) (named : email = some m.email)
    (held : m.passwordDigest = some digest) (unreadable : Password.Digest.parse? digest = none)

/-- No password belongs to a digest that cannot be read. -/
theorem accepts_of_unreadable {digest : String} (h : Password.Digest.parse? digest = none)
    (password : Option String) : Password.accepts password (some digest) = false := by
  unfold Password.accepts
  split
  · next held =>
    rcases Option.some.inj held with rfl
    simp [Password.verifies, h]
  · rfl

section Fails

variable {s : Service} {w : World} {d : Directory} {email password : Option String}

/-- Nobody is recognised exactly when signing in fails in one of these ways. -/
theorem signinFails_iff :
    SigninFails d email password ↔ ¬ ∃ m, Recognises d email password m := by
  -- an address belongs to one member at most
  have same {m n : Member} (hm : m ∈ d.members) (hn : n ∈ d.members) (em : email = some m.email)
      (en : email = some n.email) : m = n :=
    Directory.eq_of_email_eq hm hn (Option.some.inj (em.symm.trans en))
  constructor
  · rintro fails ⟨n, n_stored, n_named, enabled, hasPassword, accepted⟩
    cases fails with
    | unknown free => exact free n n_stored n_named
    | disabled stored named disabled =>
      rw [same stored n_stored named n_named, enabled] at disabled
      cases disabled
    | withoutPassword stored named absent =>
      rw [same stored n_stored named n_named, hasPassword] at absent
      cases absent
    | mismatch stored named wrong =>
      rw [same stored n_stored named n_named, accepted] at wrong
      cases wrong
    | unusable stored named held unreadable =>
      rw [← same stored n_stored named n_named, held, accepts_of_unreadable unreadable] at accepted
      cases accepted
  · intro nobody
    by_cases known : ∃ m ∈ d.members, email = some m.email
    · rcases known with ⟨m, stored, named⟩
      by_cases enabled : m.enabled = true
      · by_cases hasPassword : m.hasPassword = true
        · refine .mismatch stored named (Bool.eq_false_iff.2 fun accepted => ?_)
          exact nobody ⟨m, stored, named, enabled, hasPassword, accepted⟩
        · exact .withoutPassword stored named (Bool.eq_false_iff.2 hasPassword)
      · exact .disabled stored named (Bool.eq_false_iff.2 enabled)
    · exact .unknown fun m stored named => known ⟨m, stored, named⟩

/-- A sign-in that fails is refused by its kind, between the two lines of its audit, and changes
nothing else. -/
theorem run_signin_of_fails (fails : SigninFails w.directory email password) :
    ∃ c : Cause, c.kind = .invalidCredentials ∧
      (s.signin email password).runIn w =
        (.error (.refused c), (w.logged (Audit.attempt "signin")).logged
          ((Audit.Ending.refused .invalidCredentials).line "signin")) := by
  rw [Service.signin, run_audited, run_bind, run_memberAt, World.directory_logged]
  simp only
  cases found : email.bind w.directory.findByEmail with
  | none => exact ⟨.noUsableAccount, rfl, rfl⟩
  | some m =>
    rcases bind_findByEmail_eq_some_iff.1 found with ⟨stored, named⟩
    simp only
    split
    · exact ⟨.noUsableAccount, rfl, rfl⟩
    · next usable =>
      split
      · exact ⟨.passwordMismatch, rfl, rfl⟩
      · next accepted =>
        simp only [Bool.or_eq_true, Bool.not_eq_true', not_or, Bool.not_eq_false] at usable accepted
        exact absurd ⟨m, stored, named, usable.1, usable.2, accepted⟩ (signinFails_iff.1 fails)

end Fails

end Account

/-! ## On the server -/

namespace Web

open Gatehouse.Text Gatehouse.Form Gatehouse.Account Gatehouse.Flow

/-- A server with other members. -/
def Server.withMembers (s : Server) (d : Directory) : Server :=
  { s with world := { s.world with directory := d } }

/-- A server is another one with other members when their worlds differ in these and their
limiters are the same. -/
theorem Server.eq_withMembers {s t : Server} {d : Directory}
    (worlds : t.world = { s.world with directory := d }) (limiters : s.limiter = t.limiter) :
    t = s.withMembers d := by
  cases s
  cases t
  cases worlds
  cases limiters
  rfl

namespace Site

/-- Worlds that differ in their members resemble each other. -/
theorem resembling_members (d : Directory) :
    Resembling fun w w' => w' = { w with directory := d } := by
  refine ⟨?_, ?_⟩
  · rintro w w' rfl
    rfl
  · rintro w w' line rfl
    rfl

/-- A sign-in that fails is answered by the kind of its refusal. -/
theorem run_settled_signin {site : Site} {r : Request} {c : Credentials}
    (submits : filledIn? r Form.signin = some c) {w : World}
    (fails : SigninFails w.directory c.email c.password) :
    (settled r (site.signin r)).runIn w =
      (.ok (.ofRefusal Cause.noUsableAccount.refusal), (w.logged (Audit.attempt "signin")).logged
        ((Audit.Ending.refused .invalidCredentials).line "signin")) := by
  rcases run_signin_of_fails (s := site.service) fails with ⟨cause, kind, run⟩
  have answer : Response.ofRefusal cause.refusal = .ofRefusal Cause.noUsableAccount.refusal :=
    Response.ofRefusal_of_kind kind (by rw [kind]; decide)
  have quiet : refusalLines r cause = [] := by
    rw [refusalLines, answer]
    rfl
  rw [run_settled, signin, submitted_of_filledIn submits, run_bind, run]
  simp [answer, quiet]

/-- Whoever the members are, as long as they do not let a sign-in succeed, they make no difference
to it: a server with other members gives the same response, and is afterwards the same server
with those members; so its log and its limiter are the same too.  The operation is refused by
the same kind, with the same text for the client. -/
theorem signin_failures_indistinguishable (site : Site) (r : Request)
    (leads : Endpoint.find r.method r.path = .endpoint .signin) (c : Credentials)
    (submits : filledIn? r Form.signin = some c) (s : Server) (d : Directory)
    (fails : SigninFails s.world.directory c.email c.password)
    (fails' : SigninFails d c.email c.password) :
    (site.respond r (s.withMembers d)).1 = (site.respond r s).1 ∧
      (site.respond r (s.withMembers d)).2 = (site.respond r s).2.withMembers d ∧
      ∃ cause cause' : Cause,
        ((site.service.signin c.email c.password).runIn s.world).1 = .error (.refused cause) ∧
        ((site.service.signin c.email c.password).runIn (s.withMembers d).world).1 =
          .error (.refused cause') ∧
        cause.kind = .invalidCredentials ∧ cause'.kind = .invalidCredentials ∧
        cause.refusal.shown = cause'.refusal.shown := by
  have same : EndpointsAgree (fun w w' => w' = { w with directory := d }) r (site.run r)
      (site.run r) s.world (s.withMembers d).world := by
    intro e found
    rcases Endpoint.Target.endpoint.inj (leads.symm.trans found) with rfl
    rw [run, run_settled_signin submits fails, run_settled_signin submits fails']
    exact ⟨rfl, rfl⟩
  have agree : ServersAgree _ (site.respond r s) (site.respond r (s.withMembers d)) :=
    respond_agree site (resembling_members d) rfl rfl same
  rcases run_signin_of_fails (s := site.service) fails with ⟨cause, kind, refused⟩
  rcases run_signin_of_fails (s := site.service) (w := (s.withMembers d).world) fails' with
    ⟨cause', kind', refused'⟩
  refine ⟨agree.answer.symm, Server.eq_withMembers agree.worlds agree.limiter, cause, cause',
    by rw [refused], by rw [refused'], kind, kind', ?_⟩
  rw [Cause.shown_of_kind_ne (by rw [kind]; decide), Cause.shown_of_kind_ne (by rw [kind']; decide),
    kind, kind']

/-- A request to sign in with an address and a password. -/
def plainSignin : Request :=
  { oddSignin with
    path := "/api/v1/auth/signin"
    headers := [("content-type", "application/json")]
    body := utf8 "\x7b\"email\":\"a@x\",\"password\":\"word\"\x7d" }

/-- A client cannot tell a server without members from one with a member that has the address and
no password. -/
theorem newcomer_hidden_at_signin :
    Endpoint.find plainSignin.method plainSignin.path = .endpoint .signin ∧
      filledIn? plainSignin Form.signin = some ⟨"a@x", "word"⟩ ∧
      SigninFails freshServer.world.directory "a@x" "word" ∧
      SigninFails newcomersWorld.directory "a@x" "word" ∧
      (usualSite.respond plainSignin (freshServer.withMembers newcomersWorld.directory)).1 =
        (usualSite.respond plainSignin freshServer).1 := by
  have leads : Endpoint.find plainSignin.method plainSignin.path = .endpoint .signin := by decide
  have submits : filledIn? plainSignin Form.signin = some ⟨"a@x", "word"⟩ := by decide +kernel
  have unknown : SigninFails freshServer.world.directory "a@x" "word" :=
    .unknown fun _ stored => by cases stored
  have withoutPassword : SigninFails newcomersWorld.directory "a@x" "word" :=
    .withoutPassword (m := newcomer) (by decide) rfl rfl
  exact ⟨leads, submits, unknown, withoutPassword, (signin_failures_indistinguishable usualSite
    plainSignin leads ⟨"a@x", "word"⟩ submits freshServer newcomersWorld.directory unknown
    withoutPassword).1⟩

end Site

end Web

end Gatehouse
