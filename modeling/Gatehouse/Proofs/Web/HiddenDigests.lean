import Gatehouse.Proofs.Account.Likeness
import Gatehouse.Proofs.Password.Digests
import Gatehouse.Proofs.Web.SigninFailures

/-!
# Digests stay inside

Of a digest a client learns no more than whether there is one and whether the password that it sent
belongs to it.  With other digests, for which this is the same, every request has the same response
and leaves the same lines in the log; and afterwards the members are again the same but for their
digests.

Main results:

- `Checks`: the passwords that are checked for a request.
- `mirrors_run`: no endpoint shows a digest.
- `digests_never_shown`: two servers whose members differ in digests.
-/

namespace Gatehouse.Web

open Gatehouse.Text Gatehouse.Form Gatehouse.Account Gatehouse.Flow Gatehouse.Member

namespace Site

/-- A password is checked for an address when a request is answered: the one to sign in with, or the
current one of the caller, whose address the token names. -/
inductive Checks (r : Request) (email : String) : Option String → Prop
  | signin {password : String} (leads : Endpoint.find r.method r.path = .endpoint .signin)
    (submits : filledIn? r Form.signin = some ⟨email, password⟩) : Checks r email password
  | change {t : String} {f : Replacement}
    (leads : Endpoint.find r.method r.path = .endpoint .passwordChange)
    (presents : Presents r.headers t) (names : Names t email)
    (submits : filledIn? r Form.passwordChange = some f) : Checks r email f.currentPassword

section Mirrors

variable {counts : String → Option String → Prop} {r : Request} {site : Site}

/-! ## What clients see -/

/-- Clients see no digest of a member. -/
theorem memberJson_of_twins {m m' : Member} (h : Twins counts m m') :
    memberJson m' = memberJson m := by
  rw [memberJson, h.hasPassword, h.record]
  rfl

/-- Clients see only the tokens and the scopes of a session. -/
theorem sessionJson_of_alike {x y : Session} (h : SessionsAlike counts x y) :
    site.sessionJson y = site.sessionJson x := by
  rw [sessionJson, h.accessToken, h.refreshToken, h.scopes]
  rfl

/-- Answers that are related are shown alike if what is shown of them is the same. -/
theorem mirrors_shown {α : Type} {R : World → World → Prop} {Q : α → α → Prop} {f g : Flow α}
    {shown : α → Response} (h : Mirrors R Q f g) (same : ∀ a b, Q a b → shown b = shown a) :
    Mirrors R Eq (f >>= fun a => pure (shown a)) (g >>= fun a => pure (shown a)) :=
  mirrors_bind h fun a b related => mirrors_pure (same a b related).symm

/-! ## Forms and callers -/

/-- What is done with a form after what was asked for first mirrors itself if the parts do. -/
theorem mirrors_submittedAfter {α β : Type} {R : World → World → Prop} {Q : β → β → Prop}
    {first : Flow (Except Response β)} {form : Form α} {act : β → α → Flow Response}
    (asked : Mirrors R (Matched Q) first first)
    (acts : ∀ b b' a, Q b b' → filledIn? r form = some a → Mirrors R Eq (act b a) (act b' a)) :
    Mirrors R Eq (submittedAfter r first form act) (submittedAfter r first form act) := by
  unfold submittedAfter
  cases read : readSubmission r with
  | error fault => exact mirrors_pure rfl
  | ok submission =>
    apply mirrors_bind asked
    intro x y matched
    cases matched with
    | error response => exact mirrors_pure rfl
    | ok related =>
      cases checked : form.submitted submission with
      | error findings => exact mirrors_pure rfl
      | ok a =>
        have filled : filledIn? r form = some a := by
          rw [filledIn?, read]
          simp only [checked]
          rfl
        exact acts _ _ a related filled

/-- What is done with a form mirrors itself if it does so for what is filled in. -/
theorem mirrors_submitted {α : Type} {R : World → World → Prop} {form : Form α}
    {act : α → Flow Response}
    (acts : ∀ a, filledIn? r form = some a → Mirrors R Eq (act a) (act a)) :
    Mirrors R Eq (submitted r form act) (submitted r form act) :=
  mirrors_submittedAfter (mirrors_pure (.ok rfl)) fun _ _ a _ filled => acts a filled

/-- Who makes a request is asked for alike. -/
theorem mirrors_caller {check : Caller → Except Denial Member} {known : Member → Prop}
    (checks : ∀ c c', CallersAlike counts (fun m => ∃ t, Presents r.headers t ∧ Names t m.email)
      c c' → Matched (fun m m' => Twins counts m m' ∧ known m) (check c) (check c')) :
    Mirrors (Alike counts) (Matched fun m m' => Twins counts m m' ∧ known m) (site.caller r check)
      (site.caller r check) :=
  mirrors_bind (mirrors_identify r.headers) fun c c' alike =>
    mirrors_pure ((checks c c' alike).mapError Response.ofDenial)

/-- Callers who are alike are both signed in, or neither is. -/
theorem authenticated_of_alike {known : Member → Prop} {c c' : Caller}
    (h : CallersAlike counts known c c') :
    Matched (fun m m' => Twins counts m m' ∧ known m) c.authenticated c'.authenticated := by
  rcases c with ⟨member, scopes⟩
  rcases c' with ⟨member', scopes'⟩
  rcases h with ⟨twins, -, known⟩
  cases twins with
  | none => exact .error _
  | some twins => exact .ok ⟨twins, known _ rfl⟩

/-- Callers who are alike both have a scope, or neither has. -/
theorem demand_of_alike {known : Member → Prop} {c c' : Caller}
    (h : CallersAlike counts known c c') (scope : String) :
    Matched (fun m m' => Twins counts m m' ∧ known m) (c.demand scope) (c'.demand scope) := by
  rcases c with ⟨member, scopes⟩
  rcases c' with ⟨member', scopes'⟩
  rcases h with ⟨twins, same, known⟩
  rcases (show scopes' = scopes from same) with rfl
  rw [demand_eq, demand_eq]
  cases twins with
  | none => exact .error _
  | some twins =>
    simp only
    split
    · exact .ok ⟨twins, known _ rfl⟩
    · exact .error _

/-- What a caller with a scope asks for mirrors itself if what is done does. -/
theorem mirrors_admitted {scope : String} {act : Member → Flow Response}
    (acts : ∀ m m', Twins counts m m' → Mirrors (Alike counts) Eq (act m) (act m')) :
    Mirrors (Alike counts) Eq (site.admitted r (·.demand scope) act)
      (site.admitted r (·.demand scope) act) := by
  apply mirrors_bind (mirrors_caller fun c c' alike => demand_of_alike alike scope)
  intro x y matched
  cases matched with
  | error response => exact mirrors_pure rfl
  | ok related => exact acts _ _ related.1

end Mirrors

/-! ## The endpoints -/

/-- No endpoint shows a digest. -/
theorem mirrors_run (site : Site) (r : Request) {e : Endpoint}
    (leads : Endpoint.find r.method r.path = .endpoint e) :
    Mirrors (Alike (Checks r)) Eq (site.run r e) (site.run r e) := by
  cases e with
  | signin =>
    refine mirrors_submitted fun c submits => mirrors_shown (mirrors_signin ?_) fun _ _ alike => by
      rw [sessionJson_of_alike alike]
    intro email named
    rcases Option.some.inj named with rfl
    exact .signin leads submits
  | refresh =>
    exact mirrors_submitted fun f _ => mirrors_shown (mirrors_refresh _) fun _ _ alike => by
      rw [sessionJson_of_alike alike]
  | temporaryToken =>
    refine mirrors_submitted fun c _ => mirrors_ite (fun _ => mirrors_pure rfl) fun _ =>
      mirrors_ite (fun _ => mirrors_pure rfl) fun _ => ?_
    apply mirrors_bind_same (mirrors_liftFault _)
    intro grant
    exact mirrors_shown (mirrors_issueTemporaryToken grant) fun _ _ same => by rw [same]
  | passwordSetup =>
    refine mirrors_submitted fun f _ => ?_
    cases bearerToken? r.headers with
    | none => exact mirrors_pure rfl
    | some token =>
      exact mirrors_shown (mirrors_setInitialPassword _ _) fun _ _ alike => by
        rw [sessionJson_of_alike alike]
  | passwordChange =>
    refine mirrors_submittedAfter (mirrors_caller fun c c' => authenticated_of_alike) ?_
    rintro m m' f ⟨twins, t, presents, names⟩ submits
    rw [twins.email]
    refine mirrors_bind_same (mirrors_changePassword ?_ _) fun _ => mirrors_pure rfl
    -- the password is checked for the address of the caller, which the token names
    intro email named
    rcases Option.some.inj named with rfl
    exact .change leads presents names submits
  | signup =>
    exact mirrors_submitted fun c _ => mirrors_shown (mirrors_signup _ _) fun _ _ twins => by
      rw [memberJson_of_twins twins]
  | ownRecord =>
    exact mirrors_admitted fun m m' twins => mirrors_pure (by rw [memberJson_of_twins twins])
  | memberByEmail =>
    refine mirrors_admitted fun _ _ _ => ?_
    cases askedEmail r.query with
    | error findings => exact mirrors_pure rfl
    | ok email =>
      exact mirrors_shown (mirrors_memberByEmail _) fun _ _ twins => by
        rw [memberJson_of_twins twins]
  | health => exact mirrors_pure rfl

/-! ## The server -/

/-- Worlds that are the same but for digests resemble each other. -/
theorem resembling_alike (counts : String → Option String → Prop) : Resembling (Alike counts) :=
  ⟨fun w w' h => by rw [h.rest], Alike.logged⟩

/-- A server with other digests, where the same members have a password and where the password that
is checked has the same verdict, gives the same response to a request.  Afterwards it is the same
server, with the same lines in its log, but for its members, and these are again the same but for
their digests. -/
theorem digests_never_shown (site : Site) (r : Request) (s : Server) (d : Directory)
    (twinned : Directory.Twinned (Checks r) s.world.directory d) :
    (site.respond r (s.withMembers d)).1 = (site.respond r s).1 ∧
      ∃ d', Directory.Twinned (Checks r) (site.respond r s).2.world.directory d' ∧
        (site.respond r (s.withMembers d)).2 = (site.respond r s).2.withMembers d' := by
  have alike : Alike (Checks r) s.world (s.withMembers d).world := ⟨rfl, twinned⟩
  have endpoints : EndpointsAgree (Alike (Checks r)) r (site.run r) (site.run r) s.world
      (s.withMembers d).world := by
    intro e leads
    have mirrors := mirrors_run site r leads
    exact settled_agree (resembling_alike _)
      ⟨(mirrors.outcomes alike).eq, mirrors.worlds alike⟩
  have agree : ServersAgree (Alike (Checks r)) (site.respond r s)
      (site.respond r (s.withMembers d)) :=
    respond_agree site (resembling_alike _) alike rfl endpoints
  exact ⟨agree.answer.symm, _, agree.worlds.members,
    Server.eq_withMembers agree.worlds.rest agree.limiter⟩

/-- A digest of the password of the plain sign-in, with the salt of a serial number. -/
def wordDigest (serial : Nat) : Password.Digest :=
  .ofSecret 'b' 4 (Password.salt serial) (utf8 "word")

/-- The first member, after it has chosen that password. -/
def wordHolder (serial : Nat) : Member :=
  { newcomer with passwordDigest := (wordDigest serial).render }

/-- The first member alone, after it has chosen that password. -/
def wordDirectory (serial : Nat) : Directory :=
  ⟨[wordHolder serial], List.nodup_singleton _, List.nodup_singleton _⟩

/-- A client that signs in with the right password cannot tell with which salt it was hashed. -/
theorem salt_hidden_at_signin :
    (wordHolder 1).passwordDigest ≠ (wordHolder 2).passwordDigest ∧
      Directory.Twinned (Checks plainSignin) (wordDirectory 1) (wordDirectory 2) ∧
      (usualSite.respond plainSignin (freshServer.withMembers (wordDirectory 2))).1 =
        (usualSite.respond plainSignin (freshServer.withMembers (wordDirectory 1))).1 := by
  have wellFormed (serial : Nat) : (wordDigest serial).WellFormed :=
    Password.wellFormed_ofSecret (by decide) (by decide) serial (utf8 "word")
  have differ : (wordHolder 1).passwordDigest ≠ (wordHolder 2).passwordDigest := by
    intro same
    have digests : wordDigest 1 = wordDigest 2 :=
      (wellFormed 1).eq_of_render (wellFormed 2) (Option.some.inj same)
    have salts : Password.salt 1 = Password.salt 2 := congrArg Password.Digest.salt digests
    exact absurd salts (by decide +kernel)
  have leads : Endpoint.find plainSignin.method plainSignin.path = .endpoint .signin := by decide
  have submits : filledIn? plainSignin Form.signin = some ⟨"a@x", "word"⟩ := by decide +kernel
  have chosen (serial : Nat) : (wordHolder serial).hasPassword = true :=
    (Member.hasPassword_eq_true_iff _).2 ⟨_, rfl, Password.render_ne_empty _⟩
  have hashable : Password.secretBytes "word" = .ok (utf8 "word") := by decide +kernel
  have created : Password.Verifier.create 4 = .ok ⟨4⟩ := rfl
  have accepted (serial : Nat) :
      Password.accepts "word" (wordHolder serial).passwordDigest = true :=
    Password.accepts_own_digest created hashable serial
  have twinned : Directory.Twinned (Checks plainSignin) (wordDirectory 1) (wordDirectory 2) := by
    refine .cons ⟨rfl, (chosen 2).trans (chosen 1).symm, ?_⟩ .nil
    rintro password (⟨-, filled⟩ | ⟨elsewhere, -, -, -⟩)
    · rcases Option.some.inj (submits.symm.trans filled) with ⟨-, rfl⟩
      exact (accepted 2).trans (accepted 1).symm
    · cases leads.symm.trans elsewhere
  exact ⟨differ, twinned, (digests_never_shown usualSite plainSignin
    (freshServer.withMembers (wordDirectory 1)) (wordDirectory 2) twinned).1⟩

end Site

end Gatehouse.Web
