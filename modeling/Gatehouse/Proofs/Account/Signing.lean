import Gatehouse.Proofs.Account.Opening

/-!
# What operations sign

An operation accounts for the tokens that it signs: its answer carries them, and it is given on
an authority that the members and the presented token or password bear out.  An operation that
fails has signed nothing, as long as the tokens of a session have an expiry: between the two of
them nothing else can go wrong.

Main results:

- `Signs`, `signs_bind`: an operation that accounts for its tokens, and sequences of such.
- `signs_issue`: issuing a session signs the tokens that it carries.
- `signs_of_opens`: a flow that opens sessions signs the tokens that they carry.
- `signs_signin`, `signs_refresh`, `signs_setInitialPassword`: the authority that sessions are
  issued on.
-/

namespace Gatehouse.Account

open Gatehouse.Text Gatehouse.Token Gatehouse.Flow

/-! ## Accounting for tokens -/

/-- The outcome of a run accounts for the tokens signed in it: where the run succeeds its answer
accounts for them, and where it fails there are none. -/
def Accounted {ε α : Type} (accounts : α → List Minted → Prop) (before after : List Minted) :
    Except ε α → Prop
  | .ok a => ∃ new, after = before ++ new ∧ accounts a new
  | .error _ => after = before

/-- An operation accounts for the tokens that it signs. -/
def Signs {α : Type} (accounts : α → List Minted → Prop) (f : Flow α) (w : World) : Prop :=
  Accounted accounts w.minted (f.runIn w).2.minted (f.runIn w).1

section Signs

variable {α β : Type} {accounts : α → List Minted → Prop} {accounts' : β → List Minted → Prop}
  {f : Flow α} {g : α → Flow β} {w : World}

/-- Where nothing is signed, an answer has nothing to account for. -/
theorem signs_of_keeps (keeps : Keeps World.minted f)
    (h : ∀ a w', f.runIn w = (.ok a, w') → accounts a []) : Signs accounts f w := by
  have kept := keeps w
  unfold Signs
  rcases run : f.runIn w with ⟨_ | a, w'⟩
  · rwa [run] at kept
  · rw [run] at kept
    exact ⟨[], by rw [List.append_nil, kept], h a w' run⟩

/-- A sequence accounts for its tokens when its first part signs none. -/
theorem signs_bind (keeps : Keeps World.minted f)
    (h : ∀ a w', f.runIn w = (.ok a, w') → Signs accounts' (g a) w') :
    Signs accounts' (f >>= g) w := by
  have before := keeps w
  unfold Signs
  rw [run_bind]
  rcases run : f.runIn w with ⟨_ | a, w'⟩
  · rwa [run] at before
  · rw [run] at before
    rw [← before]
    exact h a w' run

/-- What is made of an answer accounts for its tokens if it tells as much as the answer. -/
theorem signs_bind_pure (signs : Signs accounts f w) {g : α → β}
    (h : ∀ a new, accounts a new → accounts' (g a) new) :
    Signs accounts' (f >>= fun a => pure (g a)) w := by
  unfold Signs at signs ⊢
  rw [run_bind]
  rcases run : f.runIn w with ⟨_ | a, w'⟩
  · rwa [run] at signs
  · rw [run] at signs
    rcases signs with ⟨new, after, answer⟩
    exact ⟨new, after, h a new answer⟩

/-- An account may be told in other words. -/
theorem Signs.mono {accounts'' : α → List Minted → Prop} (signs : Signs accounts f w)
    (h : ∀ a new, accounts a new → accounts'' a new) : Signs accounts'' f w := by
  have told := signs_bind_pure (g := id) signs h
  rwa [show (f >>= fun a => pure (id a)) = f from bind_pure f] at told

/-- Auditing an operation signs nothing. -/
theorem signs_audited {name : String} (signs : Signs accounts f (w.logged (Audit.attempt name))) :
    Signs accounts (audited name f) w := signs

end Signs

/-! ## Issuing -/

/-- The tokens that are signed for a session: its access token, and its refresh token unless one
was presented. -/
def Session.signed (session : Session) (presented : Option String) : List Minted :=
  ⟨session.accessToken,
      accessClaims session.member.email session.scopes session.member.id⟩ ::
    if presented.isSome then []
    else [⟨session.refreshToken, refreshClaims session.member.email⟩]

/-- A session is issued to a member, on a presented refresh token if there is one. -/
structure IssuedTo (m : Member) (presented : Option String) (session : Session) : Prop where
  member : session.member = m
  scopes : session.scopes = m.role.scopeTexts
  refreshToken : ∀ t, presented = some t → session.refreshToken = t

section Issuing

variable {s : Service} {w : World}

/-- A signed token is added to the record with its claims. -/
theorem signs_mint (claims : Claims) (ttl : Int) :
    Signs (fun token new => new = [⟨token, claims⟩]) (s.mint claims ttl) w := by
  apply signs_bind keeps_now
  intro now w₁ _
  apply signs_bind (keeps_liftFault _)
  intro expiry w₂ _
  apply signs_bind fun _ => rfl
  intro serial w₃ _
  apply signs_bind (keeps_liftFault _)
  intro token w₄ _
  exact ⟨_, rfl, rfl⟩

/-- Under a plain secret a token that has an expiry is signed. -/
theorem exists_minted (plain : PlainSecret s.tokens.secret) (claims : Claims) {ttl : Int}
    {expiry : Float} (he : expiryOf w.clock ttl = .ok expiry) :
    ∃ token w', (s.mint claims ttl).runIn w = (.ok token, w') ∧ w'.clock = w.clock ∧
      w'.minted = w.minted ++ [⟨token, claims⟩] := by
  rcases exists_run_mint plain claims he with ⟨token, w', run, clock⟩
  have signs := signs_mint (s := s) (w := w) claims ttl
  rw [Signs, run] at signs
  rcases signs with ⟨new, after, rfl⟩
  exact ⟨token, w', run, clock, after⟩

/-- A session is issued with its tokens signed, as long as they have an expiry. -/
theorem signs_issue (plain : PlainSecret s.tokens.secret) (lasting : Lasting s w.clock)
    (m : Member) (presented : Option String) :
    Signs (fun session new => IssuedTo m presented session ∧ new = session.signed presented)
      (s.issue m presented) w := by
  rcases lasting.access with ⟨ea, access⟩
  rcases lasting.refresh with ⟨er, refresh⟩
  rcases exists_minted plain (accessClaims m.email m.role.scopeTexts m.id) access with
    ⟨a, w₁, first, clock, minted₁⟩
  unfold Signs Service.issue Service.issueAccess Service.issueRefresh
  cases presented with
  | some t =>
    simp only [run_bind, first, run_pure]
    exact ⟨_, minted₁, ⟨rfl, rfl, fun _ same => Option.some.inj same⟩, rfl⟩
  | none =>
    rcases exists_minted (w := w₁) plain (refreshClaims m.email) (clock ▸ refresh) with
      ⟨r, w₂, second, _, minted₂⟩
    simp only [run_bind, first, second, run_pure]
    rw [minted₁, List.append_assoc] at minted₂
    exact ⟨_, minted₂, ⟨rfl, rfl, fun _ same => by cases same⟩, rfl⟩

end Issuing

/-! ## Sessions -/

section Sessions

variable {s : Service} {w : World} {token : Option String}

/-- A flow that opens sessions accounts for the tokens that they carry. -/
theorem signs_of_opens (plain : PlainSecret s.tokens.secret) (lasting : Lasting s w.clock)
    {grounds : Member → Option String → Prop} {f : Flow Session} (h : Opens s grounds f w) :
    Signs (fun session new => ∃ presented, grounds session.member presented ∧
        IssuedTo session.member presented session ∧ new = session.signed presented) f w := by
  unfold Signs
  rcases h with declined | ⟨m, presented, w₁, ground, issued⟩
  · rcases declined.outcome with ⟨e, failed⟩
    rw [failed]
    exact declined.minted
  · rw [issued.outcome, issued.minted, ← issued.before]
    apply (signs_issue plain (by rwa [issued.clock]) m presented).mono
    rintro session new ⟨issuedTo, signed⟩
    rcases issuedTo.member with rfl
    exact ⟨presented, ground, issuedTo, signed⟩

/-- A session is issued to the member that is recognised. -/
theorem signs_signin (plain : PlainSecret s.tokens.secret) (lasting : Lasting s w.clock)
    {email password : Option String} :
    Signs (fun session new => Recognises w.directory email password session.member ∧
        new = session.signed none) (s.signin email password) w := by
  apply (signs_of_opens plain lasting opens_signin).mono
  rintro session new ⟨_, ⟨recognised, rfl⟩, _, signed⟩
  exact ⟨recognised, signed⟩

/-- A session is renewed for the member that the token names. -/
theorem signs_refresh (plain : PlainSecret s.tokens.secret) (lasting : Lasting s w.clock) :
    Signs (fun session new => Renews s w token session.member ∧
        (∀ t, token = some t → session.refreshToken = t) ∧ new = session.signed token)
      (s.refresh token) w := by
  apply (signs_of_opens plain lasting opens_refresh).mono
  rintro session new ⟨_, ⟨renews, rfl⟩, issued, signed⟩
  exact ⟨renews, issued.refreshToken, signed⟩

/-- A session is issued with a first password for the address that the token sets up. -/
theorem signs_setInitialPassword (plain : PlainSecret s.tokens.secret)
    (lasting : Lasting s w.clock) (password : Option String) :
    Signs (fun session new => (∃ email, SetsUp s w token email) ∧ new = session.signed none)
      (s.setInitialPassword token password) w := by
  apply (signs_of_opens plain lasting (opens_setInitialPassword password)).mono
  rintro session new ⟨_, ⟨setsUp, rfl⟩, _, signed⟩
  exact ⟨setsUp, signed⟩

end Sessions

end Gatehouse.Account
