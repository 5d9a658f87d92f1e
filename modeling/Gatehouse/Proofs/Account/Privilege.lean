import Gatehouse.Proofs.Account.ScopeDemand
import Gatehouse.Proofs.Account.Sessions

/-!
# No operation grants privilege

The operations of the service write plain members and members that are stored already, and never
change a role.  So after any sequence of operations the administrators are among those that there
were before.  A token that reaches the records of all members is an access token that was signed
for an administrator who is stored at that moment.

Main results:

- `administrators_kept`: an administrator after a run was one before it.
- `signsOnly_flow`: the tokens that an operation signs, however it ends.
- `administrator_of_reachesAll`, `reachesAll_of_administrator`: a token reaches all records exactly
  when it is signed for an administrator.
- `no_operation_grants_privilege`: both for every run of operations.
-/

namespace Gatehouse.Account

open Gatehouse.Text Gatehouse.Token Gatehouse.Flow

/-! ## Administrators -/

/-- A directory has no administrators but those of another one, under the same ids and
addresses. -/
def AdministratorsOf (before after : Directory) : Prop :=
  ∀ m ∈ after.members, m.role = .admin →
    ∃ m₀ ∈ before.members, m₀.id = m.id ∧ m₀.email = m.email ∧ m₀.role = .admin

section Administrators

variable {s : Service} {w : World} {d d' d'' : Directory}

/-- The administrators are those that there are. -/
theorem administratorsOf_refl (d : Directory) : AdministratorsOf d d :=
  fun m member admin => ⟨m, member, rfl, rfl, admin⟩

/-- No new administrators twice are none. -/
theorem AdministratorsOf.trans (h : AdministratorsOf d d') (h' : AdministratorsOf d' d'') :
    AdministratorsOf d d'' := by
  intro m member admin
  rcases h' m member admin with ⟨m', member', hid', hemail', admin'⟩
  rcases h m' member' admin' with ⟨m₀, member₀, hid₀, hemail₀, admin₀⟩
  exact ⟨m₀, member₀, hid₀.trans hid', hemail₀.trans hemail', admin₀⟩

/-- A record that an operation may write makes nobody an administrator. -/
theorem Operation.Writes.administratorsOf {o : Operation} {r : Member} (h : o.Writes s w r)
    (stamp : String) : AdministratorsOf w.directory (w.directory.afterSave stamp r) := by
  intro m member admin
  rcases Directory.mem_afterSave member with rfl | before
  · cases h with
    | @password n stored digest enabled => exact ⟨n, stored, rfl, rfl, admin⟩
    | enrolled enrols free digest => cases admin
  · exact ⟨m, before, rfl, rfl, admin⟩

/-- An operation makes nobody an administrator, however it ends. -/
theorem administrators_flow (o : Operation) (w : World) :
    AdministratorsOf w.directory ((o.flow s).runIn w).2.directory := by
  rcases o.wrote_flow (s := s) (w := w) with kept | ⟨stamp, r, writes, after⟩
  · rw [kept]
    exact administratorsOf_refl _
  · rw [after]
    exact writes.administratorsOf stamp

/-- No run of operations makes anybody an administrator. -/
theorem administrators_kept (calls : List Call) (w : World) :
    AdministratorsOf w.directory (runAll s (calls.map .call) w).directory := by
  induction calls generalizing w with
  | nil => exact administratorsOf_refl _
  | cons c calls ih =>
    have first := administrators_flow (s := s) c.operation { w with clock := c.clock }
    exact AdministratorsOf.trans first (ih _)

end Administrators

/-! ## What operations sign -/

/-- A record of a signed token is right: its claims were signed under its text. -/
def IsSigned (s : Service) (x : Minted) : Prop :=
  ∃ ttl w, ((s.mint x.claims ttl).runIn w).1 = .ok x.token

/-- A run signs only tokens of a kind, however it ends. -/
def SignsOnly {α : Type} (s : Service) (kind : Claims → Prop) (f : Flow α) (w : World) : Prop :=
  ∃ new, (f.runIn w).2.minted = w.minted ++ new ∧ ∀ x ∈ new, IsSigned s x ∧ kind x.claims

section Signing

variable {s : Service} {w : World} {kind : Claims → Prop}

/-- Where nothing is signed, nothing is of another kind. -/
theorem signsOnly_of_minted {α : Type} {f : Flow α}
    (h : (f.runIn w).2.minted = w.minted) : SignsOnly s kind f w :=
  ⟨[], by rw [h, List.append_nil], by simp⟩

/-- Claims of the kind are signed, or nothing. -/
theorem signsOnly_mint {claims : Claims} (h : kind claims) (ttl : Int) :
    SignsOnly s kind (s.mint claims ttl) w := by
  have signs := signs_mint (s := s) (w := w) claims ttl
  unfold Signs at signs
  cases outcome : ((s.mint claims ttl).runIn w).1 with
  | error e =>
    rw [outcome] at signs
    exact signsOnly_of_minted signs
  | ok t =>
    rw [outcome] at signs
    rcases signs with ⟨new, after, rfl⟩
    refine ⟨_, after, ?_⟩
    intro x hx
    rcases List.mem_singleton.1 hx with rfl
    exact ⟨⟨ttl, w, outcome⟩, h⟩

/-- What both parts of a sequence sign only is all that it signs. -/
theorem signsOnly_bind {α β : Type} {f : Flow α} {g : α → Flow β} (first : SignsOnly s kind f w)
    (h : ∀ a w', SignsOnly s kind (g a) w') : SignsOnly s kind (f >>= g) w := by
  rcases first with ⟨new, after, kinds⟩
  unfold SignsOnly
  rw [run_bind]
  rcases run : f.runIn w with ⟨e | a, w'⟩
  · rw [run] at after
    exact ⟨new, after, kinds⟩
  · rw [run] at after
    rcases h a w' with ⟨more, after', kinds'⟩
    refine ⟨new ++ more, by rw [after', after, List.append_assoc], ?_⟩
    intro x hx
    rcases List.mem_append.1 hx with hx | hx
    · exact kinds x hx
    · exact kinds' x hx

/-- For a session tokens are signed for its member. -/
theorem signsOnly_issue {m : Member} (access : kind (accessClaims m.email m.role.scopeTexts m.id))
    (refresh : kind (refreshClaims m.email)) (presented : Option String) :
    SignsOnly s kind (s.issue m presented) w := by
  apply signsOnly_bind (signsOnly_mint access _)
  intro token w₁
  cases presented with
  | some t => exact signsOnly_of_minted rfl
  | none =>
    exact signsOnly_bind (signsOnly_mint refresh _) fun _ _ => signsOnly_of_minted rfl

/-- The claims of the tokens that an operation may sign with some members stored: access tokens
and refresh tokens of the members, and temporary tokens. -/
inductive ClaimsFor (d : Directory) (claims : Claims) : Prop
  | access {m : Member} (stored : m ∈ d.members)
    (same : claims = accessClaims m.email m.role.scopeTexts m.id)
  | refresh {email : String} (same : claims = refreshClaims email)
  | temporary {grant : SetupGrant} (same : claims = temporaryClaims grant)

/-- A flow that opens sessions signs tokens for a member that is stored then. -/
theorem Opens.signsOnly {grounds : Member → Option String → Prop} {f : Flow Session}
    (h : Opens s grounds f w) : SignsOnly s (ClaimsFor (f.runIn w).2.directory) f w := by
  rcases h with declined | ⟨m, presented, w₁, _, issued⟩
  · exact signsOnly_of_minted declined.minted
  · rw [issued.directory]
    have signs : SignsOnly s (ClaimsFor w₁.directory) (s.issue m presented) w₁ :=
      signsOnly_issue (.access issued.stored rfl) (.refresh rfl) presented
    rcases signs with ⟨new, after, kinds⟩
    exact ⟨new, by rw [issued.minted, after, issued.before], kinds⟩

/-- An operation signs tokens for members that are stored when it ends, and temporary tokens,
however it ends. -/
theorem signsOnly_flow (o : Operation) (w : World) :
    SignsOnly s (ClaimsFor ((o.flow s).runIn w).2.directory) (o.flow s) w := by
  cases o with
  | signup email password =>
    exact signsOnly_of_minted (keeps_signup apart_minted s email password w)
  | signin email password => exact opens_signin.signsOnly
  | refresh token => exact opens_refresh.signsOnly
  | issueTemporaryToken grant =>
    exact signsOnly_mint (w := w.logged _) (.temporary rfl) s.tokens.temporaryTtl
  | setupEmail token => exact signsOnly_of_minted (keeps_setupEmail s token w)
  | setInitialPassword token password => exact (opens_setInitialPassword password).signsOnly
  | changePassword email current new =>
    exact signsOnly_of_minted (keeps_changePassword apart_minted s email current new w)
  | memberByEmail email => exact signsOnly_of_minted (keeps_memberByEmail email w)
  | memberByRole role => exact signsOnly_of_minted (keeps_memberByRole role w)
  | resolveBearer token => exact signsOnly_of_minted (keeps_resolveBearer s token w)
  | grantedScopes token => exact signsOnly_of_minted (keeps_grantedScopes s token w)

end Signing

/-! ## Tokens that reach all records -/

/-- A token lists a scope on the records of all members. -/
def ReachesAll (t : String) : Prop :=
  ∃ c scope, ReadsAs t c ∧ Lists c.claims scope ∧ ":all".toList <:+ scope.toList

/-- Only administrators have such scopes. -/
theorem administrator_of_scope {r : Role} {scope : String} (h : scope ∈ r.scopeTexts)
    (all : ":all".toList <:+ scope.toList) : r = .admin := by
  cases r with
  | admin => rfl
  | member =>
    have own : ∀ x ∈ Role.member.scopeTexts, ¬ ":all".toList <:+ x.toList := by decide
    exact absurd all (own scope h)

/-- What is read of a signed token are its claims, with its times and its id. -/
theorem exists_timed_of_signed {s : Service} {x : Minted} {use : Use} {subject : Option String}
    (writable : Writable x.claims use subject) (signed : IsSigned s x) {c : Compact}
    (read : ReadsAs x.token c) :
    ∃ issuedAt expiry serial, c.claims = timedClaims x.claims issuedAt expiry serial := by
  rcases signed with ⟨ttl, w, run⟩
  rcases exists_compose_of_mint run with ⟨expiry, signature, text⟩
  rcases writable.read_compose w.clock expiry (w.ids + 1) signature with ⟨c', read', timed⟩
  rw [text] at read
  rcases read.unique read' with rfl
  exact ⟨_, _, _, timed⟩

/-- A token that reaches all records was signed for an administrator who is stored then. -/
theorem administrator_of_reachesAll {s : Service} {d : Directory} {x : Minted}
    (signed : IsSigned s x) (kind : ClaimsFor d x.claims) (reaches : ReachesAll x.token) :
    ∃ m ∈ d.members, m.role = .admin ∧
      x.claims = accessClaims m.email m.role.scopeTexts m.id := by
  rcases reaches with ⟨c, scope, read, lists, all⟩
  cases kind with
  | @access m stored same =>
    have writable := writable_accessClaims m.email m.role.scopeTexts m.id
    rcases exists_timed_of_signed (same ▸ writable) signed read with ⟨_, _, _, timed⟩
    have words := isWord_of_mem_scopeTexts m.role
    rw [timed, same, lists_timedClaims_iff (carries_accessClaims m.email words m.id)
      fun x hx => words x (List.mem_mergeSort.1 hx)] at lists
    exact ⟨m, stored, administrator_of_scope (List.mem_mergeSort.1 lists) all, same⟩
  | @refresh email same =>
    have writable := writable_refreshClaims email
    rcases exists_timed_of_signed (same ▸ writable) signed read with ⟨_, _, _, timed⟩
    rw [timed, same, lists_timedClaims_iff (carries_refreshClaims email) (by simp)] at lists
    cases lists
  | @temporary grant same =>
    have writable := writable_temporaryClaims grant
    rcases exists_timed_of_signed (same ▸ writable) signed read with ⟨_, _, _, timed⟩
    rw [timed, same, lists_timedClaims_iff (carries_temporaryClaims grant) (by simp)] at lists
    cases lists

/-- A token that was signed for an administrator reaches all records. -/
theorem reachesAll_of_administrator {s : Service} {x : Minted} {m : Member}
    (signed : IsSigned s x) (same : x.claims = accessClaims m.email m.role.scopeTexts m.id)
    (admin : m.role = .admin) : ReachesAll x.token := by
  have writable := writable_accessClaims m.email m.role.scopeTexts m.id
  have words := isWord_of_mem_scopeTexts m.role
  rcases signed with ⟨ttl, w, run⟩
  rw [same] at run
  rcases exists_compose_of_mint run with ⟨expiry, signature, text⟩
  rcases writable.read_compose w.clock expiry (w.ids + 1) signature with ⟨c, read, timed⟩
  have listed : Scope.text ⟨.read, .all⟩ ∈ m.role.scopeTexts := by
    rw [admin]
    decide
  refine ⟨c, Scope.text ⟨.read, .all⟩, text ▸ read, ?_, by decide⟩
  rw [timed, lists_timedClaims_iff (carries_accessClaims m.email words m.id)
    fun x hx => words x (List.mem_mergeSort.1 hx)]
  exact List.mem_mergeSort.2 listed

/-! ## Runs of operations -/

/-- A token was signed in a call. -/
def Call.Signed (s : Service) (c : Call) (w : World) (x : Minted) : Prop :=
  ∃ new, ((Step.call c).run s w).minted = w.minted ++ new ∧ x ∈ new

/-- A token was signed in a run of calls for a member who was an administrator at that moment:
in one of the calls, after which the member is stored as one. -/
def SignedForAdministrator (s : Service) (calls : List Call) (w : World) (x : Minted) : Prop :=
  ∃ before c after, calls = before ++ c :: after ∧
    c.Signed s (runAll s (before.map .call) w) x ∧
    ∃ m ∈ ((Step.call c).run s (runAll s (before.map .call) w)).directory.members,
      m.role = .admin ∧ x.claims = accessClaims m.email m.role.scopeTexts m.id

/-- The tokens that are signed in a run of calls and reach all records are signed for
administrators. -/
theorem exists_signed (s : Service) (calls : List Call) (w : World) :
    ∃ new, (runAll s (calls.map .call) w).minted = w.minted ++ new ∧
      ∀ x ∈ new, ReachesAll x.token → SignedForAdministrator s calls w x := by
  induction calls generalizing w with
  | nil => exact ⟨[], by simp, by simp⟩
  | cons c calls ih =>
    have first : SignsOnly s _ _ { w with clock := c.clock } := signsOnly_flow c.operation _
    rcases first with ⟨new, minted, kinds⟩
    rcases ih ((Step.call c).run s w) with ⟨more, minted', signed⟩
    refine ⟨new ++ more, ?_, ?_⟩
    · rw [List.map_cons, runAll_cons, minted', ← List.append_assoc]
      exact congrArg (· ++ more) minted
    · intro x hx reaches
      rcases List.mem_append.1 hx with hx | hx
      · exact ⟨[], c, calls, rfl, ⟨new, minted, hx⟩,
          administrator_of_reachesAll (kinds x hx).1 (kinds x hx).2 reaches⟩
      · rcases signed x hx reaches with ⟨before, c', after, rfl, signed', admin⟩
        exact ⟨c :: before, c', after, rfl, signed', admin⟩

/-- Whoever the members are at the start, and whatever sequence of operations is run, each at a
time of its own and asked for anything: every administrator at the end was one at the start, with
the same id and the same address.  And every token that was signed in the run, also in an
operation that failed, and that lists a scope on the records of all members is an access token
that was signed for a member who was an administrator at that moment. -/
theorem no_operation_grants_privilege (s : Service) (w : World) (calls : List Call) :
    AdministratorsOf w.directory (runAll s (calls.map .call) w).directory ∧
      ∃ new, (runAll s (calls.map .call) w).minted = w.minted ++ new ∧
        ∀ x ∈ new, ReachesAll x.token → SignedForAdministrator s calls w x :=
  ⟨administrators_kept calls w, exists_signed s calls w⟩

end Gatehouse.Account
