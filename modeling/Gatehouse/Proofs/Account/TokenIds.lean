import Gatehouse.Proofs.Account.Moves
import Gatehouse.Proofs.Account.Runs
import Gatehouse.Proofs.Account.Signing

/-!
# Every token has an id of its own

A token is signed under an id that is drawn for it, and the id is read back from its text, whatever
else the token claims and whatever it is signed with.  The ids that are drawn in a run carry serial
numbers that only grow.  So the tokens of a run are pairwise different texts, whoever they are
issued to, of whichever type they are and at whichever times they are issued, unless two of the
drawn ids are the same.

Main results:

- `numbered_of_issue`: the id of an issued token is read back from its text.
- `SignsInOrder`, `signsInOrder_runIssuing`: the tokens of a run carry ids in the order in which
  these were drawn.
- `neverRepeats_of_lt`: the ids of the first 16 ^ 12 draws are different.
- `issued_tokens_pairwise_distinct`: the tokens of a run are pairwise different.
-/

namespace Gatehouse.Account

open Gatehouse.Text Gatehouse.Token Gatehouse.Flow

/-! ## Ids -/

/-- No id is drawn twice between two serial numbers. -/
def NeverRepeats (first last : Nat) : Prop :=
  ∀ i j, first < i → i ≤ last → first < j → j ≤ last → tokenId i = tokenId j → i = j

/-- The id of a serial number has its last twelve hexadecimal digits. -/
theorem mod_eq_of_tokenId_eq {i j : Nat} (h : tokenId i = tokenId j) :
    i % 16 ^ 12 = j % 16 ^ 12 := by
  have digits : hexList 12 i = hexList 12 j :=
    String.ofList_injective ((String.append_right_inj _).1 h)
  have values := congrArg hexListValue? digits
  rw [hexListValue?_hexList, hexListValue?_hexList] at values
  exact Option.some.inj values

/-- Among so many draws no id is drawn twice. -/
theorem neverRepeats_of_lt {first last : Nat} (few : last < 16 ^ 12) : NeverRepeats first last := by
  intro i j _ hi _ hj same
  have mods := mod_eq_of_tokenId_eq same
  rwa [Nat.mod_eq_of_lt (by omega), Nat.mod_eq_of_lt (by omega)] at mods

/-- A text is a token with the id of a serial number. -/
def Numbered (t : String) (serial : Nat) : Prop :=
  ∃ c, ReadsAs t c ∧ Keyed.lookup c.claims "jti" = some (.string (tokenId serial))

/-- A token has one id. -/
theorem Numbered.tokenId_eq {t : String} {i j : Nat} (h : Numbered t i) (h' : Numbered t j) :
    tokenId i = tokenId j := by
  rcases h with ⟨c, read, id⟩
  rcases h' with ⟨c', read', id'⟩
  rcases read.unique read' with rfl
  exact Json.string.inj (Option.some.inj (id.symm.trans id'))

/-! ## Signing under the next id -/

section Mint

variable {s : Service} {w : World}

/-- An issued token has the id that was drawn for it. -/
theorem numbered_of_issue {o : Order} {t : String} (h : ((o.issue s).runIn w).1 = .ok t) :
    Numbered t (w.ids + 1) := by
  rw [o.issue_eq_mint] at h
  rcases exists_compose_of_mint h with ⟨expiry, signature, rfl⟩
  rcases o.writable_claims.read_compose w.clock expiry (w.ids + 1) signature with ⟨c, read, timed⟩
  refine ⟨c, read, ?_⟩
  rw [timed]
  exact o.issuable_claims.lookup_jti w.clock expiry (w.ids + 1)

/-- Signing a token draws one id, and failing to sign one draws at most one. -/
theorem ids_mint (claims : Claims) (ttl : Int) :
    w.ids ≤ ((s.mint claims ttl).runIn w).2.ids ∧
      ∀ t, ((s.mint claims ttl).runIn w).1 = .ok t →
        ((s.mint claims ttl).runIn w).2.ids = w.ids + 1 := by
  simp only [Service.mint, run_bind, run_now, run_liftFault, run_freshId, run_note, run_pure]
  cases expiryOf w.clock ttl with
  | error f => exact ⟨Nat.le_refl _, fun t impossible => by cases impossible⟩
  | ok expiry =>
    simp only [Except.mapError]
    cases s.tokens.seal claims w.clock expiry (w.ids + 1) with
    | error f => exact ⟨Nat.le_succ _, fun t impossible => by cases impossible⟩
    | ok token => exact ⟨Nat.le_succ _, fun _ _ => rfl⟩

/-- A token that is issued is the one that is added to the record. -/
theorem yields_mint (claims : Claims) (ttl : Int) :
    Yields (fun t w' => w'.minted = w.minted ++ [⟨t, claims⟩]) (s.mint claims ttl) w := by
  refine ⟨fun t w' run => ?_⟩
  have signs := signs_mint (s := s) (w := w) claims ttl
  rw [Signs, run] at signs
  rcases signs with ⟨new, after, rfl⟩
  exact after

end Mint

/-! ## Tokens in order -/

/-- Tokens with their serial numbers are in order: each has the id of its number, which was drawn
within some bounds, and later tokens have later numbers. -/
structure InOrder (tokens : List (Minted × Nat)) (first last : Nat) : Prop where
  numbered : ∀ x ∈ tokens, Numbered x.1.token x.2
  drawn : ∀ x ∈ tokens, first < x.2 ∧ x.2 ≤ last
  ordered : tokens.Pairwise fun x y => x.2 < y.2

/-- The tokens that were signed between an earlier and a later world are in order, with serial
numbers that were drawn in between. -/
def SignsInOrder (before after : World) : Prop :=
  before.ids ≤ after.ids ∧ ∃ tokens, InOrder tokens before.ids after.ids ∧
    after.minted = before.minted ++ tokens.map Prod.fst

/-- Where nothing is signed, nothing is out of order. -/
theorem signsInOrder_of_minted {before after : World} (ids : before.ids ≤ after.ids)
    (minted : after.minted = before.minted) : SignsInOrder before after :=
  ⟨ids, [], ⟨by simp, by simp, .nil⟩, by simpa using minted⟩

/-- Tokens in order, and more tokens with later numbers, are in order. -/
theorem InOrder.append {tokens more : List (Minted × Nat)} {first mid last : Nat}
    (h : InOrder tokens first mid) (h' : InOrder more mid last) (lower : first ≤ mid)
    (upper : mid ≤ last) : InOrder (tokens ++ more) first last := by
  refine ⟨?_, ?_, List.pairwise_append.2 ⟨h.ordered, h'.ordered, ?_⟩⟩
  · intro x hx
    exact (List.mem_append.1 hx).elim (h.numbered x) (h'.numbered x)
  · intro x hx
    rcases List.mem_append.1 hx with hx | hx
    · exact ⟨(h.drawn x hx).1, (h.drawn x hx).2.trans upper⟩
    · exact ⟨lower.trans_lt (h'.drawn x hx).1, (h'.drawn x hx).2⟩
  · intro x hx y hy
    exact (h.drawn x hx).2.trans_lt (h'.drawn y hy).1

/-- What is signed later has later ids. -/
theorem SignsInOrder.trans {w w' w'' : World} (h : SignsInOrder w w') (h' : SignsInOrder w' w'') :
    SignsInOrder w w'' := by
  rcases h with ⟨ids, tokens, inOrder, minted⟩
  rcases h' with ⟨ids', more, inOrder', minted'⟩
  refine ⟨ids.trans ids', tokens ++ more, inOrder.append inOrder' ids ids', ?_⟩
  rw [minted', minted, List.append_assoc, List.map_append]

/-- Issuing a token signs it under the next id. -/
theorem signsInOrder_issue (s : Service) (o : Order) (w : World) :
    SignsInOrder w ((o.issue s).runIn w).2 := by
  have numbered {t : String} := numbered_of_issue (s := s) (w := w) (o := o) (t := t)
  rw [o.issue_eq_mint] at numbered ⊢
  rcases ids_mint (s := s) (w := w) o.claims (o.ttl s.tokens) with ⟨grows, next⟩
  have signs := signs_mint (s := s) (w := w) o.claims (o.ttl s.tokens)
  unfold Signs at signs
  cases outcome : ((s.mint o.claims (o.ttl s.tokens)).runIn w).1 with
  | error e =>
    rw [outcome] at signs
    exact signsInOrder_of_minted grows signs
  | ok t =>
    rw [outcome] at signs
    rcases signs with ⟨new, after, rfl⟩
    refine ⟨grows, [(⟨t, o.claims⟩, w.ids + 1)], ⟨?_, ?_, List.pairwise_singleton _ _⟩, after⟩
    · intro x hx
      rcases List.mem_singleton.1 hx with rfl
      exact numbered outcome
    · intro x hx
      rcases List.mem_singleton.1 hx with rfl
      exact ⟨Nat.lt_succ_self _, (next t outcome).ge⟩

/-- All that a service does keeps its tokens in order. -/
theorem admits_signsInOrder (s : Service) : Admits s SignsInOrder where
  refl _ := signsInOrder_of_minted (Nat.le_refl _) rfl
  trans := SignsInOrder.trans
  log _ _ := signsInOrder_of_minted (Nat.le_refl _) rfl
  directory _ _ := signsInOrder_of_minted (Nat.le_refl _) rfl
  id _ := signsInOrder_of_minted (Nat.le_succ _) rfl
  salt _ := signsInOrder_of_minted (Nat.le_refl _) rfl
  order o w := signsInOrder_issue s o w

/-- Tokens in order are pairwise different if no id is drawn twice. -/
theorem InOrder.nodup {tokens : List (Minted × Nat)} {first last : Nat}
    (h : InOrder tokens first last) (fresh : NeverRepeats first last) :
    ((tokens.map Prod.fst).map Minted.token).Nodup := by
  rw [List.map_map, List.Nodup, List.pairwise_map]
  apply h.ordered.imp_of_mem
  intro x y hx hy earlier same
  have other := h.numbered y hy
  rw [← show x.1.token = y.1.token from same] at other
  have ids := (h.numbered x hx).tokenId_eq other
  have serials := fresh x.2 y.2 (h.drawn x hx).1 (h.drawn x hx).2 (h.drawn y hy).1 (h.drawn y hy).2
  exact earlier.ne (serials ids)

/-! ## Answers -/

/-- The tokens that are new in the answer of an operation. -/
def Operation.issued : (o : Operation) → o.Answer → List String
  | .signin .., session => [session.accessToken, session.refreshToken]
  | .refresh _, session => [session.accessToken]
  | .issueTemporaryToken _, token => [token]
  | .setInitialPassword .., session => [session.accessToken, session.refreshToken]
  | .signup .., _ => []
  | .setupEmail _, _ => []
  | .changePassword .., _ => []
  | .memberByEmail _, _ => []
  | .memberByRole _, _ => []
  | .resolveBearer _, _ => []
  | .grantedScopes _, _ => []

section Answers

variable {s : Service} {w : World}

/-- The tokens of a session that is issued are the ones that are added to the record. -/
theorem yields_signed (m : Member) (presented : Option String) :
    Yields (fun session w' => w'.minted = w.minted ++ session.signed presented)
      (s.issue m presented) w := by
  apply yields_bind (yields_mint (accessClaims m.email m.role.scopeTexts m.id) _)
  intro access w₁ first
  cases presented with
  | some t => exact yields_of_run (run_pure _ _) first
  | none =>
    apply yields_bind (yields_mint (refreshClaims m.email) _)
    intro refresh w₂ second
    refine yields_of_run (run_pure _ _) ?_
    rw [second, first, List.append_assoc]
    rfl

/-- A flow that opens sessions adds the tokens of its session to the record. -/
theorem Opens.minted {grounds : Member → Option String → Prop} {f : Flow Session}
    {session : Session} (h : Opens s grounds f w) (opened : (f.runIn w).1 = .ok session) :
    ∃ m presented, grounds m presented ∧
      (f.runIn w).2.minted = w.minted ++ session.signed presented := by
  rcases h with declined | ⟨m, presented, w₁, ground, issues⟩
  · rcases declined.outcome with ⟨e, failed⟩
    rw [failed] at opened
    cases opened
  · refine ⟨m, presented, ground, ?_⟩
    rw [issues.outcome] at opened
    rw [issues.minted, ← issues.before]
    exact (yields_signed m presented).of_run session _ (run_of_outcome opened)

/-- The new tokens in the answer of an operation are among those that it adds to the record, in the
same order. -/
theorem Operation.issued_sublist {o : Operation} {answer : o.Answer} {new : List Minted}
    (answered : ((o.flow s).runIn w).1 = .ok answer)
    (minted : ((o.flow s).runIn w).2.minted = w.minted ++ new) :
    (o.issued answer).Sublist (new.map Minted.token) := by
  cases o with
  | signin email password =>
    rcases opens_signin.minted answered with ⟨m, _, ⟨_, rfl⟩, after⟩
    rcases List.append_cancel_left (minted.symm.trans after) with rfl
    exact List.Sublist.refl _
  | refresh token =>
    rcases opens_refresh.minted answered with ⟨m, presented, _, after⟩
    rcases List.append_cancel_left (minted.symm.trans after) with rfl
    exact List.singleton_sublist.2 List.mem_cons_self
  | issueTemporaryToken grant =>
    have after := (yields_mint (w := w.logged (Audit.attempt "issue_temporary_token"))
      (temporaryClaims grant) s.tokens.temporaryTtl).of_run answer _ (run_of_outcome answered)
    rcases List.append_cancel_left (minted.symm.trans after) with rfl
    exact List.Sublist.refl _
  | setInitialPassword token password =>
    rcases (opens_setInitialPassword password).minted answered with ⟨m, _, ⟨_, rfl⟩, after⟩
    rcases List.append_cancel_left (minted.symm.trans after) with rfl
    exact List.Sublist.refl _
  | _ => exact List.nil_sublist _

end Answers

/-! ## Runs -/

/-- What a service is called for: a token, or one of its operations. -/
inductive Demand
  | order (o : Order)
  | operation (o : Operation)

/-- A call of a service at a time; the services of a run may have secrets and lifetimes of their
own. -/
structure Issuing where
  service : Service
  clock : Float
  demand : Demand

namespace Issuing

variable (c : Issuing) (w : World)

/-- The world after a call. -/
def run : World :=
  match c.demand with
  | .order o => ((o.issue c.service).runIn { w with clock := c.clock }).2
  | .operation o => ((o.flow c.service).runIn { w with clock := c.clock }).2

/-- The new tokens that a call is answered with. -/
def answered : List String :=
  match c.demand with
  | .order o =>
    match ((o.issue c.service).runIn { w with clock := c.clock }).1 with
    | .ok t => [t]
    | .error _ => []
  | .operation o =>
    match ((o.flow c.service).runIn { w with clock := c.clock }).1 with
    | .ok answer => o.issued answer
    | .error _ => []

/-- A call keeps its tokens in order. -/
theorem signsInOrder_run : SignsInOrder w (c.run w) := by
  have kept : SignsInOrder { w with clock := c.clock } (c.run w) := by
    unfold run
    cases c.demand with
    | order o => exact signsInOrder_issue c.service o _
    | operation o => exact leads_flow (admits_signsInOrder c.service) o _
  exact kept

/-- The new tokens that a call is answered with are among those that it adds to the record. -/
theorem answered_sublist {new : List Minted} (minted : (c.run w).minted = w.minted ++ new) :
    (c.answered w).Sublist (new.map Minted.token) := by
  unfold run at minted
  unfold answered
  cases h : c.demand with
  | order o =>
    rw [h] at minted
    simp only at minted ⊢
    split
    · next t issued =>
      rw [o.issue_eq_mint] at issued minted
      have after := (yields_mint o.claims (o.ttl c.service.tokens)).of_run t _
        (run_of_outcome issued)
      rcases List.append_cancel_left (minted.symm.trans after) with rfl
      exact List.Sublist.refl _
    · exact List.nil_sublist _
  | operation o =>
    rw [h] at minted
    simp only at minted ⊢
    split
    · next answer ok => exact Operation.issued_sublist ok minted
    · exact List.nil_sublist _

/-- A token that is asked for under a plain secret, with an expiry, is the answer, and draws one
id. -/
theorem exists_answered {c : Issuing} {o : Order} {expiry : Float} (asked : c.demand = .order o)
    (plain : PlainSecret c.service.tokens.secret)
    (expires : expiryOf c.clock (o.ttl c.service.tokens) = .ok expiry) (w : World) :
    ∃ t, c.answered w = [t] ∧ (c.run w).ids = w.ids + 1 := by
  rcases exists_run_mint (w := { w with clock := c.clock }) plain o.claims expires with
    ⟨t, w', run, _⟩
  have ids := (ids_mint (w := { w with clock := c.clock }) (s := c.service) o.claims
    (o.ttl c.service.tokens)).2 t (by rw [run])
  refine ⟨t, ?_, ?_⟩
  · simp only [answered, asked, o.issue_eq_mint, run]
  · simpa only [Issuing.run, asked, o.issue_eq_mint] using ids

end Issuing

/-- The world after the calls of a run, one after the other. -/
def runIssuing (calls : List Issuing) (w : World) : World :=
  calls.foldl (fun w c => c.run w) w

/-- The new tokens that the calls of a run are answered with, in their order. -/
def answeredAll : List Issuing → World → List String
  | [], _ => []
  | c :: calls, w => c.answered w ++ answeredAll calls (c.run w)

/-- A run keeps its tokens in order. -/
theorem signsInOrder_runIssuing (calls : List Issuing) (w : World) :
    SignsInOrder w (runIssuing calls w) := by
  induction calls generalizing w with
  | nil => exact signsInOrder_of_minted (Nat.le_refl _) rfl
  | cons c calls ih => exact (c.signsInOrder_run w).trans (ih (c.run w))

/-- The new tokens that the calls of a run are answered with are among those that it adds to the
record. -/
theorem answeredAll_sublist (calls : List Issuing) (w : World) {new : List Minted}
    (minted : (runIssuing calls w).minted = w.minted ++ new) :
    (answeredAll calls w).Sublist (new.map Minted.token) := by
  induction calls generalizing w new with
  | nil => exact List.nil_sublist _
  | cons c calls ih =>
    rcases c.signsInOrder_run w with ⟨_, first, _, minted₁⟩
    rcases signsInOrder_runIssuing calls (c.run w) with ⟨_, rest, _, minted₂⟩
    have split : new = first.map Prod.fst ++ rest.map Prod.fst := by
      have both : (runIssuing calls (c.run w)).minted = w.minted ++ new := minted
      rw [minted₂, minted₁, List.append_assoc] at both
      exact (List.append_cancel_left both).symm
    rw [split, List.map_append]
    exact (c.answered_sublist w minted₁).append (ih (c.run w) minted₂)

/-- The tokens of a run are pairwise different.  Whatever tokens are asked for in a run, by whom, at
which times and under which secrets, directly or through the operations of the service: unless an
id is drawn twice, the tokens that the calls are answered with are pairwise different texts, and so
are all that were signed, those of calls that failed included. -/
theorem issued_tokens_pairwise_distinct (calls : List Issuing) (w : World)
    (fresh : NeverRepeats w.ids (runIssuing calls w).ids) :
    (answeredAll calls w).Nodup ∧
      ∃ new, (runIssuing calls w).minted = w.minted ++ new ∧ (new.map Minted.token).Nodup ∧
        (answeredAll calls w).Sublist (new.map Minted.token) := by
  rcases signsInOrder_runIssuing calls w with ⟨_, tokens, inOrder, minted⟩
  have distinct := inOrder.nodup fresh
  have sublist := answeredAll_sublist calls w minted
  exact ⟨distinct.sublist sublist, tokens.map Prod.fst, minted, distinct, sublist⟩

/-- Calls for one token of each type, for one address at one time. -/
def callsAtOnce : List Issuing :=
  [⟨plainService, 1700000000.5, .order (.access "a@x" [] none)⟩,
    ⟨plainService, 1700000000.5, .order (.refresh "a@x")⟩,
    ⟨plainService, 1700000000.5, .order (.temporary ⟨"a@x", "m1"⟩)⟩]

/-- The three tokens that are issued at once are different. -/
theorem tokens_at_once_distinct :
    NeverRepeats newcomersWorld.ids (runIssuing callsAtOnce newcomersWorld).ids ∧
      ∃ a r t, answeredAll callsAtOnce newcomersWorld = [a, r, t] ∧ a ≠ r ∧ a ≠ t ∧ r ≠ t := by
  obtain ⟨short, _⟩ := newcomersWorld_short
  obtain ⟨long, _⟩ := newcomersWorld_long
  obtain ⟨a, access, ids₁⟩ := Issuing.exists_answered
    (c := ⟨plainService, 1700000000.5, .order (.access "a@x" [] none)⟩) rfl plainService_secret
    short newcomersWorld
  obtain ⟨r, refresh, ids₂⟩ := Issuing.exists_answered
    (c := ⟨plainService, 1700000000.5, .order (.refresh "a@x")⟩) rfl plainService_secret long
    (Issuing.run ⟨plainService, 1700000000.5, .order (.access "a@x" [] none)⟩ newcomersWorld)
  obtain ⟨t, temporary, ids₃⟩ := Issuing.exists_answered
    (c := ⟨plainService, 1700000000.5, .order (.temporary ⟨"a@x", "m1"⟩)⟩) rfl plainService_secret
    short (runIssuing (callsAtOnce.take 2) newcomersWorld)
  have answers : answeredAll callsAtOnce newcomersWorld = [a, r, t] :=
    congrArg₂ (· ++ ·) access (congrArg₂ (· ++ ·) refresh (congrArg (· ++ []) temporary))
  have drawn : (runIssuing callsAtOnce newcomersWorld).ids = 3 :=
    ids₃.trans (congrArg (· + 1) (ids₂.trans (congrArg (· + 1) ids₁)))
  have fresh : NeverRepeats newcomersWorld.ids (runIssuing callsAtOnce newcomersWorld).ids :=
    neverRepeats_of_lt (by rw [drawn]; decide)
  have distinct := (issued_tokens_pairwise_distinct callsAtOnce newcomersWorld fresh).1
  rw [answers] at distinct
  simp only [List.nodup_cons, List.mem_cons, List.not_mem_nil, or_false, not_or] at distinct
  exact ⟨fresh, a, r, t, answers, distinct.1.1, distinct.1.2, distinct.2.1⟩

end Gatehouse.Account
