import Gatehouse.Proofs.Account.ScopeDemand
import Gatehouse.Proofs.Account.Sessions
import Gatehouse.Proofs.Web.Signing
import Gatehouse.Proofs.Web.SigninFailures

/-!
# What the look-up for administrators hides

The caller of the look-up is asked for before its query is read.  Who the caller is depends on one
record only: that of the address that the presented token names.  So a caller who is not granted
the scope learns nothing of any other record, whatever is asked for: with other members the answer
is the same, and so is everything else that the server keeps.

Main results:

- `grants_of_run_requireScope`: whoever is let through is granted the scope.
- `run_requireScope_of_same_row`: the verdict on a caller depends on one record.
- `admin_lookup_hides_members`: the look-up for a caller without the scope.
-/

namespace Gatehouse

/-! ## The verdict on a caller -/

namespace Account

open Gatehouse.Text Gatehouse.Token Gatehouse.Flow Gatehouse.Web

section Verdict

variable {s : Service} {w : World} {headers : Headers} {scope : String}

/-- A scope that a token is read to grant is listed in it. -/
theorem lists_of_holds {claims : Claims} {granted : List String}
    (read : scopes claims = .ok granted) (held : holds granted scope = true) :
    Lists claims scope := by
  have listed : scope ∈ granted := by simpa [holds] using held
  unfold scopes at read
  split at read
  · rcases Except.ok.inj read with rfl
    cases listed
  · next text found =>
    rcases Except.ok.inj read with rfl
    exact ⟨text, found, listed⟩
  · split at read
    · rcases Except.ok.inj read with rfl
      cases listed
    · cases read

/-- Claims that stand for somebody name an address. -/
theorem exists_subject_of_bearerOf {claims : Claims} {m : Member}
    (bearer : bearerOf claims w = .ok (some m)) : ∃ email, subject? claims = some email := by
  unfold bearerOf at bearer
  split at bearer
  · split at bearer
    · next email named => exact ⟨email, named⟩
    · cases bearer
  · cases bearer

/-- Whoever is let through is granted the scope. -/
theorem grants_of_run_requireScope {m : Member}
    (passed : ((s.requireScope none headers scope).runIn w).1 = .ok (.ok m)) :
    Grants s w headers scope m := by
  cases presented : bearerToken? headers with
  | none =>
    rw [run_requireScope_of_anonymous presented] at passed
    cases passed
  | some t =>
    cases verified : s.tokens.verified w.clock t with
    | error e =>
      rw [run_requireScope_of_not_verified presented verified] at passed
      simp only at passed
      split at passed <;> cases passed
    | ok claims =>
      rw [run_requireScope_of_verified presented verified] at passed
      simp only at passed
      split at passed
      · cases passed
      · cases passed
      · next n bearer =>
        split at passed
        · cases passed
        · next granted read =>
          split at passed
          · next held =>
            rcases Except.ok.inj (Except.ok.inj passed) with rfl
            rcases exists_subject_of_bearerOf bearer with ⟨email, named⟩
            exact ⟨claims, ⟨t, presents_iff.2 presented, verified,
              (bearerOf_eq_some_iff named).1 bearer⟩, lists_of_holds read held⟩
          · cases passed

/-- Two directories have the same record, or none, for the address that the presented token
names. -/
def SameRow (headers : Headers) (d d' : Directory) : Prop :=
  ∀ t email, Presents headers t → Names t email → d'.findByEmail email = d.findByEmail email

/-- Claims stand for the same member where the record of their subject is the same. -/
theorem bearerOf_of_same_row {claims : Claims} {d : Directory}
    (same : ∀ email, Keyed.lookup claims "sub" = some (.string email) →
      d.findByEmail email = w.directory.findByEmail email) :
    bearerOf claims { w with directory := d } = bearerOf claims w := by
  unfold bearerOf
  cases named : subject? claims with
  | none => rfl
  | some email =>
    simp only
    rw [same email (subject?_eq_some_iff.1 named).1]

variable (s scope) in
/-- The verdict on a caller depends on the record of the address that its token names. -/
theorem run_requireScope_of_same_row {d : Directory} (same : SameRow headers w.directory d) :
    ((s.requireScope none headers scope).runIn { w with directory := d }).1 =
      ((s.requireScope none headers scope).runIn w).1 := by
  cases presented : bearerToken? headers with
  | none => rw [run_requireScope_of_anonymous presented, run_requireScope_of_anonymous presented]
  | some t =>
    cases verified : s.tokens.verified w.clock t with
    | error e =>
      rw [run_requireScope_of_not_verified presented verified,
        run_requireScope_of_not_verified (w := { w with directory := d }) presented verified]
    | ok claims =>
      have bearer : bearerOf claims { w with directory := d } = bearerOf claims w :=
        bearerOf_of_same_row fun email named =>
          same t email (presents_iff.2 presented) (names_of_verified verified named)
      rw [run_requireScope_of_verified presented verified,
        run_requireScope_of_verified (w := { w with directory := d }) presented verified, bearer]

end Verdict

end Account

/-! ## The look-up -/

namespace Web

open Gatehouse.Text Gatehouse.Token Gatehouse.Account Gatehouse.Flow

namespace Site

/-- What a caller is told who is not let through; what stands for one who is let through does not
matter. -/
def turnedAway : Except Failure (Except Denial Member) → Except Failure Response
  | .ok (.error denial) => .ok (.ofDenial denial)
  | .ok (.ok _) => .ok .unexpected
  | .error e => .error e

/-- A caller who is not let through is told so, whatever the endpoint does. -/
theorem run_admitted_of_not_passed {site : Site} {r : Request} {scope : String} {w : World}
    (stopped : ∀ m, ((site.service.requireScope none r.headers scope).runIn w).1 ≠ .ok (.ok m))
    (act : Member → Flow Response) :
    (site.admitted r (·.demand scope) act).runIn w =
      (turnedAway ((site.service.requireScope none r.headers scope).runIn w).1, w) := by
  have world := run_requireScope_world site.service w r.headers scope
  rw [admitted, caller_demand, run_bind, run_map]
  generalize (site.service.requireScope none r.headers scope).runIn w = ran at stopped world
  rcases ran with ⟨verdict, w'⟩
  rcases (show w' = w from world) with rfl
  rcases verdict with e | denial | m
  · rfl
  · rfl
  · exact absurd rfl (stopped m)

/-- A caller without the scope to read all records, with any query: with other members, as long as
the record of the address that its token names is the same, the look-up for administrators is
answered alike, and the server is afterwards the same but for its members. -/
theorem admin_lookup_hides_members (site : Site) (r : Request)
    (leads : Endpoint.find r.method r.path = .endpoint .memberByEmail) (s : Server) (d : Directory)
    (denied : ¬ ∃ m, Grants site.service s.world r.headers (Scope.text ⟨.read, .all⟩) m)
    (same : SameRow r.headers s.world.directory d) :
    (site.respond r (s.withMembers d)).1 = (site.respond r s).1 ∧
      (site.respond r (s.withMembers d)).2 = (site.respond r s).2.withMembers d := by
  have stopped : ∀ m, ((site.service.requireScope none r.headers
      (Scope.text ⟨.read, .all⟩)).runIn s.world).1 ≠ .ok (.ok m) :=
    fun m passed => denied ⟨m, grants_of_run_requireScope passed⟩
  have verdict := run_requireScope_of_same_row site.service (Scope.text ⟨.read, .all⟩) same
  have stopped' : ∀ m, ((site.service.requireScope none r.headers
      (Scope.text ⟨.read, .all⟩)).runIn (s.withMembers d).world).1 ≠ .ok (.ok m) :=
    fun m => verdict.trans_ne (stopped m)
  have endpoints : EndpointsAgree (fun w w' => w' = { w with directory := d }) r (site.run r)
      (site.run r) s.world (s.withMembers d).world := by
    intro e found
    rcases Endpoint.Target.endpoint.inj (leads.symm.trans found) with rfl
    -- both runs end with the verdict on the caller, before the query is read
    refine settled_agree (resembling_members d) ?_
    rw [run, memberByEmail, run_admitted_of_not_passed stopped,
      run_admitted_of_not_passed stopped']
    exact ⟨congrArg turnedAway verdict.symm, rfl⟩
  have agree : ServersAgree (fun w w' => w' = { w with directory := d }) (site.respond r s)
      (site.respond r (s.withMembers d)) :=
    respond_agree site (resembling_members d) rfl rfl endpoints
  exact ⟨agree.answer.symm, Server.eq_withMembers agree.worlds agree.limiter⟩

/-- A request to look up an address, with the token of the first member, which grants nothing but
to read its own record. -/
def readersLookup : Request :=
  { oddSignin with
    method := "GET"
    path := "/api/v1/admin/members"
    query := "email=b@x"
    headers := bearing readersToken }

/-- The server of the first member. -/
def newcomersServer : Server :=
  { freshServer with world := newcomersWorld }

/-- The first member and another one, with the address that is asked for. -/
def joinedDirectory : Directory :=
  ⟨[newcomer, ⟨"m2", "b@x", .member, none, true, "", ""⟩], by decide, by decide⟩

/-- The first member is not told whether anybody else has joined. -/
theorem second_member_hidden_from_first :
    Endpoint.find readersLookup.method readersLookup.path = .endpoint .memberByEmail ∧
      (¬ ∃ m, Grants partneredSite.service newcomersWorld readersLookup.headers
        (Scope.text ⟨.read, .all⟩) m) ∧
      SameRow readersLookup.headers newcomersWorld.directory joinedDirectory ∧
      (partneredSite.respond readersLookup (newcomersServer.withMembers joinedDirectory)).1 =
        (partneredSite.respond readersLookup newcomersServer).1 := by
  have leads : Endpoint.find readersLookup.method readersLookup.path =
      .endpoint .memberByEmail := by decide
  have plain : PlainSecret partneredSite.service.tokens.secret := plainService_secret
  have finite := newcomersWorld_clock
  have word : ∀ x ∈ ["ef:members:read:own"], IsWord x := by
    have plain : ("ef:members:read:own".toList.all fun c => !isBlank c) = true := by decide
    simpa [IsWord] using plain
  have carries := carries_accessClaims "a@x" word "m1"
  rw [show inOrder ["ef:members:read:own"] = ["ef:members:read:own"] by simp [inOrder]] at carries
  have presents : Presents readersLookup.headers readersToken :=
    presents_bearing (isWord_three _ _ _)
  have verifies : partneredSite.service.tokens.verified newcomersWorld.clock readersToken = .ok _ :=
    carries.issuable.verified_issuedText 1 plain finite newcomersWorld.clock
  have denied : ¬ ∃ m, Grants partneredSite.service newcomersWorld readersLookup.headers
      (Scope.text ⟨.read, .all⟩) m := by
    rintro ⟨m, claims, ⟨t, presented, verified, -⟩, listed⟩
    rw [presented.unique presents, verifies] at verified
    rcases Except.ok.inj verified with rfl
    exact absurd ((lists_timedClaims_iff carries word _ _ _ _).1 listed) (by decide)
  have same : SameRow readersLookup.headers newcomersWorld.directory joinedDirectory := by
    intro t email presented named
    have access : Issued readersToken .bearer "a@x" :=
      .access (run_mint (w := newcomersWorld) plainService_secret _ newcomersWorld_short.1)
    rw [presented.unique presents] at named
    rcases named.unique access.names with rfl
    rfl
  exact ⟨leads, denied, same, (admin_lookup_hides_members partneredSite readersLookup leads
    newcomersServer joinedDirectory denied same).1⟩

end Site

end Web

end Gatehouse
