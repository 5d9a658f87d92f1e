import Gatehouse.Proofs.Account.Binding

/-!
# The access token of a session

What a session says of itself is what its access token says: the address, the id and the scopes of
a member who is stored when the session is started.  Until it expires, the token stands for the
enabled member who has that address at the time, and for nobody afterwards.

Main results:

- `access_token_means_what_its_session_tells`: the access token of every session.
-/

namespace Gatehouse.Account

open Gatehouse.Text Gatehouse.Token Gatehouse.Flow

/-- The access token of every session says the address of the member of the session, its id unless
that is empty, and the scopes of the session, which are those of the role that is stored for the
member.  Whatever becomes of the members later, a bearer of the token is the member who then has
that address and is enabled, until the token expires, and nobody afterwards. -/
theorem access_token_means_what_its_session_tells (s : Service)
    (plain : PlainSecret s.tokens.secret) (o : Operation) (w w' : World) (session : Session)
    (started : o.Starts s w session w')
    (finite : (Number.toRat? w.clock).isSome) (named : session.member.email ≠ "") :
    session.member ∈ w'.directory.members ∧
    session.scopes = session.member.role.scopeTexts ∧
    ∃ ttl, Number.floatOfInt? s.tokens.accessTtl = some ttl ∧
      Says s.tokens session.accessToken session.member.email session.scopes
        ((some session.member.id).filter (· ≠ "")) access (w.clock + ttl) ∧
      ∀ later : World, (s.resolveBearer session.accessToken).runIn later =
        (.ok (if later.clock < w.clock + ttl then
            (later.directory.findByEmail session.member.email).filter Member.enabled
          else none), later) := by
  rcases started.text plain with ⟨scopes, expiry, serial, times, text⟩
  have shown := started.shown plain named finite times
  refine ⟨started.stored, scopes, ?_⟩
  cases range : Number.floatOfInt? s.tokens.accessTtl with
  | none => simp [expiryOf, range] at times
  | some ttl =>
    simp only [expiryOf, range, Except.ok.injEq] at times
    subst times
    exact ⟨ttl, rfl, shown, fun later => run_resolveBearer_of_shown shown later⟩

/-- A first member that sets a password is given an access token of its own. -/
theorem access_token_of_first_member :
    ∃ session w w' ttl,
      (Operation.setInitialPassword arrivalToken "password").Starts plainService w session w' ∧
      session.member.email = "a@x" ∧ session.member ∈ w'.directory.members ∧
      session.scopes = session.member.role.scopeTexts ∧
      Says plainService.tokens session.accessToken "a@x" session.scopes
        ((some session.member.id).filter (· ≠ "")) access (w.clock + ttl) := by
  obtain ⟨w, signed, clock, directory⟩ := run_arrivalToken
  obtain ⟨session, w', started, only⟩ := exists_arrival clock directory
  have finite := newcomersWorld_clock
  have same : newcomersWorld.clock = w.clock := clock.symm
  have named : session.member.email = "a@x" := (only _ started.stored).2.1
  obtain ⟨stored, scopes, ttl, -, shown, -⟩ := access_token_means_what_its_session_tells
    plainService plainService_secret _ w w' session started (same ▸ finite)
    (by rw [named]; decide)
  exact ⟨session, w, w', ttl, started, named, stored, scopes, named ▸ shown⟩

end Gatehouse.Account
