import Gatehouse.Proofs.Account.Operations
import Gatehouse.Proofs.Account.Orders

/-!
# What operations consist of

An operation of the service comes to a sequence of small moves: it writes a line to the log, writes
to the members, draws an id or a salt, and issues tokens.  So a relation between the worlds before
and after that each of these moves keeps to, and that can be followed from move to move, holds
between the worlds before and after every operation, whatever it is asked for and however it ends.

Main results:

- `Admits`: a relation of worlds that every small move keeps to.
- `leads_flow`: every operation keeps to such a relation.
-/

namespace Gatehouse.Account

open Gatehouse.Text Gatehouse.Token Gatehouse.Flow

/-- A relation between an earlier and a later world that issuing a token keeps to as well. -/
structure Admits (s : Service) (R : World → World → Prop) : Prop extends Tolerates R where
  order : ∀ (o : Order) w, R w ((o.issue s).runIn w).2

section Moves

variable {s : Service} {R : World → World → Prop} (admits : Admits s R)
include admits

/-! ## Issuing -/

/-- A session is issued with an access token, and with a refresh token unless one was presented. -/
theorem leads_issue (m : Member) (presented : Option String) : Leads R (s.issue m presented) := by
  have tolerates := admits.toTolerates
  apply leads_bind tolerates (admits.order (.access m.email m.role.scopeTexts m.id))
  intro access
  cases presented with
  | some t => exact leads_of_keeps tolerates (keeps_pure _)
  | none =>
    exact leads_bind tolerates (admits.order (.refresh m.email)) fun _ =>
      leads_of_keeps tolerates (keeps_pure _)

/-- Signing in issues a session, if anything. -/
theorem leads_signin (email password : Option String) : Leads R (s.signin email password) := by
  have tolerates := admits.toTolerates
  apply leads_audited tolerates
  apply leads_bind_of_keeps tolerates (keeps_memberAt email)
  intro found
  cases found with
  | none => exact leads_refuse tolerates _
  | some m =>
    simp only
    split
    · exact leads_refuse tolerates _
    · split
      · exact leads_refuse tolerates _
      · exact leads_issue admits m none

/-- Renewing a session issues one on the token that is presented, if anything. -/
theorem leads_refresh (token : Option String) : Leads R (s.refresh token) := by
  have tolerates := admits.toTolerates
  apply leads_audited tolerates
  apply leads_bind_of_keeps tolerates keeps_now
  intro now
  apply leads_bind_of_keeps tolerates (keeps_lift _)
  intro valid
  cases valid with
  | false => exact leads_refuse tolerates _
  | true =>
    apply leads_bind_of_keeps tolerates (keeps_lift _)
    intro email
    apply leads_bind_of_keeps tolerates keeps_directory
    intro d
    split
    · exact leads_refuse tolerates _
    · split
      · exact leads_issue admits _ _
      · exact leads_refuse tolerates _

/-- Setting a first password saves a member and issues a session. -/
theorem leads_setInitialPassword (token password : Option String) :
    Leads R (s.setInitialPassword token password) := by
  have tolerates := admits.toTolerates
  apply leads_audited tolerates
  apply leads_bind_of_keeps tolerates (keeps_setupEmail s token)
  intro email
  apply leads_bind_of_keeps tolerates keeps_now
  intro now
  apply leads_bind_of_keeps tolerates (keeps_lift _)
  intro claimed
  apply leads_bind_of_keeps tolerates keeps_directory
  intro d
  simp only
  split
  · exact leads_refuse tolerates _
  · rw [establish_eq]
    apply leads_bind tolerates (leads_digest tolerates s password)
    intro digest
    exact leads_bind tolerates (leads_saveFirst tolerates _ _ _ _) fun stored =>
      leads_issue admits stored none

/-! ## All operations -/

/-- Every operation keeps to a relation that every small move keeps to, whatever it is asked for and
however it ends. -/
theorem leads_flow (o : Operation) : Leads R (o.flow s) := by
  have tolerates := admits.toTolerates
  cases o with
  | signup email password => exact leads_signup tolerates s email password
  | signin email password => exact leads_signin admits email password
  | refresh token => exact leads_refresh admits token
  | issueTemporaryToken grant => exact leads_audited tolerates (admits.order (.temporary grant)) _
  | setupEmail token => exact leads_of_keeps tolerates (keeps_setupEmail s token)
  | setInitialPassword token password => exact leads_setInitialPassword admits token password
  | changePassword email current new => exact leads_changePassword tolerates s email current new
  | memberByEmail email => exact leads_of_keeps tolerates (keeps_memberByEmail email)
  | memberByRole role => exact leads_of_keeps tolerates (keeps_memberByRole role)
  | resolveBearer token => exact leads_of_keeps tolerates (keeps_resolveBearer s token)
  | grantedScopes token => exact leads_of_keeps tolerates (keeps_grantedScopes s token)

end Moves

end Gatehouse.Account
