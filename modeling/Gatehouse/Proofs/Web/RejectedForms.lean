import Gatehouse.Proofs.Form.Findings
import Gatehouse.Proofs.Web.AcceptedForms

/-!
# After a form is rejected

What is told of a body that is rejected as a form.  The response with the status 422 shows what is
wrong with the body and nothing else that was sent, and of each thing that is wrong its place and a
message, which the place and the code determine.  So two bodies that are wrong in the same places
and ways are answered with one content, whatever was in them.

Main results:

- `FoundInBody.shown_eq_of_sign`: what findings in a body show is told by their places and codes.
- `tells_answer`: on the way out, nothing is added to a rejection.
- `rejections_tell_places_and_codes`: two rejections of one kind have one content.
-/

namespace Gatehouse.Web

open Gatehouse.Form Gatehouse.Flow Gatehouse.Text

/-! ## Findings in bodies -/

/-- A finding is about the body as a whole, or about one of the fields with rules in it and a way to
break the rule of that field. -/
inductive FoundInBody (rules : Keyed TextRule) : Finding → Prop
  | broken (position : Nat) : FoundInBody rules (brokenBody position)
  | missing {input : Input} : FoundInBody rules ⟨[.name bodyPlace], .missing, input⟩
  | noFields {input : Input} : FoundInBody rules ⟨[.name bodyPlace], .noFields, input⟩
  | field {name : String} {rule : TextRule} {v : Violation} {input : Input}
    (listed : Keyed.lookup rules name = some rule) (breaks : rule.Breaks v) :
    FoundInBody rules ⟨[.name bodyPlace, .name name], v, input⟩

/-- Findings in a body show what their places and their codes tell, whatever was handed in. -/
theorem FoundInBody.shown_eq_of_sign {rules : Keyed TextRule} {f g : Finding}
    (hf : FoundInBody rules f) (hg : FoundInBody rules g) (same : f.sign = g.sign) :
    f.shown = g.shown := by
  rcases Prod.mk.inj same with ⟨places, code⟩
  cases hf <;> cases hg <;> cases places
  case field.field listed breaks _ _ _ breaks' listed' =>
    rw [listed] at listed'
    rcases Option.some.inj listed' with rfl
    rw [Finding.shown, Finding.shown, breaks.eq_of_code breaks' code]
  case missing.noFields => simp [Violation.code] at code
  case noFields.missing => simp [Violation.code] at code
  all_goals rfl

namespace Site

/-- What is wrong with the body of a request as a form.  A body that no text can be read from is not
held against any form. -/
def bodyFindings {α : Type} (form : Form α) (r : Request) : List Finding :=
  match readSubmission r with
  | .error (.malformedAt position) => [brokenBody position]
  | .error .undecodable => []
  | .ok submission => (form.submitted submission).findings

/-- Everything that is wrong with a body is found in it or in one of its fields. -/
theorem foundInBody_of_mem {α : Type} {form : Form α} {rules : Keyed TextRule}
    (finds : ∀ fields, ∀ f ∈ (form.read fields).findings, FoundIn rules f) {r : Request} :
    ∀ f ∈ bodyFindings form r, FoundInBody rules f := by
  intro f found
  unfold bodyFindings at found
  split at found
  · next position _ =>
    rcases List.mem_singleton.1 found with rfl
    exact .broken position
  · cases found
  · next submission _ =>
    cases submission with
    | json v =>
      cases v with
      | object fields =>
        cases read : form.read fields with
        | ok a =>
          rw [submitted_object, read] at found
          cases found
        | error fs =>
          have inside := finds fields
          rw [read] at inside
          rw [submitted_object, read] at found
          rcases List.mem_map.1 found with ⟨g, listed, rfl⟩
          rcases inside g listed with ⟨known, breaks⟩
          exact .field known breaks
      | _ =>
        rcases List.mem_singleton.1 found with rfl
        exact .noFields
    | nothing =>
      rcases List.mem_singleton.1 found with rfl
      exact .missing
    | untyped body =>
      rcases List.mem_singleton.1 found with rfl
      exact .noFields

end Site

/-! ## Endpoints with forms -/

namespace Endpoint

/-- The form that the body of a request to an endpoint fills in, if the endpoint asks for one. -/
def form? : Endpoint → Option (Σ α : Type, Form α)
  | .signin => some ⟨_, Form.signin⟩
  | .refresh => some ⟨_, Form.refresh⟩
  | .temporaryToken => some ⟨_, Form.temporaryToken⟩
  | .passwordSetup => some ⟨_, Form.passwordSetup⟩
  | .passwordChange => some ⟨_, Form.passwordChange⟩
  | .signup => some ⟨_, Form.signup⟩
  | .ownRecord | .memberByEmail | .health => none

/-- The rules for the fields of that form. -/
def rules : Endpoint → Keyed TextRule
  | .signin => [("email", Form.knownEmail), ("password", Form.knownPassword)]
  | .refresh => [("refresh_token", ⟨true, 1, none, false, false⟩)]
  | .temporaryToken =>
    [("email", { TextRule.bounded 1 Form.longestEmail with trimmed := true }),
      ("member_id", { TextRule.bounded 1 Form.longestMemberId with trimmed := true })]
  | .passwordSetup => [("password", Form.newPassword)]
  | .passwordChange =>
    [("current_password", Form.knownPassword), ("new_password", Form.newPassword)]
  | .signup => [("email", Form.newEmail), ("password", Form.newPassword)]
  | .ownRecord | .memberByEmail | .health => []

/-- What is wrong with the body of a request to an endpoint. -/
def bodyFindings (e : Endpoint) (r : Request) : List Finding :=
  match e.form? with
  | some ⟨_, form⟩ => Site.bodyFindings form r
  | none => []

/-- What the form of an endpoint finds in the fields of an object breaks one of its rules. -/
theorem foundIn_of_mem {e : Endpoint} {α : Type} {form : Form α} (takes : e.form? = some ⟨α, form⟩)
    (fields : Keyed Json) : ∀ f ∈ (form.read fields).findings, FoundIn e.rules f := by
  cases e <;> cases takes
  case signin | temporaryToken | passwordChange | signup =>
    exact foundIn_map (foundIn_both (foundIn_field rfl fields) (foundIn_field rfl fields)) _
  case refresh | passwordSetup => exact foundIn_map (foundIn_field rfl fields) _

/-- What is wrong with the body of a request to an endpoint is wrong with all of it or breaks one of
the rules of the endpoint. -/
theorem foundInBody_of_mem {e : Endpoint} {r : Request} :
    ∀ f ∈ e.bodyFindings r, FoundInBody e.rules f := by
  unfold bodyFindings
  split
  · next takes => exact Site.foundInBody_of_mem (foundIn_of_mem takes)
  · nofun

end Endpoint

namespace Site

/-! ## Rejections on their way out -/

/-- A response tells nothing of a rejected body but given findings. -/
def Tells (fs : List Finding) (response : Response) : Prop :=
  response.status = 422 → response.content = (Response.ofFindings fs).content

/-- Whatever an operation answers tells nothing of a rejected body but given findings. -/
def Telling (fs : List Finding) (f : Flow Response) : Prop :=
  ∀ w, Yields (fun response _ => Tells fs response) f w

section Telling

variable {α β : Type} {fs : List Finding} {response : Response} {site : Site} {r : Request}
  {e : Endpoint}

/-- A response with another status rejects nothing. -/
theorem tells_of_status (other : response.status ≠ 422) : Tells fs response :=
  fun status => absurd status other

/-- A response is answered at once. -/
theorem telling_pure (h : Tells fs response) : Telling fs (pure response) :=
  fun _ => yields_of_run rfl h

/-- What the last part of a sequence answers is what the sequence answers. -/
theorem telling_bind {f : Flow α} {g : α → Flow Response} (h : ∀ a, Telling fs (g a)) :
    Telling fs (f >>= g) :=
  fun _ => yields_bind ⟨fun _ _ _ => trivial⟩ fun a w _ => h a w

/-- What is answered once an operation has succeeded has another status. -/
theorem telling_bind_pure {f : Flow α} {shown : α → Response}
    (other : ∀ a, (shown a).status ≠ 422) : Telling fs (f >>= fun a => pure (shown a)) :=
  telling_bind fun a => telling_pure (tells_of_status (other a))

/-- An endpoint with a form rejects a body for what is wrong with it as that form, and for nothing
else. -/
theorem telling_submittedAfter {form : Form α} {first : Flow (Except Response β)}
    {act : β → α → Flow Response}
    (asked : ∀ w, Yields (fun outcome _ => ∀ response, outcome = .error response →
      response.status ≠ 422) first w)
    (acts : ∀ b a, Telling (bodyFindings form r) (act b a)) :
    Telling (bodyFindings form r) (submittedAfter r first form act) := by
  unfold submittedAfter
  cases read : readSubmission r with
  | error fault =>
    apply telling_pure
    cases fault with
    | malformedAt position => exact fun _ => by rw [bodyFindings, read]; rfl
    | undecodable => exact tells_of_status (by decide)
  | ok submission =>
    refine fun w => yields_bind (asked w) fun outcome w' ordinary => ?_
    cases outcome with
    | error response => exact telling_pure (tells_of_status (ordinary response rfl)) w'
    | ok b =>
      cases checked : form.submitted submission with
      | error findings =>
        have all : bodyFindings form r = findings := by
          simp only [bodyFindings, read, checked, Checked.findings]
        exact telling_pure (fun _ => by rw [all]) w'
      | ok a => exact acts b a w'

/-- An endpoint that asks for nothing else rejects bodies in the same way. -/
theorem telling_submitted {form : Form α} {act : α → Flow Response}
    (acts : ∀ a, Telling (bodyFindings form r) (act a)) :
    Telling (bodyFindings form r) (submitted r form act) :=
  telling_submittedAfter (fun _ => yields_of_run rfl nofun) fun _ => acts

/-- A caller who is turned away has no body rejected. -/
theorem status_ofDenial_ne (d : Account.Denial) : (Response.ofDenial d).status ≠ 422 := by
  cases d with
  | unauthenticated => decide
  | missingScope scope => nofun

/-- The endpoints with forms reject bodies for what is wrong with them. -/
theorem telling_run (takes : e.form?.isSome = true) :
    Telling (e.bodyFindings r) (site.run r e) := by
  cases e with
  | signin => exact telling_submitted fun _ => telling_bind_pure nofun
  | refresh => exact telling_submitted fun _ => telling_bind_pure nofun
  | temporaryToken =>
    refine telling_submitted fun c => ?_
    split
    · exact telling_pure (tells_of_status (by decide))
    · split
      · exact telling_pure (tells_of_status (by decide))
      · exact telling_bind fun grant => telling_bind_pure nofun
  | passwordSetup =>
    refine telling_submitted fun f => ?_
    split
    · exact telling_pure (tells_of_status (by decide))
    · exact telling_bind_pure nofun
  | passwordChange =>
    refine telling_submittedAfter (fun w => ⟨fun outcome w' asked response denied => ?_⟩)
      fun _ _ => telling_bind_pure nofun
    rw [denied] at asked
    rcases exists_denial_of_run_caller asked with ⟨d, rfl⟩
    exact status_ofDenial_ne d
  | signup => exact telling_submitted fun _ => telling_bind_pure nofun
  | ownRecord | memberByEmail | health => cases takes

/-- A refusal rejects no body. -/
theorem status_ofRefusal_ne (refusal : Refusal) : (Response.ofRefusal refusal).status ≠ 422 := by
  rw [status_ofRefusal]
  cases refusal.kind <;> decide

/-- Refusals become responses that reject nothing. -/
theorem telling_settled {body : Flow Response} (h : Telling fs body) :
    Telling fs (settled r body) := by
  refine fun w => ⟨fun response w' ran => ?_⟩
  have told := (h w).of_run
  rw [run_settled] at ran
  generalize body.runIn w = end_ at told ran
  rcases end_ with ⟨(c | f | _) | answered, v⟩
  · rcases Except.ok.inj (Prod.mk.inj ran).1 with rfl
    exact tells_of_status (status_ofRefusal_ne _)
  · cases (Prod.mk.inj ran).1
  · cases (Prod.mk.inj ran).1
  · exact told _ _ ran

/-- Unknown hosts are refused without a look at the body. -/
theorem telling_inner {run : Endpoint → Flow Response}
    (found : Endpoint.find r.method r.path = .endpoint e) (h : Telling fs (run e)) :
    Telling fs (site.inner r run) := by
  unfold inner
  split
  · rw [routed, found]
    exact telling_settled h
  · have moved : (HostPolicy.move r).status = 307 := rfl
    exact telling_pure (tells_of_status (by rw [moved]; decide))
  · exact telling_pure (tells_of_status (by decide))

/-- So are clients that call too often. -/
theorem tells_guarded {run : Endpoint → Flow Response} {s : Server}
    (h : Telling fs (site.inner r run)) (answered : (site.guarded r run s).1 = .ok response) :
    Tells fs response := by
  unfold guarded at answered
  dsimp only at answered
  split at answered
  · split at answered
    · cases answered
    · exact (h s.world).of_run _ _ (run_of_outcome answered)
    · rcases Except.ok.inj answered with rfl
      exact tells_of_status (by decide)
  · exact (h s.world).of_run _ _ (run_of_outcome answered)

/-- On the way out nothing is added to a rejection: a request that leads to an endpoint with a form
is answered with the status 422 only for what is wrong with its body. -/
theorem tells_answer (takes : e.form?.isSome = true)
    (found : Endpoint.find r.method r.path = .endpoint e) (s : Server) :
    Tells (e.bodyFindings r) (site.answer r s).1 := by
  have asks : OriginPolicy.isPreflight r = false := by
    simp [OriginPolicy.isPreflight, method_ne_of_find found]
  have inside : Telling (e.bodyFindings r) (site.inner r (site.run r)) :=
    telling_inner found (telling_run takes)
  have told : ∀ response, (site.guarded r (site.run r) s).1 = .ok response →
      Tells (e.bodyFindings r) response := fun _ => tells_guarded inside
  simp only [answer, answerBy, marked, asks, Bool.false_eq_true, if_false]
  generalize site.guarded r (site.run r) s = guarded at told
  rcases guarded with ⟨failure | response, s'⟩
  · have unexpected : Response.unexpected.status ≠ 422 := by decide
    exact tells_of_status unexpected
  · exact told response rfl

end Telling

/-! ## Two rejections -/

/-- What the response to a rejected body shows depends on the endpoint and on the places and codes
of what is wrong with the body, and on nothing else.  Whatever the services, the requests and the
servers, two requests that lead to one endpoint with a form and are both answered with the status
422, for bodies that are wrong in the same places with the same codes, get one content. -/
theorem rejections_tell_places_and_codes {site site' : Site} {r r' : Request} {s s' : Server}
    {e : Endpoint} (takes : e.form?.isSome = true)
    (found : Endpoint.find r.method r.path = .endpoint e)
    (found' : Endpoint.find r'.method r'.path = .endpoint e)
    (rejected : (site.answer r s).1.status = 422)
    (rejected' : (site'.answer r' s').1.status = 422)
    (same : (e.bodyFindings r).map Finding.sign = (e.bodyFindings r').map Finding.sign) :
    (site.answer r s).1.content = (site'.answer r' s').1.content := by
  have shown : (e.bodyFindings r).map Finding.shown = (e.bodyFindings r').map Finding.shown :=
    map_shown_eq_of_map_sign_eq (fun _ _ hf hg => hf.shown_eq_of_sign hg)
      Endpoint.foundInBody_of_mem Endpoint.foundInBody_of_mem same
  calc
    (site.answer r s).1.content = (Response.ofFindings (e.bodyFindings r)).content :=
      tells_answer takes found s rejected
    _ = (Response.ofFindings (e.bodyFindings r')).content := by
      rw [Response.ofFindings_congr shown]
    _ = (site'.answer r' s').1.content := (tells_answer takes found' s' rejected').symm

/-- A request to become a member whose address has a blank and whose password is short. -/
def blankedSignup : Request :=
  { oddSignin with
    path := "/api/v1/members/signup"
    headers := [("content-type", "application/json")]
    body := utf8 "\x7b\"email\":\"a b\",\"password\":\"hunter2\"\x7d" }

/-- A request to become a member whose address is nothing but separators and whose password is
another short one. -/
def separatedSignup : Request :=
  { blankedSignup with
    body := utf8 "\x7b\"password\":\"secret\",\"email\":\"@@@\"\x7d" }

/-- Two services reject the two requests with one content. -/
theorem short_passwords_rejected_alike :
    Endpoint.find blankedSignup.method blankedSignup.path = .endpoint .signup ∧
      Endpoint.find separatedSignup.method separatedSignup.path = .endpoint .signup ∧
      (usualSite.answer blankedSignup freshServer).1.status = 422 ∧
      (partneredSite.answer separatedSignup freshServer).1.status = 422 ∧
      (Endpoint.signup.bodyFindings blankedSignup).map Finding.sign =
        [([.name "body", .name "email"], "string_pattern_mismatch"),
          ([.name "body", .name "password"], "string_too_short")] ∧
      (Endpoint.signup.bodyFindings blankedSignup).map Finding.sign =
        (Endpoint.signup.bodyFindings separatedSignup).map Finding.sign ∧
      (usualSite.answer blankedSignup freshServer).1.content =
        (partneredSite.answer separatedSignup freshServer).1.content := by
  have found : Endpoint.find blankedSignup.method blankedSignup.path = .endpoint .signup := by
    decide
  have found' : Endpoint.find separatedSignup.method separatedSignup.path = .endpoint .signup := by
    decide
  have rejected : (usualSite.answer blankedSignup freshServer).1.status = 422 := by decide +kernel
  have rejected' : (partneredSite.answer separatedSignup freshServer).1.status = 422 := by
    decide +kernel
  have same : (Endpoint.signup.bodyFindings blankedSignup).map Finding.sign =
      (Endpoint.signup.bodyFindings separatedSignup).map Finding.sign := by decide +kernel
  exact ⟨found, found', rejected, rejected', by decide +kernel, same,
    rejections_tell_places_and_codes rfl found found' rejected rejected' same⟩

end Site

end Gatehouse.Web
