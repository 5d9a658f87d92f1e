import Gatehouse.Failure.Basic
import Gatehouse.Member.Scope

/-!
# Roles and scopes by name

Roles and scopes that are handed in as values.  Only the exact names count: no
other spelling, and no value that is not a string.

Main results:

- `roleOf_eq_ok_iff`: a value names a role exactly when it is the role's name.
-/

namespace Gatehouse

/-- The role that a value names. -/
def roleOf (v : Json) : Except Fault Role :=
  match v.string?.bind Role.ofName? with
  | some r => .ok r
  | none => .error (.invalidRole v)

/-- The texts of the scopes of the role that a value names. -/
def scopesOf (v : Json) : Except Fault (List String) :=
  match v.string?.bind Role.ofName? with
  | some r => .ok r.scopeTexts
  | none => .error (.unknownRole v)

/-- The scope that a text names. -/
def scopeOf (s : String) : Except Fault Scope :=
  match Scope.ofText? s with
  | some x => .ok x
  | none => .error (.invalidScope s)

/-- A value is read as a role exactly when it is the text of the role's name. -/
theorem roleOf_eq_ok_iff {v : Json} {r : Role} : roleOf v = .ok r ↔ v = .string r.name := by
  constructor
  · intro h
    unfold roleOf at h
    split at h
    · next x hx =>
      cases h
      rcases Option.bind_eq_some_iff.1 hx with ⟨s, hs, hr⟩
      rw [Role.ofName?_eq_some_iff] at hr
      subst hr
      cases v <;> simp_all [Json.string?]
    · simp at h
  · rintro rfl
    simp [roleOf, Json.string?]

end Gatehouse
