import Gatehouse.Member.Basic

/-!
# Scopes

A scope names an action on members, either on the caller's own record or on all
records.  The scopes of a role are a fixed set, and a check is plain membership:
an `all` scope does not stand for the `own` scope of the same action.

Main results:

- `Scope.ofText?_text`: a scope is determined by its text.
- `scopes_member_subset`: an administrator holds every scope of a member.
- `mem_sortedTexts`: sorting keeps the set of scopes.
-/

namespace Gatehouse

/-! ## Scopes and their texts -/

/-- What a scope allows. -/
inductive Action
  | read
  | write
  | delete
deriving DecidableEq, Repr

/-- Whose records a scope reaches. -/
inductive Breadth
  | own
  | all
deriving DecidableEq, Repr

/-- An action with its breadth. -/
structure Scope where
  action : Action
  breadth : Breadth
deriving DecidableEq, Repr

namespace Scope

/-- The text of a scope. -/
def text : Scope → String
  | ⟨.read, .own⟩ => "ef:members:read:own"
  | ⟨.read, .all⟩ => "ef:members:read:all"
  | ⟨.write, .own⟩ => "ef:members:write:own"
  | ⟨.write, .all⟩ => "ef:members:write:all"
  | ⟨.delete, .own⟩ => "ef:members:delete:own"
  | ⟨.delete, .all⟩ => "ef:members:delete:all"

/-- Every scope. -/
def every : List Scope :=
  [⟨.read, .own⟩, ⟨.read, .all⟩, ⟨.write, .own⟩, ⟨.write, .all⟩, ⟨.delete, .own⟩, ⟨.delete, .all⟩]

/-- The scope of a text. -/
def ofText? (s : String) : Option Scope :=
  every.find? fun x => x.text == s

/-- Every scope is read back from its text. -/
@[simp]
theorem ofText?_text (x : Scope) : ofText? x.text = some x := by
  rcases x with ⟨a, b⟩
  cases a <;> cases b <;> decide

end Scope

/-! ## Scopes of roles -/

/-- The scopes on the holder's own record. -/
def ownScopes : List Scope :=
  [⟨.delete, .own⟩, ⟨.read, .own⟩, ⟨.write, .own⟩]

/-- The scopes on all records. -/
def allScopes : List Scope :=
  [⟨.delete, .all⟩, ⟨.read, .all⟩, ⟨.write, .all⟩]

/-- The scopes of a role. -/
def Role.scopes : Role → List Scope
  | .member => ownScopes
  | .admin => allScopes ++ ownScopes

/-- The texts of the scopes of a role. -/
def Role.scopeTexts (r : Role) : List String :=
  r.scopes.map Scope.text

/-- An administrator may do whatever a member may do. -/
theorem scopes_member_subset : Role.member.scopes ⊆ Role.admin.scopes := by
  intro x hx
  exact List.mem_append_right _ hx

/-! ## Sets of texts -/

/-- A list of texts as a set: sorted by code point and without repetitions. -/
def sortedTexts (xs : List String) : List String :=
  (xs.eraseDups).mergeSort fun a b => decide (a ≤ b)

/-- Sorting neither adds nor drops a text. -/
theorem mem_sortedTexts {x : String} {xs : List String} : x ∈ sortedTexts xs ↔ x ∈ xs := by
  simp [sortedTexts, List.mem_mergeSort]

/-- A required text is among the granted ones. -/
def holds (granted : List String) (required : String) : Bool :=
  granted.contains required

end Gatehouse
