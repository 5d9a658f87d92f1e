/-!
# Members

A member is known by an id and by an e-mail address, both compared exactly.  A
member without a password digest has not chosen a password yet.

Main results:

- `Role.ofName?_name`, `Role.ofName?_eq_some_iff`: a role and its name determine
  each other.
- `Member.hasPassword_eq_true_iff`: an empty digest counts as none.
-/

namespace Gatehouse

/-! ## Roles -/

/-- The closed set of roles. -/
inductive Role
  | member
  | admin
deriving DecidableEq, Repr

namespace Role

/-- The name of a role. -/
def name : Role → String
  | .member => "MEMBER"
  | .admin => "ADMIN"

/-- The role of a name. -/
def ofName? (s : String) : Option Role :=
  if s = "MEMBER" then some .member
  else if s = "ADMIN" then some .admin
  else none

/-- Every role is read back from its name. -/
@[simp]
theorem ofName?_name (r : Role) : ofName? r.name = some r := by
  cases r <;> decide

/-- A text names a role exactly when it is the name of that role. -/
theorem ofName?_eq_some_iff {s : String} {r : Role} : ofName? s = some r ↔ s = r.name := by
  constructor
  · intro h
    unfold ofName? at h
    split at h
    · next hs =>
      simp only [Option.some.injEq] at h
      exact h ▸ hs
    · split at h
      · next hs =>
        simp only [Option.some.injEq] at h
        exact h ▸ hs
      · simp at h
  · rintro rfl
    exact ofName?_name r

end Role

/-! ## Records -/

/-- A record of the directory. -/
structure Member where
  id : String
  email : String
  role : Role
  passwordDigest : Option String
  enabled : Bool
  createdAt : String
  updatedAt : String
deriving DecidableEq, Repr

namespace Member

/-- The stored digest, unless it is missing or empty. -/
def usableDigest? (m : Member) : Option String :=
  m.passwordDigest.filter (· ≠ "")

/-- The member has chosen a password. -/
def hasPassword (m : Member) : Bool :=
  m.usableDigest?.isSome

/-- A member has a password exactly when its digest is present and not empty. -/
theorem hasPassword_eq_true_iff (m : Member) :
    m.hasPassword = true ↔ ∃ d, m.passwordDigest = some d ∧ d ≠ "" := by
  unfold hasPassword usableDigest?
  cases m.passwordDigest with
  | none => simp
  | some d => by_cases h : d = "" <;> simp [Option.filter, h]

end Member

end Gatehouse
