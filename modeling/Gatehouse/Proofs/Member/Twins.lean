import Gatehouse.Password.Verifier
import Gatehouse.Proofs.Member.Writing
import Mathlib.Data.List.Forall2

/-!
# Records that differ in their digests

Two records are twins if they are the same but for their digests, both have a password or neither
has, and every password that counts belongs to both digests or to neither.  Which passwords count
may depend on the address.  Two directories that hold twins, one by one, find twins under every
address, and still hold twins after twins were saved in both.

Main results:

- `Member.Twins`, `Directory.Twinned`: records and directories that differ in digests.
- `Directory.Twinned.findByEmail`: what is found under an address.
- `Directory.Twinned.save?`: what saving does to both.
-/

namespace Gatehouse

/-! ## Records -/

namespace Member

/-- Two records are the same but for their digests.  They agree on whether there is a password, and
on whether the passwords that count for their address belong to the digest. -/
structure Twins (counts : String → Option String → Prop) (m m' : Member) : Prop where
  record : m' = { m with passwordDigest := m'.passwordDigest }
  hasPassword : m'.hasPassword = m.hasPassword
  verdict : ∀ password, counts m.email password →
    Password.accepts password m'.passwordDigest = Password.accepts password m.passwordDigest

section Twins

variable {counts : String → Option String → Prop} {m m' r r' : Member} {ms ms' : List Member}

/-- Every record is its own twin. -/
theorem Twins.refl (m : Member) : Twins counts m m :=
  ⟨rfl, rfl, fun _ _ => rfl⟩

/-- The twin of a record is the record with some digest. -/
theorem Twins.exists_digest (h : Twins counts m m') :
    ∃ digest, m' = { m with passwordDigest := digest } :=
  ⟨_, h.record⟩

/-- Twins have one id. -/
theorem Twins.id (h : Twins counts m m') : m'.id = m.id := by
  rw [h.record]

/-- Twins have one address. -/
theorem Twins.email (h : Twins counts m m') : m'.email = m.email := by
  rw [h.record]

/-- Twins have one role. -/
theorem Twins.role (h : Twins counts m m') : m'.role = m.role := by
  rw [h.record]

/-- Twins are both enabled, or neither is. -/
theorem Twins.enabled (h : Twins counts m m') : m'.enabled = m.enabled := by
  rw [h.record]

/-- Lists of twins have one list of ids. -/
theorem map_id_of_twins (h : List.Forall₂ (Twins counts) ms ms') :
    ms'.map Member.id = ms.map Member.id := by
  induction h with
  | nil => rfl
  | cons twins _ ih => rw [List.map_cons, List.map_cons, twins.id, ih]

/-- Among twins a search that does not look at digests finds twins. -/
theorem find?_of_twins {p : Member → Bool} (h : List.Forall₂ (Twins counts) ms ms')
    (blind : ∀ m m', Twins counts m m' → p m' = p m) :
    Option.Rel (Twins counts) (ms.find? p) (ms'.find? p) := by
  induction h with
  | nil => exact .none
  | @cons m m' _ _ twins _ ih =>
    rw [List.find?_cons, List.find?_cons, blind m m' twins]
    split
    · exact .some twins
    · exact ih

/-- The addresses of twins are free among twins alike. -/
theorem addressFree_of_twins (h : List.Forall₂ (Twins counts) ms ms') (twins : Twins counts r r') :
    addressFree ms' r' ↔ addressFree ms r := by
  unfold addressFree
  induction h with
  | nil => simp
  | cons first _ ih =>
    rw [List.forall_mem_cons, List.forall_mem_cons, ih, first.email, first.id, twins.email,
      twins.id]

/-- Twins that are written to lists of twins make lists of twins. -/
theorem writeTo_of_twins (h : List.Forall₂ (Twins counts) ms ms') (twins : Twins counts r r') :
    List.Forall₂ (Twins counts) (writeTo ms r) (writeTo ms' r') := by
  unfold writeTo
  rw [map_id_of_twins h, twins.id]
  split
  · unfold replaceIn
    rw [List.forall₂_map_left_iff, List.forall₂_map_right_iff]
    refine h.imp fun m m' first => ?_
    rw [first.id, twins.id]
    split
    · exact twins
    · exact first
  · exact List.rel_append h (.cons twins .nil)

end Twins

end Member

/-! ## Directories -/

namespace Directory

open Gatehouse.Member

/-- Two directories hold twins, one by one. -/
def Twinned (counts : String → Option String → Prop) (d d' : Directory) : Prop :=
  List.Forall₂ (Twins counts) d.members d'.members

section Twinned

variable {counts : String → Option String → Prop} {d d' : Directory} {m m' : Member}

/-- Under an address twins are found. -/
theorem Twinned.findByEmail (h : Twinned counts d d') (email : String) :
    Option.Rel (Twins counts) (d.findByEmail email) (d'.findByEmail email) :=
  find?_of_twins h fun m m' twins => by rw [twins.email]

/-- Under an id twins are found. -/
theorem Twinned.findById (h : Twinned counts d d') (id : String) :
    Option.Rel (Twins counts) (d.findById id) (d'.findById id) :=
  find?_of_twins h fun m m' twins => by rw [twins.id]

/-- Twins are stored with the same times. -/
theorem Twinned.stamped (h : Twinned counts d d') (twins : Twins counts m m') (now : String) :
    Twins counts (d.stamped now m) (d'.stamped now m') := by
  rcases twins.exists_digest with ⟨digest, rfl⟩
  refine ⟨?_, twins.hasPassword, twins.verdict⟩
  have found := h.findById m.id
  unfold Directory.stamped
  simp only
  generalize d.findById m.id = x at found
  generalize d'.findById m.id = y at found
  cases found with
  | none => rfl
  | some old =>
    rcases old.exists_digest with ⟨digest, rfl⟩
    rfl

/-- Twins are saved alike: in both directories or in none, and the directories hold twins again. -/
theorem Twinned.save? (h : Twinned counts d d') (twins : Twins counts m m') (now : String) :
    Option.Rel (fun x y => Twins counts x.1 y.1 ∧ Twinned counts x.2 y.2) (d.save? now m)
      (d'.save? now m') := by
  have stored := h.stamped twins now
  have free := addressFree_of_twins h stored
  unfold Directory.save?
  simp only
  by_cases allowed : addressFree d.members (d.stamped now m)
  · rw [dif_pos allowed, dif_pos (free.2 allowed)]
    exact .some ⟨stored, writeTo_of_twins h stored⟩
  · rw [dif_neg allowed, dif_neg (mt free.1 allowed)]
    exact .none

end Twinned

end Directory

end Gatehouse
