import Gatehouse.Member.Basic

/-!
# The member directory

The directory holds members in the order of their insertion.  No two members
share an id or an e-mail address; both are compared exactly.  Saving a member
inserts it or replaces the one with its id, and is rejected when the address
belongs to another id.

Main results:

- `Directory.save?_eq_none_iff`: exactly which writes are rejected.
- `Directory.findById_eq_some_iff`, `Directory.findByEmail_eq_some_iff`: look-ups find
  the members that the directory holds.
-/

namespace Gatehouse

/-! ## Uniqueness of keys -/

namespace Member

/-- A record replaces the one with its id. -/
def replaceIn (members : List Member) (r : Member) : List Member :=
  members.map fun m => if m.id = r.id then r else m

/-- A record replaces the one with its id, or is added at the end. -/
def writeTo (members : List Member) (r : Member) : List Member :=
  if r.id ∈ members.map Member.id then replaceIn members r else members ++ [r]

/-- Replacing a record changes no id. -/
theorem map_id_replaceIn (members : List Member) (r : Member) :
    (replaceIn members r).map Member.id = members.map Member.id := by
  simp only [replaceIn, List.map_map]
  apply List.map_congr_left
  intro m _
  by_cases h : m.id = r.id <;> simp [h]

/-- After a replacement every member is the new record or an old one with another id. -/
theorem mem_replaceIn {members : List Member} {r m : Member} (h : m ∈ replaceIn members r) :
    m = r ∨ (m ∈ members ∧ m.id ≠ r.id) := by
  simp only [replaceIn, List.mem_map] at h
  rcases h with ⟨n, hn, rfl⟩
  by_cases hid : n.id = r.id
  · left
    simp [hid]
  · right
    simp [hid, hn]

/-- The address of a record belongs to no other id. -/
def addressFree (members : List Member) (r : Member) : Prop :=
  ∀ m ∈ members, m.email = r.email → m.id = r.id

/-- Writing a record keeps the ids apart. -/
theorem nodup_ids_writeTo {members : List Member} (h : (members.map Member.id).Nodup)
    (r : Member) : ((writeTo members r).map Member.id).Nodup := by
  unfold writeTo
  split
  · rw [map_id_replaceIn]
    exact h
  · next hr =>
    rw [List.map_append, List.nodup_append]
    refine ⟨h, by simp, ?_⟩
    intro a ha b hb
    simp only [List.map_cons, List.map_nil, List.mem_singleton] at hb
    subst hb
    rintro rfl
    exact hr ha

/-- Replacing a record keeps the addresses apart if its address is free. -/
theorem nodup_emails_replaceIn {members : List Member} (hi : (members.map Member.id).Nodup)
    (he : (members.map Member.email).Nodup) {r : Member} (hf : addressFree members r) :
    ((replaceIn members r).map Member.email).Nodup := by
  induction members with
  | nil => simp [replaceIn]
  | cons m ms ih =>
    simp only [List.map_cons, List.nodup_cons] at hi he
    have hf' : addressFree ms r := fun n hn => hf n (List.mem_cons_of_mem _ hn)
    have step := ih hi.2 he.2 hf'
    have split : replaceIn (m :: ms) r = (if m.id = r.id then r else m) :: replaceIn ms r := rfl
    rw [split, List.map_cons, List.nodup_cons]
    refine ⟨?_, step⟩
    intro hm
    rcases List.mem_map.1 hm with ⟨n, hn, hne⟩
    rcases mem_replaceIn hn with rfl | ⟨hn, hnid⟩
    · by_cases hid : m.id = n.id
      · rcases List.mem_map.1 hn with ⟨k, hk, hke⟩
        by_cases hkid : k.id = n.id
        · exact hi.1 (List.mem_map.2 ⟨k, hk, hkid.trans hid.symm⟩)
        · rw [if_neg hkid] at hke
          exact hkid (hke ▸ rfl)
      · rw [if_neg hid] at hne
        exact hid (hf m List.mem_cons_self hne.symm)
    · by_cases hid : m.id = r.id
      · rw [if_pos hid] at hne
        exact hnid (hf n (List.mem_cons_of_mem _ hn) hne)
      · rw [if_neg hid] at hne
        exact he.1 (List.mem_map.2 ⟨n, hn, hne⟩)

/-- Writing a record keeps the addresses apart if its address is free. -/
theorem nodup_emails_writeTo {members : List Member} (hi : (members.map Member.id).Nodup)
    (he : (members.map Member.email).Nodup) {r : Member} (hf : addressFree members r) :
    ((writeTo members r).map Member.email).Nodup := by
  unfold writeTo
  split
  · exact nodup_emails_replaceIn hi he hf
  · next hr =>
    rw [List.map_append, List.nodup_append]
    refine ⟨he, by simp, ?_⟩
    intro a ha b hb
    simp only [List.map_cons, List.map_nil, List.mem_singleton] at hb
    subst hb
    rcases List.mem_map.1 ha with ⟨m, hm, rfl⟩
    intro heq
    exact hr (List.mem_map.2 ⟨m, hm, hf m hm heq⟩)

instance (members : List Member) (r : Member) : Decidable (addressFree members r) :=
  inferInstanceAs (Decidable (∀ m ∈ members, m.email = r.email → m.id = r.id))

end Member

/-! ## The directory -/

/-- Members in the order of insertion, with unique ids and addresses. -/
structure Directory where
  members : List Member
  ids_nodup : (members.map Member.id).Nodup
  emails_nodup : (members.map Member.email).Nodup

namespace Directory

/-- The directory without members. -/
def empty : Directory :=
  ⟨[], List.nodup_nil, List.nodup_nil⟩

/-- Directories with the same members are equal. -/
@[ext]
theorem ext {d e : Directory} (h : d.members = e.members) : d = e := by
  cases d
  cases e
  simpa using h

instance : DecidableEq Directory := fun d e =>
  decidable_of_iff (d.members = e.members) ⟨ext, congrArg members⟩

/-! ### Look-ups -/

/-- The number of members. -/
def size (d : Directory) : Nat :=
  d.members.length

/-- The member with an address. -/
def findByEmail (d : Directory) (email : String) : Option Member :=
  d.members.find? fun m => m.email = email

/-- The member with an id. -/
def findById (d : Directory) (id : String) : Option Member :=
  d.members.find? fun m => m.id = id

/-- The earlier created of two members; of two created at once the first. -/
def earlier (best : Option Member) (m : Member) : Option Member :=
  match best with
  | none => some m
  | some b => if m.createdAt < b.createdAt then some m else some b

/-- The earliest created member with a role. -/
def findByRole (d : Directory) (role : Role) : Option Member :=
  (d.members.filter fun m => m.role = role).foldl earlier none

/-- A search by address finds exactly the member with that address. -/
theorem findByEmail_eq_some_iff {d : Directory} {email : String} {m : Member} :
    d.findByEmail email = some m ↔ m ∈ d.members ∧ m.email = email := by
  constructor
  · intro h
    exact ⟨List.mem_of_find?_eq_some h, by simpa using List.find?_some h⟩
  · rintro ⟨hm, rfl⟩
    have := d.emails_nodup
    unfold findByEmail
    generalize d.members = ms at hm this
    induction ms with
    | nil => simp at hm
    | cons n ns ih =>
      simp only [List.map_cons, List.nodup_cons] at this
      rcases List.mem_cons.1 hm with rfl | hm
      · simp
      · have hne : n.email ≠ m.email := fun h =>
          this.1 (List.mem_map.2 ⟨m, hm, h.symm⟩)
        simp [hne, ih hm this.2]

/-- A search by id finds exactly the member with that id. -/
theorem findById_eq_some_iff {d : Directory} {id : String} {m : Member} :
    d.findById id = some m ↔ m ∈ d.members ∧ m.id = id := by
  constructor
  · intro h
    exact ⟨List.mem_of_find?_eq_some h, by simpa using List.find?_some h⟩
  · rintro ⟨hm, rfl⟩
    have := d.ids_nodup
    unfold findById
    generalize d.members = ms at hm this
    induction ms with
    | nil => simp at hm
    | cons n ns ih =>
      simp only [List.map_cons, List.nodup_cons] at this
      rcases List.mem_cons.1 hm with rfl | hm
      · simp
      · have hne : n.id ≠ m.id := fun h =>
          this.1 (List.mem_map.2 ⟨m, hm, h.symm⟩)
        simp [hne, ih hm this.2]

/-! ### Writes -/

/-- The record that is stored when a member is saved at a time: the creation time is kept
from the record with its id, or taken from the member when it has one. -/
def stamped (d : Directory) (now : String) (m : Member) : Member :=
  { m with
    createdAt :=
      match d.findById m.id with
      | some old => old.createdAt
      | none => if m.createdAt = "" then now else m.createdAt
    updatedAt := now }

/-- Stamping a record keeps its id. -/
@[simp]
theorem stamped_id (d : Directory) (now : String) (m : Member) : (d.stamped now m).id = m.id := rfl

/-- Stamping a record keeps its address. -/
@[simp]
theorem stamped_email (d : Directory) (now : String) (m : Member) :
    (d.stamped now m).email = m.email := rfl

/-- Save a member at a time, unless its address belongs to another id; the stored record
comes first. -/
def save? (d : Directory) (now : String) (m : Member) : Option (Member × Directory) :=
  let r := d.stamped now m
  if h : Member.addressFree d.members r then
    some (r, ⟨Member.writeTo d.members r, Member.nodup_ids_writeTo d.ids_nodup r,
      Member.nodup_emails_writeTo d.ids_nodup d.emails_nodup h⟩)
  else none

/-- A record is not saved exactly when another member has its address. -/
theorem save?_eq_none_iff {d : Directory} {now : String} {m : Member} :
    d.save? now m = none ↔ ∃ other ∈ d.members, other.email = m.email ∧ other.id ≠ m.id := by
  by_cases h : Member.addressFree d.members (d.stamped now m)
  · have hs : d.save? now m ≠ none := by simp [save?, h]
    refine ⟨fun hn => absurd hn hs, ?_⟩
    rintro ⟨n, hn, he, hid⟩
    exact absurd (h n hn he) hid
  · have hs : d.save? now m = none := by simp [save?, h]
    refine ⟨fun _ => Decidable.byContradiction fun he => h ?_, fun _ => hs⟩
    intro n hn hne
    exact Decidable.not_not.1 fun hid => he ⟨n, hn, hne, hid⟩

end Directory

end Gatehouse
