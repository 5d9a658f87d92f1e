import Gatehouse.Account.Saving
import Gatehouse.Proofs.Flow

/-!
# Writing members

A write puts its record in the place of the one with its id, or at the end, and leaves the
members with other ids as they are.

Main results:

- `Member.mem_writeTo_iff`: the members after a write.
- `Directory.mem_save?_iff`: the members after a record was saved.
- `Directory.members_afterSave_of_new`, `Directory.members_afterSave_of_stored`,
  `Directory.members_afterSave_changed`: the list of the members after a write.
- `run_store_of_addressFree`: when a write is accepted, and what it answers.
- `directory_store`: the directory after a write that may be rejected.
- `atomic_store`: a write that fails changes no member.
-/

namespace Gatehouse

/-! ## Lists of members -/

namespace Member

/-- After a replacement the members are the new record, if its id was there, and those with
other ids. -/
theorem mem_replaceIn_iff {members : List Member} {r m : Member} :
    m ∈ replaceIn members r ↔
      (m = r ∧ r.id ∈ members.map Member.id) ∨ (m ∈ members ∧ m.id ≠ r.id) := by
  constructor
  · intro h
    rcases mem_replaceIn h with rfl | kept
    · left
      refine ⟨rfl, ?_⟩
      rw [← map_id_replaceIn members m]
      exact List.mem_map_of_mem h
    · exact .inr kept
  · intro given
    rcases given with ⟨rfl, h⟩ | ⟨h, hid⟩
    · rcases List.mem_map.1 h with ⟨old, hold, hid⟩
      exact List.mem_map.2 ⟨old, hold, by simp [hid]⟩
    · exact List.mem_map.2 ⟨m, h, by simp [hid]⟩

/-- After a write the members are the new record and those with other ids. -/
theorem mem_writeTo_iff {members : List Member} {r m : Member} :
    m ∈ writeTo members r ↔ m = r ∨ (m ∈ members ∧ m.id ≠ r.id) := by
  unfold writeTo
  split
  · next h =>
    rw [mem_replaceIn_iff]
    simp [h]
  · next h =>
    have other (hm : m ∈ members) : m.id ≠ r.id := by
      intro hid
      exact h (hid ▸ List.mem_map_of_mem hm)
    rw [List.mem_append, List.mem_singleton]
    constructor
    · intro given
      rcases given with hm | rfl
      · exact .inr ⟨hm, other hm⟩
      · exact .inl rfl
    · intro given
      rcases given with rfl | ⟨hm, _⟩
      · exact .inr rfl
      · exact .inl hm

end Member

/-! ## The directory -/

namespace Directory

/-- Members with one id are one member. -/
theorem eq_of_id_eq {d : Directory} {m n : Member} (hm : m ∈ d.members) (hn : n ∈ d.members)
    (h : m.id = n.id) : m = n := by
  have found : d.findById n.id = some m := findById_eq_some_iff.2 ⟨hm, h⟩
  exact Option.some.inj (found.symm.trans (findById_eq_some_iff.2 ⟨hn, rfl⟩))

/-- Members with one address are one member. -/
theorem eq_of_email_eq {d : Directory} {m n : Member} (hm : m ∈ d.members) (hn : n ∈ d.members)
    (h : m.email = n.email) : m = n := by
  have found : d.findByEmail n.email = some m := findByEmail_eq_some_iff.2 ⟨hm, h⟩
  exact Option.some.inj (found.symm.trans (findByEmail_eq_some_iff.2 ⟨hn, rfl⟩))

/-- Nothing is found under an address exactly when no member has it. -/
theorem findByEmail_eq_none_iff {d : Directory} {email : String} :
    d.findByEmail email = none ↔ ∀ m ∈ d.members, m.email ≠ email := by
  simp [findByEmail]

/-- The record that is stored is the one that was saved, with its times. -/
theorem stored_of_save? {d d' : Directory} {now : String} {m stored : Member}
    (h : d.save? now m = some (stored, d')) : stored = d.stamped now m := by
  unfold save? at h
  simp only at h
  split at h
  · exact (Prod.mk.inj (Option.some.inj h)).1.symm
  · cases h

/-- After a record was saved the members are the stored record and those with other ids. -/
theorem mem_save?_iff {d d' : Directory} {now : String} {m stored x : Member}
    (h : d.save? now m = some (stored, d')) :
    x ∈ d'.members ↔ x = stored ∨ (x ∈ d.members ∧ x.id ≠ m.id) := by
  unfold save? at h
  simp only at h
  split at h
  · rcases Prod.mk.inj (Option.some.inj h) with ⟨rfl, rfl⟩
    exact Member.mem_writeTo_iff
  · cases h

/-- An address that no member has belongs to no other id. -/
theorem addressFree_of_free {d : Directory} {r : Member} (free : d.findByEmail r.email = none) :
    Member.addressFree d.members r := by
  intro m member same
  exact absurd same (findByEmail_eq_none_iff.1 free m member)

/-- The address of a member belongs to no other id than its own. -/
theorem addressFree_of_stored {d : Directory} {r m : Member} (stored : m ∈ d.members)
    (hid : r.id = m.id) (hemail : r.email = m.email) : Member.addressFree d.members r := by
  intro x member same
  rw [eq_of_email_eq member stored (same.trans hemail), hid]

/-- The directory after a record was saved, or as it was when the record is rejected. -/
def afterSave (d : Directory) (now : String) (m : Member) : Directory :=
  match d.save? now m with
  | some (_, d') => d'
  | none => d

/-- A record whose address belongs to no other id is saved. -/
theorem save?_of_addressFree {d : Directory} {r : Member} (free : Member.addressFree d.members r)
    (now : String) : d.save? now r = some (d.stamped now r, d.afterSave now r) := by
  cases saved : d.save? now r with
  | none =>
    rcases save?_eq_none_iff.1 saved with ⟨other, member, same, differs⟩
    exact absurd (free other member same) differs
  | some pair =>
    rcases pair with ⟨stored, d'⟩
    rw [afterSave, saved, stored_of_save? saved]

/-- A record with an address that no member has is saved. -/
theorem exists_save?_of_free {d : Directory} {m : Member} (free : d.findByEmail m.email = none)
    (now : String) : ∃ d', d.save? now m = some (d.stamped now m, d') :=
  ⟨_, save?_of_addressFree (addressFree_of_free free) now⟩

/-- After a write the members are the stored record and members that were there before. -/
theorem mem_afterSave {d : Directory} {now : String} {r x : Member}
    (h : x ∈ (d.afterSave now r).members) : x = d.stamped now r ∨ x ∈ d.members := by
  unfold afterSave at h
  split at h
  · next stored d' saved =>
    rcases (mem_save?_iff saved).1 h with rfl | ⟨member, _⟩
    · exact .inl (stored_of_save? saved)
    · exact .inr member
  · exact .inr h

/-- A record with an address that no member has is stored. -/
theorem stamped_mem_afterSave {d : Directory} {m : Member} (free : d.findByEmail m.email = none)
    (now : String) : d.stamped now m ∈ (d.afterSave now m).members := by
  rcases exists_save?_of_free free now with ⟨d', saved⟩
  rw [afterSave, saved]
  exact (mem_save?_iff saved).2 (.inl rfl)

/-- A member with another id is there after a write exactly when it was there before. -/
theorem mem_afterSave_of_ne {d : Directory} {now : String} {m x : Member} (h : x.id ≠ m.id) :
    x ∈ (d.afterSave now m).members ↔ x ∈ d.members := by
  unfold afterSave
  split
  · next stored d' hs =>
    rw [mem_save?_iff hs]
    have other : x ≠ stored := by
      rintro rfl
      exact h (by rw [stored_of_save? hs, stamped_id])
    simp [h, other]
  · rfl

/-- A new record at a free address is added at the end. -/
theorem members_afterSave_of_new {d : Directory} {r : Member} (new : ∀ m ∈ d.members, m.id ≠ r.id)
    (free : d.findByEmail r.email = none) (now : String) :
    (d.afterSave now r).members = d.members ++ [d.stamped now r] := by
  have allowed : Member.addressFree d.members (d.stamped now r) := addressFree_of_free free
  have absent : r.id ∉ d.members.map Member.id := by
    intro present
    rcases List.mem_map.1 present with ⟨m, member, same⟩
    exact new m member same
  simp only [afterSave, save?, allowed, dif_pos, Member.writeTo, stamped_id, absent, if_false]

/-- A record with the id and the address of a member takes the place of that member. -/
theorem members_afterSave_of_stored {d : Directory} {r m : Member} (stored : m ∈ d.members)
    (hid : r.id = m.id) (hemail : r.email = m.email) (now : String) :
    (d.afterSave now r).members = Member.replaceIn d.members (d.stamped now r) := by
  have allowed : Member.addressFree d.members (d.stamped now r) :=
    addressFree_of_stored stored hid hemail
  have present : r.id ∈ d.members.map Member.id := hid ▸ List.mem_map_of_mem stored
  simp only [afterSave, save?, allowed, dif_pos, Member.writeTo, stamped_id, present, if_true]

/-- A member that is saved with a change, under its own id and address, gets the change and the new
time, and keeps the time of its creation; all other members are as they were. -/
theorem members_afterSave_changed {d : Directory} {m : Member} (stored : m ∈ d.members)
    (change : Member → Member) (hid : (change m).id = m.id) (hemail : (change m).email = m.email)
    (now : String) :
    (d.afterSave now (change m)).members = d.members.map fun x =>
      if x.email = m.email then { change x with createdAt := x.createdAt, updatedAt := now }
      else x := by
  have kept : d.findById m.id = some m := findById_eq_some_iff.2 ⟨stored, rfl⟩
  rw [members_afterSave_of_stored stored hid hemail now]
  apply List.map_congr_left
  intro x member
  by_cases same : x.id = m.id
  · rcases eq_of_id_eq member stored same with rfl
    simp [stamped, hid, kept]
  · have differs : x.email ≠ m.email := fun he => same (by rw [eq_of_email_eq member stored he])
    simp [hid, same, differs]

/-- A record with the id and the address of a member is stored. -/
theorem stamped_mem_afterSave_of_stored {d : Directory} {r m : Member} (stored : m ∈ d.members)
    (hid : r.id = m.id) (hemail : r.email = m.email) (now : String) :
    d.stamped now r ∈ (d.afterSave now r).members := by
  rw [members_afterSave_of_stored stored hid hemail]
  exact Member.mem_replaceIn_iff.2 (.inl ⟨rfl, by
    rw [stamped_id, hid]
    exact List.mem_map_of_mem stored⟩)

end Directory

/-! ## Operations that write -/

namespace Account

open Gatehouse.Flow

/-- A write saves its record or leaves the directory as it is. -/
theorem directory_store (stamp : String) (m : Member) (w : World) :
    ((store stamp m).runIn w).2.directory = w.directory.afterSave stamp m := by
  unfold store Directory.afterSave
  rw [run_bind, run_directory]
  simp only
  split <;> simp_all [reject]

/-- A record whose address belongs to no other id is stored and answered. -/
theorem run_store_of_addressFree {w : World} {r : Member}
    (free : Member.addressFree w.directory.members r) (stamp : String) :
    (store stamp r).runIn w = (.ok (w.directory.stamped stamp r),
      { w with directory := w.directory.afterSave stamp r }) := by
  simp only [store, run_bind, run_directory, Directory.save?_of_addressFree free, run_of]

/-- A rejected record changes no member. -/
theorem directory_reject (email : Option String) (w : World) :
    ((reject email).runIn w).2.directory = w.directory := by
  simp [reject]

/-- A write stores its record, or fails and leaves the members alone. -/
theorem atomic_store (stamp : String) (m : Member) (w : World) :
    Atomic World.directory (store stamp m) w := by
  apply atomic_bind keeps_directory
  intro d w' _
  split
  · intro e failed
    cases failed
  · exact Keeps.atomic (directory_reject _) w'

/-- Saving a member writes it under the current time, if the clock shows one. -/
theorem directory_save (m : Member) (w : World) :
    ((save m).runIn w).2.directory =
      match Time.stampOf w.clock with
      | .ok stamp => w.directory.afterSave stamp m
      | .error _ => w.directory := by
  unfold save
  rw [run_bind, run_timestamp]
  cases Time.stampOf w.clock with
  | ok stamp => exact directory_store stamp m w
  | error f => rfl

/-- A record whose address belongs to no other id is saved under the time that the clock shows. -/
theorem run_save_of_addressFree {w : World} {r : Member}
    (free : Member.addressFree w.directory.members r) {stamp : String}
    (time : Time.stampOf w.clock = .ok stamp) :
    (save r).runIn w = (.ok (w.directory.stamped stamp r),
      { w with directory := w.directory.afterSave stamp r }) := by
  rw [save, run_bind, run_timestamp, time]
  exact run_store_of_addressFree free stamp

end Account

end Gatehouse
