import Gatehouse.Proofs.Member.Writing
import Mathlib.Data.Finmap
import Mathlib.Data.Finset.Card

/-!
# The directory as a finite map

From outside the directory is a finite map from ids to records in which no two records share
an address.  Saving a record puts it under its id, with its times, unless another id has its
address; a save that does not go through changes nothing.  All of this holds after any sequence
of saves, whichever of them went through.

Main results:

- `Directory.lookup_records`, `Directory.records_save?`: look-ups and writes through the map.
- `Saving.saves`: what one save does to the map, whatever it is handed.
- `Saving.directory_of_error`: a save that fails changes nothing.
- `keys_saveAll`: the ids in the map are those that were saved.
- `directory_refines_map`: the directory after any saves.
-/

namespace Gatehouse

/-! ## Maps of records -/

/-- Records under their ids. -/
abbrev Records := Finmap fun _ : String => Member

namespace Records

/-- Another id than the given one has an address. -/
def Taken (rs : Records) (id email : String) : Prop :=
  ∃ other r, rs.lookup other = some r ∧ r.email = email ∧ other ≠ id

/-- The record that is stored when a member is saved at a time: the creation time of the record
under its id is kept; without such a record it is the member's own, or else the time. -/
def stamped (rs : Records) (now : String) (m : Member) : Member :=
  { m with
    createdAt :=
      match rs.lookup m.id with
      | some old => old.createdAt
      | none => if m.createdAt = "" then now else m.createdAt
    updatedAt := now }

end Records

/-! ## The map of a directory -/

namespace Directory

/-- The records of a directory. -/
def records (d : Directory) : Records :=
  (d.members.map fun m => (⟨m.id, m⟩ : Sigma fun _ : String => Member)).toFinmap

/-- A look-up in the map is a search by id. -/
theorem lookup_records (d : Directory) (id : String) : d.records.lookup id = d.findById id := by
  unfold records findById
  rw [Finmap.dlookup_list_toFinmap]
  induction d.members with
  | nil => rfl
  | cons m ms ih =>
    by_cases hid : m.id = id
    · subst hid
      simp
    · rw [List.map_cons, List.dlookup_cons_ne _ _ (Ne.symm hid), ih]
      simp [hid]

/-- The records in the map are the members. -/
theorem lookup_records_eq_some_iff {d : Directory} {id : String} {m : Member} :
    d.records.lookup id = some m ↔ m ∈ d.members ∧ m.id = id := by
  rw [lookup_records, findById_eq_some_iff]

/-- The ids in the map are those of the members. -/
theorem keys_records (d : Directory) : d.records.keys = (d.members.map Member.id).toFinset := by
  ext id
  rw [Finmap.mem_keys, Finmap.mem_iff, List.mem_toFinset, List.mem_map]
  simp only [lookup_records_eq_some_iff]

/-- The directory has as many members as there are ids in the map. -/
theorem card_keys_records (d : Directory) : d.records.keys.card = d.size := by
  rw [keys_records, List.toFinset_card_of_nodup d.ids_nodup, List.length_map, size]

/-- The directory without members is the empty map. -/
theorem records_empty : Directory.empty.records = ∅ := rfl

/-- The address of a record belongs to another id exactly when another member has it. -/
theorem taken_records_iff {d : Directory} {id email : String} :
    d.records.Taken id email ↔ ∃ other ∈ d.members, other.email = email ∧ other.id ≠ id := by
  constructor
  · rintro ⟨i, other, found, he, hid⟩
    rcases lookup_records_eq_some_iff.1 found with ⟨member, rfl⟩
    exact ⟨other, member, he, hid⟩
  · rintro ⟨other, member, he, hid⟩
    exact ⟨other.id, other, lookup_records_eq_some_iff.2 ⟨member, rfl⟩, he, hid⟩

/-- A write is rejected exactly when another id has the address of its record. -/
theorem save?_eq_none_iff_taken {d : Directory} {now : String} {m : Member} :
    d.save? now m = none ↔ d.records.Taken m.id m.email := by
  rw [save?_eq_none_iff, taken_records_iff]

/-- The record that is stored is read off the map. -/
theorem stamped_records (d : Directory) (now : String) (m : Member) :
    d.records.stamped now m = d.stamped now m := by
  rw [Records.stamped, lookup_records]
  rfl

/-- A write puts the stored record under its id. -/
theorem records_save? {d d' : Directory} {now : String} {m stored : Member}
    (h : d.save? now m = some (stored, d')) : d'.records = d.records.insert m.id stored := by
  have storedId : stored.id = m.id := by rw [stored_of_save? h, stamped_id]
  apply Finmap.ext_lookup
  intro id
  apply Option.ext
  intro x
  rw [lookup_records_eq_some_iff, mem_save?_iff h]
  by_cases hid : id = m.id
  · subst hid
    rw [Finmap.lookup_insert, Option.some.injEq]
    constructor
    · rintro ⟨rfl | ⟨_, other⟩, same⟩
      · rfl
      · exact absurd same other
    · rintro rfl
      exact ⟨.inl rfl, storedId⟩
  · rw [Finmap.lookup_insert_of_ne _ hid, lookup_records_eq_some_iff]
    constructor
    · rintro ⟨rfl | ⟨member, _⟩, same⟩
      · exact absurd (same.symm.trans storedId) hid
      · exact ⟨member, same⟩
    · rintro ⟨member, same⟩
      exact ⟨.inr ⟨member, same ▸ hid⟩, same⟩

end Directory

/-! ## Saves -/

namespace Account

open Gatehouse.Flow

/-- A record that is handed in to be saved at a time. -/
structure Saving where
  clock : Float
  draft : Draft

/-- The outcome of a save, and the world after it. -/
def Saving.run (c : Saving) (w : World) : Except Failure Member × World :=
  (saveDraft c.draft).runIn { w with clock := c.clock }

/-- The outcomes of saves, one after the other, and the world after them. -/
def saveAll : List Saving → World → List (Except Failure Member) × World
  | [], w => ([], w)
  | c :: calls, w =>
    ((c.run w).1 :: (saveAll calls (c.run w).2).1, (saveAll calls (c.run w).2).2)

/-- The ids of the records that were stored. -/
def savedIds (outcomes : List (Except Failure Member)) : List String :=
  outcomes.filterMap fun outcome => outcome.toOption.map Member.id

/-- What a save does to a map of records: its outcome, and the map after it. -/
inductive Saves (rs : Records) (c : Saving) : Except Failure Member → Records → Prop
  /-- The record is stored under its id, with its times. -/
  | stored {now id email : String} {role : Role} (time : Time.stampOf c.clock = .ok now)
    (named : roleOf c.draft.role = .ok role) (hid : c.draft.id = some id)
    (hemail : c.draft.email = some email) (free : ¬ rs.Taken id email) {r : Member}
    (hr : r = rs.stamped now
      ⟨id, email, role, c.draft.passwordDigest, c.draft.enabled, c.draft.createdAt, ""⟩) :
    Saves rs c (.ok r) (rs.insert id r)
  /-- Another id has the address. -/
  | taken {now id email : String} {role : Role} (time : Time.stampOf c.clock = .ok now)
    (named : roleOf c.draft.role = .ok role) (hid : c.draft.id = some id)
    (hemail : c.draft.email = some email) (taken : rs.Taken id email) :
    Saves rs c (.error (.refused (.emailRegistered email))) rs
  /-- There is no id or no address. -/
  | missing {now : String} {role : Role} (time : Time.stampOf c.clock = .ok now)
    (named : roleOf c.draft.role = .ok role)
    (absent : c.draft.id = none ∨ c.draft.email = none) :
    Saves rs c (.error (.refused (.emailRegistered c.draft.email))) rs
  /-- The role is none. -/
  | unknownRole {now : String} {f : Fault} (time : Time.stampOf c.clock = .ok now)
    (named : roleOf c.draft.role = .error f) : Saves rs c (.error (.fault f)) rs
  /-- The clock shows no time. -/
  | noTime {f : Fault} (time : Time.stampOf c.clock = .error f) :
    Saves rs c (.error (.fault f)) rs

/-- A record is stored under its id, or rejected when its address is taken. -/
theorem run_store (stamp : String) (m : Member) (w : World) :
    (¬ w.directory.records.Taken m.id m.email ∧
        ((store stamp m).runIn w).1 = .ok (w.directory.records.stamped stamp m) ∧
        ((store stamp m).runIn w).2.directory.records =
          w.directory.records.insert m.id (w.directory.records.stamped stamp m)) ∨
      (w.directory.records.Taken m.id m.email ∧
        ((store stamp m).runIn w).1 = .error (.refused (.emailRegistered m.email)) ∧
        ((store stamp m).runIn w).2.directory = w.directory) := by
  have rejected : w.directory.save? stamp m = none ↔ w.directory.records.Taken m.id m.email :=
    Directory.save?_eq_none_iff_taken
  rw [Directory.stamped_records, ← rejected]
  cases saved : w.directory.save? stamp m with
  | none => exact .inr ⟨rfl, by simp [store, reject, saved]⟩
  | some pair =>
    rcases pair with ⟨r, d'⟩
    left
    rw [← Directory.stored_of_save? saved, ← Directory.records_save? saved]
    simp [store, saved]

/-- Every save does one of the five things, whatever it is handed. -/
theorem Saving.saves (c : Saving) (w : World) :
    Saves w.directory.records c (c.run w).1 (c.run w).2.directory.records := by
  unfold Saving.run saveDraft
  rw [run_bind, run_timestamp]
  cases time : Time.stampOf c.clock with
  | error f =>
    simp only [Except.mapError]
    exact .noTime time
  | ok now =>
    simp only [Except.mapError, run_bind, run_liftFault]
    cases named : roleOf c.draft.role with
    | error f => exact .unknownRole time named
    | ok role =>
      simp only
      split
      · next id email hid hemail =>
        rcases run_store now ⟨id, email, role, c.draft.passwordDigest, c.draft.enabled,
          c.draft.createdAt, ""⟩ { w with clock := c.clock } with
          ⟨free, outcome, after⟩ | ⟨taken, outcome, after⟩
        · rw [outcome, after]
          exact .stored time named hid hemail free rfl
        · rw [outcome, after]
          exact .taken time named hid hemail taken
      · next absent =>
        have missing : c.draft.id = none ∨ c.draft.email = none := by
          cases hid : c.draft.id with
          | none => exact .inl rfl
          | some id =>
            cases hemail : c.draft.email with
            | none => exact .inr rfl
            | some email => exact absurd hemail (absent id email hid)
        simpa [reject] using Saves.missing time named missing

/-- Saving a draft is all or nothing. -/
theorem atomic_saveDraft (draft : Draft) (w : World) :
    Atomic World.directory (saveDraft draft) w := by
  apply atomic_bind keeps_timestamp
  intro stamp w₁ _
  apply atomic_bind (keeps_liftFault _)
  intro role w₂ _
  split
  · exact atomic_store stamp _ w₂
  · exact Keeps.atomic (directory_reject _) w₂

/-- A save that does not go through changes nothing. -/
theorem Saving.directory_of_error (c : Saving) (w : World) {e : Failure}
    (failed : (c.run w).1 = .error e) : (c.run w).2.directory = w.directory :=
  atomic_saveDraft c.draft { w with clock := c.clock } e failed

section Effects

variable {rs after : Records} {c : Saving} {outcome : Except Failure Member}

/-- A record with an id and an address is rejected as a duplicate exactly when another id has the
address. -/
theorem Saves.duplicate_iff (h : Saves rs c outcome after) {now id email : String} {role : Role}
    (time : Time.stampOf c.clock = .ok now) (named : roleOf c.draft.role = .ok role)
    (hid : c.draft.id = some id) (hemail : c.draft.email = some email) :
    (∃ cause, outcome = .error (.refused cause) ∧ cause.kind = .duplicateMember) ↔
      rs.Taken id email := by
  cases h with
  | stored _ _ hid' hemail' free =>
    cases hid.symm.trans hid'
    cases hemail.symm.trans hemail'
    simp [free]
  | taken _ _ hid' hemail' taken =>
    cases hid.symm.trans hid'
    cases hemail.symm.trans hemail'
    simp only [taken, iff_true]
    exact ⟨_, rfl, rfl⟩
  | missing _ _ absent => simp [hid, hemail] at absent
  | unknownRole _ named' => cases named.symm.trans named'
  | noTime time' => cases time.symm.trans time'

/-- The ids after a save are those before it and the one that was stored. -/
theorem Saves.keys (h : Saves rs c outcome after) :
    after.keys = (savedIds [outcome]).toFinset ∪ rs.keys := by
  cases h with
  | stored time named hid hemail free hr =>
    ext other
    subst hr
    simp [savedIds, Except.toOption, Finmap.mem_keys, Finmap.mem_insert, Records.stamped]
  | taken | missing | unknownRole | noTime => simp [savedIds, Except.toOption]

end Effects

/-! ## Sequences of saves -/

/-- The ids after saves are those before them and those that were stored. -/
theorem keys_saveAll (calls : List Saving) (w : World) :
    (saveAll calls w).2.directory.records.keys =
      (savedIds (saveAll calls w).1).toFinset ∪ w.directory.records.keys := by
  induction calls generalizing w with
  | nil => simp [saveAll, savedIds]
  | cons c calls ih =>
    have ids : savedIds (saveAll (c :: calls) w).1 =
        savedIds [(c.run w).1] ++ savedIds (saveAll calls (c.run w).2).1 := by
      simp only [saveAll, savedIds, ← List.filterMap_append, List.singleton_append]
    calc (saveAll (c :: calls) w).2.directory.records.keys
      _ = (savedIds (saveAll calls (c.run w).2).1).toFinset ∪
          (c.run w).2.directory.records.keys := ih (c.run w).2
      _ = (savedIds (saveAll calls (c.run w).2).1).toFinset ∪
          ((savedIds [(c.run w).1]).toFinset ∪ w.directory.records.keys) := by
        rw [(c.saves w).keys]
      _ = (savedIds (saveAll (c :: calls) w).1).toFinset ∪ w.directory.records.keys := by
        rw [ids, List.toFinset_append, Finset.union_left_comm, Finset.union_assoc]

/-- After any sequence of saves to an empty directory, each at a time of its own and handed
anything, the directory is a finite map: its records are under their ids, no two of them share
an address, look-ups by id and by address find them and nothing else, and there are as many as
ids were stored.  The next save, whatever it is handed, does to the map what a save should: it
is rejected exactly when another id has the address, and then changes nothing, as when it fails
otherwise; else it puts the record that it answers with under its id. -/
theorem directory_refines_map (calls : List Saving) (w : World) :
    let run := saveAll calls { w with directory := .empty }
    let d := run.2.directory
    (∀ id m, d.records.lookup id = some m → m.id = id) ∧
    (∀ i j m n, d.records.lookup i = some m → d.records.lookup j = some n → m.email = n.email →
      i = j) ∧
    (∀ id, d.findById id = d.records.lookup id) ∧
    (∀ email m, d.findByEmail email = some m ↔
      ∃ id, d.records.lookup id = some m ∧ m.email = email) ∧
    d.size = (savedIds run.1).toFinset.card ∧
    ∀ next : Saving,
      Saves d.records next (next.run run.2).1 (next.run run.2).2.directory.records ∧
      (∀ e, (next.run run.2).1 = .error e → (next.run run.2).2.directory = d) ∧
      (∀ now role id email, Time.stampOf next.clock = .ok now → roleOf next.draft.role = .ok role →
        next.draft.id = some id → next.draft.email = some email →
        ((∃ cause, (next.run run.2).1 = .error (.refused cause) ∧
          cause.kind = .duplicateMember) ↔ d.records.Taken id email)) := by
  intro run d
  refine ⟨?_, ?_, fun id => (Directory.lookup_records d id).symm, ?_, ?_, fun next => ?_⟩
  · intro id m found
    exact (Directory.lookup_records_eq_some_iff.1 found).2
  · intro i j m n hm hn same
    rcases Directory.lookup_records_eq_some_iff.1 hm with ⟨memberM, rfl⟩
    rcases Directory.lookup_records_eq_some_iff.1 hn with ⟨memberN, rfl⟩
    rw [Directory.eq_of_email_eq memberM memberN same]
  · intro email m
    simp only [Directory.findByEmail_eq_some_iff, Directory.lookup_records_eq_some_iff]
    constructor
    · rintro ⟨member, he⟩
      exact ⟨m.id, ⟨member, rfl⟩, he⟩
    · rintro ⟨id, ⟨member, _⟩, he⟩
      exact ⟨member, he⟩
  · have keys := keys_saveAll calls { w with directory := .empty }
    rw [Directory.records_empty, Finmap.keys_empty, Finset.union_empty] at keys
    rw [← Directory.card_keys_records, keys]
  · have saves := next.saves run.2
    exact ⟨saves, fun e failed => next.directory_of_error run.2 failed,
      fun now role id email time named hid hemail => saves.duplicate_iff time named hid hemail⟩

end Account

end Gatehouse
