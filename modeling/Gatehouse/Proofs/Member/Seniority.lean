import Gatehouse.Proofs.Member.Records
import Gatehouse.Proofs.Time.Order

/-!
# Who was first

Members are compared by the text of their creation time.  Along saves whose clock does not run
backward, and whose new records bring no creation time of their own, these texts are the timestamps
of the insertions: the first member with a role is one that no other member with the role was
inserted before.

The instants of the insertions are kept beside the directory for this: what is proved of one save
is that it keeps the texts in step with them.

Main results:

- `Directory.findByRole_eq_none_iff`, `Directory.findByRole_eq_some`: look-ups by role.
- `Saves.dated`, `dated_saveAll`: members bear the timestamps of their insertion and last save.
- `createdAt_saveAll`: the creation time of a member stays.
- `first_with_role_is_oldest`: creation order is kept by the order of texts.
-/

namespace Gatehouse

open Gatehouse.Number Gatehouse.Time

/-! ## Look-ups by role -/

namespace Directory

/-- The earlier of two members is one of them, and created no later than both. -/
theorem exists_earlier (b m : Member) :
    ∃ x, earlier (some b) m = some x ∧ (x = b ∨ x = m) ∧ x.createdAt ≤ b.createdAt ∧
      x.createdAt ≤ m.createdAt := by
  simp only [earlier]
  split
  · next less => exact ⟨m, rfl, .inr rfl, less.le, le_rfl⟩
  · next notLess => exact ⟨b, rfl, .inl rfl, le_rfl, not_lt.1 notLess⟩

/-- The earliest of some members is one of them, and created no later than all. -/
theorem exists_earliest (ms : List Member) (b : Member) :
    ∃ x, ms.foldl earlier (some b) = some x ∧ x ∈ b :: ms ∧
      ∀ m ∈ b :: ms, x.createdAt ≤ m.createdAt := by
  induction ms generalizing b with
  | nil => exact ⟨b, rfl, List.mem_cons_self, by simp⟩
  | cons m ms ih =>
    obtain ⟨y, first, either, before, before'⟩ := exists_earlier b m
    obtain ⟨x, rest, among, least⟩ := ih y
    have beforeY := least y List.mem_cons_self
    refine ⟨x, by rw [List.foldl_cons, first, rest], ?_, ?_⟩
    · rcases List.mem_cons.1 among with rfl | among
      · rcases either with rfl | rfl <;> simp
      · simp [among]
    · simp only [List.forall_mem_cons] at least ⊢
      exact ⟨beforeY.trans before, beforeY.trans before', least.2⟩

/-- Nobody is found under a role exactly when no member has it. -/
theorem findByRole_eq_none_iff {d : Directory} {role : Role} :
    d.findByRole role = none ↔ ∀ m ∈ d.members, m.role ≠ role := by
  unfold findByRole
  cases among : d.members.filter fun m => m.role = role with
  | nil => simpa using among
  | cons b ms =>
    obtain ⟨x, found, _⟩ := exists_earliest ms b
    have member : b ∈ d.members ∧ decide (b.role = role) = true :=
      List.mem_filter.1 (among ▸ List.mem_cons_self)
    have some : (b :: ms).foldl earlier none = some x := found
    simp only [some, reduceCtorEq, false_iff, not_forall]
    exact ⟨b, member.1, by simpa using member.2⟩

/-- Who is found under a role has it, and was created no later than any other member with it. -/
theorem findByRole_eq_some {d : Directory} {role : Role} {m : Member}
    (found : d.findByRole role = some m) :
    m ∈ d.members ∧ m.role = role ∧
      ∀ n ∈ d.members, n.role = role → m.createdAt ≤ n.createdAt := by
  have candidates (n : Member) :
      n ∈ (d.members.filter fun n => n.role = role) ↔ n ∈ d.members ∧ n.role = role := by
    simp
  unfold findByRole at found
  cases among : d.members.filter fun m => m.role = role with
  | nil =>
    rw [among] at found
    cases found
  | cons b ms =>
    obtain ⟨x, first, member, least⟩ := exists_earliest ms b
    rw [among] at found candidates
    cases first.symm.trans found
    have own := (candidates m).1 member
    exact ⟨own.1, own.2, fun n hn role => least n ((candidates n).2 ⟨hn, role⟩)⟩

end Directory

/-! ## Saves in the order of time -/

namespace Account

/-- The clock does not run backward between saves. -/
def Orderly (calls : List Saving) : Prop :=
  calls.Pairwise fun c d =>
    ∀ q r, toRat? c.clock = some q → toRat? d.clock = some r → q ≤ r

/-- Records that are new to the directory bring no creation time. -/
def Undated : List Saving → World → Prop
  | [], _ => True
  | c :: calls, w =>
    (∀ r, (c.run w).1 = .ok r → w.directory.records.lookup r.id = none →
        c.draft.createdAt = "") ∧
      Undated calls (c.run w).2

/-- The instants at which ids were inserted. -/
abbrev Insertions := String → Option Int

/-- The insertions after a save: an id that is among the records since then was inserted at the
instant of the save. -/
def Saving.notes (c : Saving) (before after : Records) (known : Insertions) : Insertions :=
  fun id =>
  match before.lookup id, after.lookup id with
  | none, some _ => (instantOf c.clock).toOption
  | _, _ => known id

/-- The insertions after saves. -/
def insertions : List Saving → World → Insertions → Insertions
  | [], _, known => known
  | c :: calls, w, known =>
    insertions calls (c.run w).2 (c.notes w.directory.records (c.run w).2.directory.records known)

/-- A member bears the timestamps of its insertion and of a later save. -/
structure Dated (m : Member) (inserted saved : Int) : Prop where
  created : m.createdAt = textOf inserted
  updated : m.updatedAt = textOf saved
  datable : Datable inserted
  datable' : Datable saved
  order : inserted ≤ saved

/-- No save shows an earlier instant than the given one. -/
def Past (instant : Int) (calls : List Saving) : Prop :=
  ∀ c ∈ calls, ∀ i, instantOf c.clock = .ok i → instant ≤ i

/-- All records bear the timestamps of their insertion and of a save that is past for the saves to
come. -/
def AllDated (rs : Records) (known : Insertions) (calls : List Saving) : Prop :=
  ∀ id m, rs.lookup id = some m → ∃ i u, known id = some i ∧ Dated m i u ∧ Past u calls

/-- The instant of a save is past for the saves after it. -/
theorem Orderly.past {c : Saving} {calls : List Saving} (order : Orderly (c :: calls)) {i : Int}
    (instant : instantOf c.clock = .ok i) : Past i calls := by
  intro c' later j instant'
  obtain ⟨q, hq, _⟩ := instantOf_ok instant
  obtain ⟨r, hr, _⟩ := instantOf_ok instant'
  exact instantOf_mono hq hr ((List.pairwise_cons.1 order).1 c' later q r hq hr) instant instant'

section Notes

variable {rs after : Records} {c : Saving} {known : Insertions}

/-- A save that changes nothing inserts nothing. -/
theorem Saving.notes_self (c : Saving) (rs : Records) (known : Insertions) :
    c.notes rs rs known = known := by
  funext id
  unfold Saving.notes
  cases rs.lookup id <;> rfl

/-- An id that was among the records before a save was not inserted by it. -/
theorem Saving.notes_of_some {id : String} {m : Member} (stored : rs.lookup id = some m) :
    c.notes rs after known id = known id := by
  simp only [Saving.notes, stored]

/-- An id that is among the records since a save was inserted at the instant of the save. -/
theorem Saving.notes_of_none {id : String} {m : Member} {i : Int} (new : rs.lookup id = none)
    (stored : after.lookup id = some m) (instant : instantOf c.clock = .ok i) :
    c.notes rs after known id = some i := by
  simp only [Saving.notes, new, stored, toOption_instantOf_eq_some_iff.2 instant]

/-- Records that bear their timestamps do so as well after a save. -/
theorem Saves.dated {outcome : Except Failure Member} {calls : List Saving}
    (h : Saves rs c outcome after) (order : Orderly (c :: calls))
    (undated : ∀ r, outcome = .ok r → rs.lookup r.id = none → c.draft.createdAt = "")
    (dated : AllDated rs known (c :: calls)) :
    AllDated after (c.notes rs after known) calls := by
  have kept (u : Int) (past : Past u (c :: calls)) : Past u calls :=
    fun d hd => past d (List.mem_cons_of_mem c hd)
  cases h with
  | @stored now id email role time named hid hemail free r hr =>
    obtain ⟨t, instant, rfl⟩ := stampOf_eq_ok_iff.1 time
    obtain ⟨_, _, _, datable⟩ := instantOf_ok instant
    have past : Past t calls := order.past instant
    have undated := undated r rfl
    subst hr
    intro id' m found
    by_cases other : id' = id
    · subst other
      rw [Finmap.lookup_insert, Option.some.injEq] at found
      subst found
      cases before : rs.lookup id' with
      | some old =>
        -- the creation time is that of the record before
        obtain ⟨i, u, inserted, bears, earlier⟩ := dated id' old before
        have later : i ≤ t := bears.order.trans (earlier c List.mem_cons_self t instant)
        refine ⟨i, t, (Saving.notes_of_some before).trans inserted, ⟨?_, rfl, bears.datable,
          datable, later⟩, past⟩
        simp only [Records.stamped, before, bears.created]
      | none =>
        have blank := undated before
        refine ⟨t, t, Saving.notes_of_none before (Finmap.lookup_insert _) instant, ⟨?_, rfl,
          datable, datable, le_rfl⟩, past⟩
        simp only [Records.stamped, before, blank, if_true]
    · rw [Finmap.lookup_insert_of_ne _ other] at found
      obtain ⟨i, u, inserted, bears, earlier⟩ := dated id' m found
      exact ⟨i, u, (Saving.notes_of_some found).trans inserted, bears, kept u earlier⟩
  | taken | missing | unknownRole | noTime =>
    rw [Saving.notes_self]
    intro id m found
    obtain ⟨i, u, inserted, bears, earlier⟩ := dated id m found
    exact ⟨i, u, inserted, bears, kept u earlier⟩

/-- A save leaves the creation time of a record as it is. -/
theorem Saves.createdAt {outcome : Except Failure Member} (h : Saves rs c outcome after)
    {id : String} {m : Member} (stored : rs.lookup id = some m) :
    ∃ m', after.lookup id = some m' ∧ m'.createdAt = m.createdAt := by
  cases h with
  | @stored now id' email role time named hid hemail free r hr =>
    subst hr
    by_cases other : id = id'
    · subst other
      refine ⟨_, Finmap.lookup_insert _, ?_⟩
      simp only [Records.stamped, stored]
    · exact ⟨m, by rw [Finmap.lookup_insert_of_ne _ other, stored], rfl⟩
  | taken | missing | unknownRole | noTime => exact ⟨m, stored, rfl⟩

end Notes

/-! ## Runs -/

/-- Saves one after the other. -/
theorem saveAll_append (calls more : List Saving) (w : World) :
    (saveAll (calls ++ more) w).2 = (saveAll more (saveAll calls w).2).2 := by
  induction calls generalizing w with
  | nil => rfl
  | cons c calls ih => exact ih (c.run w).2

/-- Along saves in the order of time all records bear their timestamps. -/
theorem dated_saveAll {calls : List Saving} {w : World} {known : Insertions}
    (order : Orderly calls) (undated : Undated calls w)
    (dated : AllDated w.directory.records known calls) :
    AllDated (saveAll calls w).2.directory.records (insertions calls w known) [] := by
  induction calls generalizing w known with
  | nil => exact dated
  | cons c calls ih =>
    exact ih (List.pairwise_cons.1 order).2 undated.2 ((c.saves w).dated order undated.1 dated)

/-- Saves leave the creation times of records as they are. -/
theorem createdAt_saveAll (calls : List Saving) {w : World} {id : String} {m : Member}
    (stored : w.directory.records.lookup id = some m) :
    ∃ m', (saveAll calls w).2.directory.records.lookup id = some m' ∧
      m'.createdAt = m.createdAt := by
  induction calls generalizing w m with
  | nil => exact ⟨m, stored, rfl⟩
  | cons c calls ih =>
    obtain ⟨m', stored', same⟩ := (c.saves w).createdAt stored
    obtain ⟨m'', stored'', same'⟩ := ih stored'
    exact ⟨m'', stored'', same'.trans same⟩

/-- Of two members that bear their timestamps, the one whose creation time is no later as a text was
inserted no later. -/
theorem Dated.inserted_le {m n : Member} {i u j v : Int} (hm : Dated m i u) (hn : Dated n j v)
    (texts : m.createdAt ≤ n.createdAt) : i ≤ j := by
  rw [hm.created, hn.created] at texts
  exact (textOf_le_iff hm.datable hn.datable).1 texts

/-- A member that bears its timestamps was created no later than it was updated. -/
theorem Dated.createdAt_le {m : Member} {i u : Int} (h : Dated m i u) :
    m.createdAt ≤ m.updatedAt := by
  rw [h.created, h.updated]
  exact (textOf_le_iff h.datable h.datable').2 h.order

/-- Creation order is kept by the order of texts.  The timestamps of two clock readings are, as
texts, in the order of the readings, and they differ when the instants in microseconds do.  So
along any saves to an empty directory, where the clock does not run backward and new records bring
no creation time: every member was created no later than it was updated; its creation time stays,
whatever is saved further; and a search by role finds nobody exactly when no member has the role,
and otherwise a member with the role that was inserted no later than any other one that now has
it. -/
theorem first_with_role_is_oldest :
    (∀ (c d : Float) (q r : ℚ) (i j : Int), toRat? c = some q → toRat? d = some r → q ≤ r →
      instantOf c = .ok i → instantOf d = .ok j →
      ∃ s t, stampOf c = .ok s ∧ stampOf d = .ok t ∧ s ≤ t ∧ (i ≠ j → s < t)) ∧
    ∀ (calls : List Saving) (w : World), Orderly calls →
      Undated calls { w with directory := .empty } →
      let start := { w with directory := .empty }
      let d := (saveAll calls start).2.directory
      let inserted := insertions calls start fun _ => none
      (∀ m ∈ d.members, m.createdAt ≤ m.updatedAt) ∧
      (∀ more id m, d.findById id = some m →
        ∃ m', (saveAll (calls ++ more) start).2.directory.findById id = some m' ∧
          m'.createdAt = m.createdAt) ∧
      ∀ role,
        (d.findByRole role = none ↔ ∀ m ∈ d.members, m.role ≠ role) ∧
        ∀ m, d.findByRole role = some m → m ∈ d.members ∧ m.role = role ∧
          ∃ i, inserted m.id = some i ∧
            ∀ n ∈ d.members, n.role = role → ∃ j, inserted n.id = some j ∧ i ≤ j := by
  refine ⟨fun c d q r i j hq hr order hi hj => stampOf_mono hq hr order hi hj,
    fun calls w order undated => ?_⟩
  intro start d inserted
  have none : AllDated start.directory.records (fun _ => none) calls := by
    intro id m found
    cases found
  have dated : AllDated d.records inserted [] := dated_saveAll order undated none
  have bear (m : Member) (hm : m ∈ d.members) : ∃ i u, inserted m.id = some i ∧ Dated m i u := by
    obtain ⟨i, u, known, bears, _⟩ :=
      dated m.id m (Directory.lookup_records_eq_some_iff.2 ⟨hm, rfl⟩)
    exact ⟨i, u, known, bears⟩
  refine ⟨fun m hm => ?_, fun more id m found => ?_, fun role =>
    ⟨Directory.findByRole_eq_none_iff, fun m found => ?_⟩⟩
  · obtain ⟨i, u, _, bears⟩ := bear m hm
    exact bears.createdAt_le
  · simp only [← Directory.lookup_records, saveAll_append] at found ⊢
    exact createdAt_saveAll more found
  · obtain ⟨hm, own, least⟩ := Directory.findByRole_eq_some found
    obtain ⟨i, u, known, bears⟩ := bear m hm
    refine ⟨hm, own, i, known, fun n hn other => ?_⟩
    obtain ⟨j, v, known', bears'⟩ := bear n hn
    exact ⟨j, known', bears.inserted_le bears' (least n hn other)⟩

/-- A record without a creation time. -/
def unstamped (id role : String) : Draft :=
  ⟨some id, some id, .string role, none, true, ""⟩

/-- An administrator steps down after a member became one; a third was one from the beginning. -/
def succession : List Saving :=
  [⟨0.5, unstamped "first" "ADMIN"⟩, ⟨2, unstamped "second" "MEMBER"⟩,
    ⟨2.25, unstamped "third" "ADMIN"⟩, ⟨3, unstamped "second" "ADMIN"⟩,
    ⟨3, unstamped "first" "MEMBER"⟩]

/-- The member who became an administrator is found before the one who was inserted as one after
it. -/
theorem second_succeeds_first :
    Orderly succession ∧ Undated succession { World.start 0 with directory := .empty } ∧
      (∃ s t, stampOf 0.5 = .ok s ∧ stampOf 2 = .ok t ∧ s ≤ t ∧ s < t) ∧
      ∃ m, (saveAll succession { World.start 0 with directory := .empty }).2.directory.findByRole
          .admin = some m ∧ m.id = "second" ∧ m.createdAt ≤ m.updatedAt ∧
        ∃ i, insertions succession { World.start 0 with directory := .empty } (fun _ => none) m.id =
          some i ∧ ∀ n ∈ (saveAll succession
            { World.start 0 with directory := .empty }).2.directory.members, n.role = .admin →
              ∃ j, insertions succession { World.start 0 with directory := .empty }
                (fun _ => none) n.id = some j ∧ i ≤ j := by
  have half : toRat? 0.5 = some (1 / 2) := by decide +kernel
  have two : toRat? 2 = some 2 := by decide +kernel
  have later : toRat? 2.25 = some (9 / 4) := by decide +kernel
  have three : toRat? 3 = some 3 := by decide +kernel
  have order : Orderly succession := by
    simp only [Orderly, succession, List.pairwise_cons, List.forall_mem_cons, half, two, later,
      three, Option.some.injEq, List.not_mem_nil, false_implies, implies_true,
      List.Pairwise.nil, and_true]
    norm_num
  have undated : Undated succession { World.start 0 with directory := .empty } := by
    simp [succession, Undated, unstamped]
  have instant : instantOf 0.5 = .ok 500000 :=
    toOption_instantOf_eq_some_iff.1 (by decide +kernel)
  have instant' : instantOf 2 = .ok 2000000 :=
    toOption_instantOf_eq_some_iff.1 (by decide +kernel)
  obtain ⟨texts, runs⟩ := first_with_role_is_oldest
  obtain ⟨s, t, shown, shown', le, lt⟩ :=
    texts 0.5 2 (1 / 2) 2 500000 2000000 half two (by norm_num) instant instant'
  obtain ⟨updated, _, byRole⟩ := runs succession (World.start 0) order undated
  have found : ((saveAll succession
      { World.start 0 with directory := .empty }).2.directory.findByRole .admin).map Member.id =
        some "second" := by
    decide +kernel
  obtain ⟨m, first, named⟩ := Option.map_eq_some_iff.1 found
  obtain ⟨member, _, oldest⟩ := (byRole .admin).2 m first
  exact ⟨order, undated, ⟨s, t, shown, shown', le, lt (by decide)⟩,
    m, first, named, updated m member, oldest⟩

end Account

end Gatehouse
