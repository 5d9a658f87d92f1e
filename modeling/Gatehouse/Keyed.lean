/-!
# Values by name

Lists of named values, as they occur in JSON objects, in tables of clients and in
environments.  A value is looked up under the first occurrence of its name.

Main results:

- `lookup_put`: looking up a name after storing it gives the stored value.
- `lookup_put_ne`: storing a name leaves the other names as they were.
- `lookup_eq_none_iff`: nothing is found exactly under the names that do not occur.
- `lookup_append`: earlier entries hide later ones.
- `lookup_eq_some_iff`: where no name occurs twice, what is found are the entries.
-/

namespace Gatehouse

/-- Values with their names. -/
abbrev Keyed (α : Type) := List (String × α)

namespace Keyed

variable {α : Type}

/-- The value stored under a name. -/
def lookup (entries : Keyed α) (name : String) : Option α :=
  match entries with
  | [] => none
  | (k, v) :: rest => if k = name then some v else lookup rest name

/-- Store a value under a name, in the name's first position. -/
def put (entries : Keyed α) (name : String) (value : α) : Keyed α :=
  match entries with
  | [] => [(name, value)]
  | (k, v) :: rest => if k = name then (k, value) :: rest else (k, v) :: put rest name value

/-- The entries stored one after another, each over the earlier ones of its name. -/
def putAll (entries more : Keyed α) : Keyed α :=
  more.foldl (fun kept e => put kept e.1 e.2) entries

/-- What was put under a name is found under it. -/
@[simp]
theorem lookup_put (entries : Keyed α) (name : String) (value : α) :
    lookup (put entries name value) name = some value := by
  induction entries with
  | nil => simp [put, lookup]
  | cons kv rest ih => by_cases h : kv.1 = name <;> simp [put, lookup, h, ih]

/-- Putting a value leaves every other name as it was. -/
theorem lookup_put_ne (entries : Keyed α) {name other : String} (value : α)
    (h : other ≠ name) : lookup (put entries name value) other = lookup entries other := by
  induction entries with
  | nil => simp [put, lookup, Ne.symm h]
  | cons kv rest ih =>
    by_cases hk : kv.1 = name
    · have : kv.1 ≠ other := fun e => h (e.symm.trans hk)
      simp [put, lookup, hk, Ne.symm h]
    · by_cases ho : kv.1 = other
      · subst ho
        simp [put, lookup, hk]
      · simp [put, lookup, hk, ho, ih]

/-- Nothing is found exactly under the names that do not occur. -/
theorem lookup_eq_none_iff {entries : Keyed α} {name : String} :
    lookup entries name = none ↔ name ∉ entries.map Prod.fst := by
  induction entries with
  | nil => simp [lookup]
  | cons e rest ih =>
    by_cases hk : e.1 = name
    · simp [lookup, hk]
    · have : name ≠ e.1 := fun h => hk h.symm
      simp [lookup, hk, ih, this]

/-- A name is looked up among the first entries, and among the others if it is not there. -/
theorem lookup_append (entries more : Keyed α) (name : String) :
    lookup (entries ++ more) name = (lookup entries name).or (lookup more name) := by
  induction entries with
  | nil => rfl
  | cons e rest ih => by_cases hk : e.1 = name <;> simp [lookup, hk, ih]

/-- An entry at the end is found if no earlier one has its name. -/
theorem lookup_append_of_none {entries : Keyed α} {name : String}
    (h : lookup entries name = none) (value : α) :
    lookup (entries ++ [(name, value)]) name = some value := by
  simp [lookup_append, h, lookup]

/-- Values that are changed are found changed. -/
theorem lookup_map {β : Type} (f : String → α → β) (entries : Keyed α) (name : String) :
    lookup (entries.map fun e => (e.1, f e.1 e.2)) name = (lookup entries name).map (f name) := by
  induction entries with
  | nil => rfl
  | cons e rest ih =>
    by_cases hk : e.1 = name
    · subst hk
      simp [lookup]
    · simp [lookup, hk, ih]

/-- What is found is an entry. -/
theorem mem_of_lookup {entries : Keyed α} {name : String} {value : α}
    (h : lookup entries name = some value) : (name, value) ∈ entries := by
  induction entries with
  | nil => cases h
  | cons e rest ih =>
    by_cases hk : e.1 = name
    · subst hk
      simp only [lookup, if_true, Option.some.injEq] at h
      subst h
      exact List.mem_cons_self
    · simp only [lookup, hk, if_false] at h
      exact List.mem_cons_of_mem _ (ih h)

/-- Something is found exactly under the names that occur. -/
theorem exists_lookup_iff {entries : Keyed α} {name : String} :
    (∃ value, lookup entries name = some value) ↔ name ∈ entries.map Prod.fst := by
  rw [← Option.ne_none_iff_exists', ne_eq, lookup_eq_none_iff, Decidable.not_not]

/-- Where no name occurs twice, what is found are the entries. -/
theorem lookup_eq_some_iff {entries : Keyed α} (once : (entries.map Prod.fst).Nodup)
    {name : String} {value : α} :
    lookup entries name = some value ↔ (name, value) ∈ entries := by
  refine ⟨mem_of_lookup, fun given => ?_⟩
  induction entries with
  | nil => cases given
  | cons e rest ih =>
    simp only [List.map_cons, List.nodup_cons] at once
    rcases List.mem_cons.1 given with rfl | inRest
    · simp [lookup]
    · have hk : e.1 ≠ name := fun hk =>
        once.1 (hk ▸ List.mem_map_of_mem (f := Prod.fst) inRest)
      simp [lookup, hk, ih once.2 inRest]

/-- Where no name occurs twice, it makes no difference whether entries are picked before or after
a name is looked up. -/
theorem lookup_filter {entries : Keyed α} (once : (entries.map Prod.fst).Nodup)
    (p : String × α → Bool) (name : String) :
    lookup (entries.filter p) name = (lookup entries name).filter fun v => p (name, v) := by
  induction entries with
  | nil => rfl
  | cons e rest ih =>
    simp only [List.map_cons, List.nodup_cons] at once
    have inRest := ih once.2
    by_cases hk : e.1 = name
    · subst hk
      rw [lookup_eq_none_iff.2 once.1] at inRest
      cases hp : p e <;> simp [lookup, hp, inRest, Option.filter]
    · cases hp : p e <;> simp [lookup, hp, hk, inRest]

/-- Where no name occurs twice, an entry that is among some of the entries, in their order, is
found there as it is among them all. -/
theorem lookup_of_sublist {entries more : Keyed α} (once : (entries.map Prod.fst).Nodup)
    (sub : more.Sublist entries) {name : String} (h : name ∈ more.map Prod.fst) :
    lookup more name = lookup entries name := by
  rcases exists_lookup_iff.2 h with ⟨value, found⟩
  rw [found, (lookup_eq_some_iff once).2 (sub.subset (mem_of_lookup found))]

end Keyed

end Gatehouse
