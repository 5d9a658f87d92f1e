import Gatehouse.Proofs.Throttle.Refilling
import Gatehouse.Proofs.Throttle.Taking

/-!
# What calls and sweeps leave to be found

What a limiter will do for a key depends on one thing, the bucket that the key finds: its own,
refilled, or a full one if it has none.  A sweep drops only buckets that are full, so that every
key finds after it what it would have found before.  A call takes from the bucket that its key
finds, and leaves to every other key what it would have found, unless the cap takes a bucket away
that is not full.

Main results:

- `Orderly`: what calls and sweeps preserve of a table.
- `Orderly.alike_sweep`: a sweep makes no difference to any key.
- `Orderly.admitRaced_eq`: a call that races a sweep is a lookup, the sweep, and a call.
- `Orderly.serves_attempt`, `Orderly.serves_admitRaced`: what a call does, for all keys.
-/

namespace Gatehouse.Throttle.Limiter

open Keyed

/-! ## What a lookup keeps -/

section Table

variable {α : Type}

/-- The keys that have a bucket, the least recently used first. -/
def keys (l : Limiter α) : List String :=
  l.table.map Prod.fst

/-- The keys that lose their buckets to the cap when a key is looked up. -/
def displaced (l : Limiter α) (key : String) (now : α) : List String :=
  l.keys.filter fun k => k ∉ (l.touch key now).keys

/-- A lookup keeps some of the other buckets, in their order, and puts the one of its key behind
them. -/
theorem exists_touch (l : Limiter α) (key : String) (now : α) :
    ∃ rest : Keyed (Bucket α), rest.Sublist l.table ∧ key ∉ rest.map Prod.fst ∧
      l.touch key now = { l with
        table := rest ++ [(key, (lookup l.table key).getD (.full l.capacity l.rate now))] } := by
  unfold touch
  split
  · next b hb =>
    exact ⟨without l.table key, List.filter_sublist,
      lookup_eq_none_iff.1 (lookup_without l.table key), by simp [hb]⟩
  · next hb =>
    exact ⟨l.makeRoom, List.drop_sublist _ _, lookup_eq_none_iff.1 (lookup_drop _ hb), by
      simp [hb]⟩

/-- A lookup puts its key behind some of the other keys, in their order. -/
theorem exists_keys_touch (l : Limiter α) (key : String) (now : α) :
    ∃ rest : List String, rest.Sublist l.keys ∧ key ∉ rest ∧
      (l.touch key now).keys = rest ++ [key] := by
  rcases exists_touch l key now with ⟨rest, sub, fresh, touched⟩
  exact ⟨rest.map Prod.fst, sub.map Prod.fst, fresh, by simp [touched, keys]⟩

/-- A key is displaced when it has a bucket before the lookup and none after it. -/
theorem mem_displaced_iff {l : Limiter α} {key k : String} {now : α} :
    k ∈ l.displaced key now ↔ k ∈ l.keys ∧ k ∉ (l.touch key now).keys := by
  simp [displaced]

/-- A lookup displaces no key when its own has a bucket, or when there is room for one. -/
theorem displaced_eq_nil {l : Limiter α} {key : String}
    (h : key ∈ l.keys ∨ l.table.length < l.maxBuckets) (now : α) : l.displaced key now = [] := by
  simp only [displaced, List.filter_eq_nil_iff, decide_eq_true_eq, Decidable.not_not]
  intro k hk
  rcases List.mem_map.1 hk with ⟨e, he, rfl⟩
  simp only [keys, touch]
  split
  · next b hb =>
    by_cases same : e.1 = key
    · simp [same]
    · exact List.mem_map_of_mem
        (List.mem_append_left _ (List.mem_filter.2 ⟨he, by simpa using same⟩))
  · next hb =>
    have room : l.table.length + 1 - l.maxBuckets = 0 := by
      rcases h with mem | room
      · exact absurd mem (lookup_eq_none_iff.1 hb)
      · omega
    rw [makeRoom, room, List.drop_zero]
    exact List.mem_map_of_mem (List.mem_append_left _ he)

/-- A key that is not displaced finds after a lookup of another key the bucket that it had. -/
theorem lookup_touch_of_not_displaced {l : Limiter α} (once : l.keys.Nodup) {key k : String}
    {now : α} (other : k ≠ key) (stays : k ∉ l.displaced key now) :
    lookup (l.touch key now).table k = lookup l.table k := by
  have stays : k ∈ l.keys → k ∈ (l.touch key now).keys := by simpa [mem_displaced_iff] using stays
  rcases exists_touch l key now with ⟨rest, sub, _, touched⟩
  have inRest : k ∈ (l.touch key now).keys → k ∈ rest.map Prod.fst := by
    simp [touched, keys, other]
  have last : lookup (l.touch key now).table k = lookup rest k := by
    simp [touched, lookup_append, lookup, Ne.symm other]
  by_cases mem : k ∈ l.keys
  · exact last.trans (lookup_of_sublist once sub (inRest (stays mem)))
  · have gone : k ∉ rest.map Prod.fst := fun hk => mem ((sub.map Prod.fst).subset hk)
    rw [last, lookup_eq_none_iff.2 mem, lookup_eq_none_iff.2 gone]

/-- A lookup of the most recently used key changes nothing. -/
theorem touch_of_last {l : Limiter α} {key : String} {rest : Keyed (Bucket α)} {b : Bucket α}
    (table : l.table = rest ++ [(key, b)]) (fresh : key ∉ rest.map Prod.fst) (now : α) :
    l.touch key now = l := by
  have found : lookup l.table key = some b := by
    rw [table, lookup_append_of_none (lookup_eq_none_iff.2 fresh)]
  have others : without rest key = rest := List.filter_eq_self.2 fun e he =>
    decide_eq_true fun same : e.1 = key => fresh (same ▸ List.mem_map_of_mem he)
  have same : without l.table key ++ [(key, b)] = l.table := by
    rw [table, without, List.filter_append, ← without, others]
    simp
  simp only [touch, found, same]

/-- What is found after the bucket of a key was changed. -/
theorem lookup_update (t : Keyed (Bucket α)) (key : String) (new : Bucket α) (k : String) :
    lookup (update t key new) k = (lookup t k).map fun b => if k = key then new else b := by
  have asMap : update t key new = t.map fun e => (e.1, if e.1 = key then new else e.2) := by
    refine List.map_congr_left fun e _ => ?_
    split
    · next same => rw [same]
    · rfl
  rw [asMap, lookup_map fun k b => if k = key then new else b]

/-- Changing the bucket of a key changes no key. -/
theorem keys_update (t : Keyed (Bucket α)) (key : String) (new : Bucket α) :
    (update t key new).map Prod.fst = t.map Prod.fst := by
  rw [update, List.map_map]
  refine List.map_congr_left fun e _ => ?_
  simp only [Function.comp]
  split
  · next same => exact same.symm
  · rfl

end Table

section Steps

variable {α : Type} [Add α] [Sub α] [Mul α] [LT α] [DecidableLT α] [LE α] [DecidableLE α]
  [OfNat α 0] {l : Limiter α} {now : α}

/-- An attempt leaves the keys as its lookup does. -/
theorem keys_attempt [OfNat α 1] (l : Limiter α) (key : String) (now : α) :
    (l.attempt key now).2.keys = (l.touch key now).keys := by
  unfold attempt takeFrom
  split
  · exact keys_update _ _ _
  · rfl

/-- What is taken, is taken from the bucket that is found. -/
theorem takeFrom_of_lookup [OfNat α 1] {key : String} {b : Bucket α}
    (found : lookup l.table key = some b) :
    l.takeFrom key now =
      ((b.tryTake now).1, { l with table := update l.table key (b.tryTake now).2 }) := by
  rw [takeFrom, found]

/-- The keys that a sweep keeps are some of those that there were, in their order. -/
theorem keys_kept_sublist (l : Limiter α) (now : α) :
    ((l.kept now).map Prod.fst).Sublist l.keys := by
  rw [kept, List.map_map]
  exact List.filter_sublist.map Prod.fst

/-- What a sweep keeps of a key: its bucket, refilled, if it is not full. -/
theorem lookup_kept (once : l.keys.Nodup) (now : α) (k : String) :
    lookup (l.kept now) k =
      ((lookup l.table k).filter fun b => !(b.isFull now).1).map fun b => b.refill now := by
  rw [kept, lookup_map fun (_ : String) (b : Bucket α) => b.refill now, lookup_filter once]

/-- What a sweep drops of a key: its bucket, refilled and marked, if it is full. -/
theorem lookup_idle (once : l.keys.Nodup) (now : α) (k : String) :
    lookup (l.idle now) k = ((lookup l.table k).filter fun b => (b.isFull now).1).map fun b =>
      { b.refill now with evicted := true } := by
  have mapped := lookup_map fun (_ : String) (b : Bucket α) =>
    ({ b.refill now with evicted := true } : Bucket α)
  rw [idle, mapped, lookup_filter once]

/-- A sweep that leaves a bucket that was just looked up leaves it in the last place, where
looking it up again changes nothing. -/
theorem touch_sweep_touch {key : String} {b : Bucket α}
    (found : lookup (l.touch key now).table key = some b) (short : (b.isFull now).1 = false) :
    ((l.touch key now).sweep now).2.touch key now = ((l.touch key now).sweep now).2 := by
  rcases exists_touch l key now with ⟨rest, _, fresh, touched⟩
  have same : (lookup l.table key).getD (.full l.capacity l.rate now) = b := by
    rw [lookup_touch] at found
    exact Option.some.inj found
  rw [same] at touched
  have last : ((l.touch key now).sweep now).2.table =
      { l with table := rest }.kept now ++ [(key, b.refill now)] := by
    simp [touched, Limiter.sweep, kept, List.filter_append, short]
  exact touch_of_last last
    (fun swept => fresh ((keys_kept_sublist { l with table := rest } now).subset swept)) now

end Steps

/-! ## Tables in order -/

/-- A limiter as calls and sweeps keep it: no key has two buckets, there are no more of them than
may be, and each is one that is kept. -/
structure Orderly (l : Limiter Rat) (a : ExactAllowance) (now : Rat) : Prop where
  capacity : l.capacity = a.capacity
  rate : l.rate = a.rate
  maxBuckets : l.maxBuckets = a.maxBuckets
  once : l.keys.Nodup
  kept : ∀ e ∈ l.table, e.2.Kept a now
  length_le : l.table.length ≤ a.maxBuckets

/-- Before anyone called everything is in order. -/
theorem orderly_limiter (a : ExactAllowance) (now : Rat) : Orderly a.limiter a now :=
  ⟨rfl, rfl, rfl, List.nodup_nil, by simp [ExactAllowance.limiter, empty], Nat.zero_le _⟩

/-- Two limiters look alike to a key, from a time on: it finds the same bucket in both. -/
def Alike (k : String) (now : Rat) (l l' : Limiter Rat) : Prop :=
  ∀ later, now ≤ later → l'.found k later = l.found k later

/-- What looks alike to what looks alike, looks alike. -/
theorem Alike.trans {k : String} {now : Rat} {l l' l'' : Limiter Rat} (h : Alike k now l l')
    (h' : Alike k now l' l'') : Alike k now l l'' :=
  fun later hl => (h' later hl).trans (h later hl)

namespace Orderly

variable {l : Limiter Rat} {a : ExactAllowance} {now later : Rat}

/-- What is in order stays so as time passes. -/
theorem mono (h : Orderly l a now) (hl : now ≤ later) : Orderly l a later :=
  { h with kept := fun e he => (h.kept e he).mono hl }

/-- A new bucket has the capacity and the rate of the allowance. -/
theorem full_eq (h : Orderly l a now) : Bucket.full l.capacity l.rate now = a.bucket now := by
  rw [h.capacity, h.rate, ExactAllowance.bucket]

/-- The bucket that a key has, or would get, is one that is kept. -/
theorem kept_getD (h : Orderly l a now) (key : String) :
    ((lookup l.table key).getD (a.bucket now)).Kept a now := by
  cases found : lookup l.table key with
  | none => exact Bucket.kept_bucket a now
  | some b => exact h.kept _ (mem_of_lookup found)

/-- What a key finds. -/
theorem found_eq (h : Orderly l a now) (key : String) :
    l.found key now = ((lookup l.table key).getD (a.bucket now)).refill now := by
  rw [found, h.full_eq]

/-- What a key finds is a bucket that is kept. -/
theorem kept_found (h : Orderly l a now) (key : String) : (l.found key now).Kept a now := by
  rw [h.found_eq]
  exact (h.kept_getD key).refill

/-- A key without a bucket finds a full one. -/
theorem found_of_none (h : Orderly l a now) {key : String} (none : lookup l.table key = none) :
    l.found key now = a.bucket now := by
  rw [h.found_eq, none]
  exact Bucket.refill_bucket a le_rfl

/-- What a key finds later is what it finds now, refilled. -/
theorem refill_found (h : Orderly l a now) (key : String) (hl : now ≤ later) :
    (l.found key now).refill later = l.found key later := by
  cases found : lookup l.table key with
  | none =>
    rw [h.found_of_none found, (h.mono hl).found_of_none found, Bucket.refill_bucket a hl]
  | some b =>
    rw [h.found_eq, (h.mono hl).found_eq, found]
    exact (h.kept _ (mem_of_lookup found)).refill_refill hl

/-- A key for which nothing is looked up differently finds the same. -/
theorem alike_of_lookup_eq {l' : Limiter Rat} (h : Orderly l a now) (h' : Orderly l' a now)
    {k : String} (same : lookup l'.table k = lookup l.table k) : Alike k now l l' :=
  fun later hl => by rw [(h.mono hl).found_eq, (h'.mono hl).found_eq, same]

/-! ### Looking a key up -/

/-- A lookup keeps the table in order. -/
theorem touch (h : Orderly l a now) (key : String) : Orderly (l.touch key now) a now := by
  have length_le : (l.touch key now).table.length ≤ l.maxBuckets :=
    length_touch_le l key now (h.maxBuckets ▸ h.length_le) (h.maxBuckets ▸ a.maxBuckets_pos)
  rcases exists_touch l key now with ⟨rest, sub, fresh, touched⟩
  rw [h.maxBuckets, touched] at length_le
  rw [touched, h.full_eq]
  refine ⟨h.capacity, h.rate, h.maxBuckets, ?_, ?_, by simpa using length_le⟩
  · have once : (rest.map Prod.fst).Nodup := h.once.sublist (sub.map Prod.fst)
    simpa [keys, List.nodup_append, once] using fun k b hb (same : k = key) =>
      fresh (same ▸ List.mem_map_of_mem (f := Prod.fst) hb)
  · intro e he
    rcases List.mem_append.1 he with old | new
    · exact h.kept e (sub.subset old)
    · rw [List.mem_singleton.1 new]
      exact h.kept_getD key

/-- A lookup makes no difference to its key. -/
theorem alike_touch_self (h : Orderly l a now) (key : String) :
    Alike key now l (l.touch key now) := by
  intro later hl
  rw [((h.touch key).mono hl).found_eq, lookup_touch, h.full_eq, Option.getD_some]
  rw [← h.refill_found key hl, h.found_eq, (h.kept_getD key).refill_refill hl]

/-- A lookup makes no difference to any other key either, unless the cap takes a bucket away that
is not full. -/
theorem alike_touch (h : Orderly l a now) {key k : String} (other : k ≠ key)
    (full : k ∈ l.displaced key now → l.found k now = a.bucket now) :
    Alike k now l (l.touch key now) := by
  by_cases gone : k ∈ l.displaced key now
  · have none : lookup (l.touch key now).table k = none :=
      lookup_eq_none_iff.2 (mem_displaced_iff.1 gone).2
    intro later hl
    rw [((h.touch key).mono hl).found_of_none none, ← h.refill_found k hl, full gone,
      Bucket.refill_bucket a hl]
  · exact h.alike_of_lookup_eq (h.touch key) (lookup_touch_of_not_displaced h.once other gone)

/-! ### Sweeping -/

/-- A sweep keeps the table in order. -/
theorem sweep (h : Orderly l a now) : Orderly (l.sweep now).2 a now := by
  refine ⟨h.capacity, h.rate, h.maxBuckets, h.once.sublist (keys_kept_sublist l now), ?_, ?_⟩
  · intro e he
    rcases List.mem_map.1 he with ⟨e', he', rfl⟩
    exact (h.kept e' (List.mem_filter.1 he').1).refill
  · have counted := length_sweep l now
    exact (by omega : (l.sweep now).2.table.length ≤ l.table.length).trans h.length_le

/-- A sweep drops the bucket of a key if it is full, and refills it if not. -/
theorem lookup_sweep (h : Orderly l a now) {k : String} {b : Bucket Rat}
    (found : lookup l.table k = some b) :
    lookup (l.sweep now).2.table k =
      if (b.isFull now).1 = true then none else some (b.refill now) := by
  have swept : lookup (l.sweep now).2.table k = _ := lookup_kept h.once now k
  rw [swept, found]
  cases full : (b.isFull now).1 <;> simp [Option.filter, full]

/-- A sweep makes no difference to any key: what it drops is what a new key would get. -/
theorem alike_sweep (h : Orderly l a now) (k : String) : Alike k now l (l.sweep now).2 := by
  intro later hl
  rw [← h.refill_found k hl, ← h.sweep.refill_found k hl]
  congr 1
  cases found : lookup l.table k with
  | none =>
    have none : lookup (l.sweep now).2.table k = none :=
      (lookup_kept h.once now k).trans (by rw [found]; rfl)
    rw [h.found_of_none found, h.sweep.found_of_none none]
  | some b =>
    have kept := h.kept _ (mem_of_lookup found)
    have swept := h.lookup_sweep found
    cases full : (b.isFull now).1 with
    | true =>
      rw [full, if_pos rfl] at swept
      rw [h.sweep.found_of_none swept, h.found_eq, found]
      exact (kept.refill_eq_full_iff.2 full).symm
    | false =>
      rw [full, if_neg Bool.false_ne_true] at swept
      rw [h.sweep.found_eq, h.found_eq, swept, found]
      exact kept.refill_refill le_rfl

/-! ### Calls -/

end Orderly

/-- A call of a key is served: it is admitted exactly when the bucket that its key finds holds a
whole token, it leaves to its key what it did not take, and it makes no difference to any other
key, unless the cap takes a bucket away that is not full. -/
structure Serves (a : ExactAllowance) (now : Rat) (key : String) (l : Limiter Rat)
    (r : Bool × Limiter Rat) : Prop where
  orderly : Orderly r.2 a now
  decision : r.1 = ((l.found key now).tryTake now).1
  own : ∀ later, now ≤ later →
    r.2.found key later = ((l.found key now).tryTake now).2.refill later
  others : ∀ k, k ≠ key → (k ∈ l.displaced key now → l.found k now = a.bucket now) →
    Alike k now l r.2

namespace Orderly

variable {l : Limiter Rat} {a : ExactAllowance} {now : Rat}

/-- Taking from the bucket of a key keeps the table in order. -/
theorem takeFrom (h : Orderly l a now) (key : String) : Orderly (l.takeFrom key now).2 a now := by
  unfold Limiter.takeFrom
  split
  · next b found =>
    have kept := (h.kept _ (mem_of_lookup found)).tryTake
    refine ⟨h.capacity, h.rate, h.maxBuckets, ?_, ?_, by simpa [update] using h.length_le⟩
    · simpa [keys, keys_update] using h.once
    · intro e he
      rcases mem_update_iff.1 he with ⟨_, old⟩ | ⟨_, new, _⟩
      · exact h.kept e old
      · exact new ▸ kept
  · exact h

/-- Taking from the bucket that a key has serves the key. -/
theorem serves_takeFrom (h : Orderly l a now) {key : String} (has : key ∈ l.keys) :
    Serves a now key l (l.takeFrom key now) := by
  rcases exists_lookup_iff.2 has with ⟨b, found⟩
  have kept := h.kept _ (mem_of_lookup found)
  have same : (l.found key now).tryTake now = b.tryTake now := by
    rw [h.found_eq, found]
    exact kept.tryTake_refill le_rfl
  have orderly := h.takeFrom key
  rw [takeFrom_of_lookup found] at orderly ⊢
  refine ⟨orderly, by rw [same], ?_, ?_⟩
  · intro later hl
    rw [(orderly.mono hl).found_eq, same]
    simp [lookup_update, found]
  · intro k other _
    refine h.alike_of_lookup_eq orderly ?_
    simp [lookup_update, other]

/-- A call is served after a lookup of its key, or a sweep, as it is without. -/
theorem serves_of_alike {l' : Limiter Rat} {key : String} {r : Bool × Limiter Rat}
    (own : Alike key now l l')
    (others : ∀ k, k ≠ key → (k ∈ l.displaced key now → l.found k now = a.bucket now) →
      Alike k now l l')
    (none : l'.displaced key now = []) (served : Serves a now key l' r) :
    Serves a now key l r := by
  have same := own now le_rfl
  refine ⟨served.orderly, same ▸ served.decision, same ▸ served.own, ?_⟩
  intro k other full
  exact (others k other full).trans (served.others k other (by simp [none]))

/-- An attempt serves its key. -/
theorem serves_attempt (h : Orderly l a now) (key : String) :
    Serves a now key l (l.attempt key now) := by
  have has : key ∈ (l.touch key now).keys := key_mem_touch l key now
  refine serves_of_alike ?_ ?_ (displaced_eq_nil (.inl has) now) ((h.touch key).serves_takeFrom has)
  · exact h.alike_touch_self key
  · exact fun k other full => h.alike_touch other full

/-! ### Calls that race a sweep -/

/-- A call that races a sweep is a lookup, the sweep, and a call: where the sweep leaves the
bucket that was looked up, a new lookup finds it in the last place. -/
theorem admitRaced_eq (h : Orderly l a now) (key : String) :
    l.admitRaced key now =
      ((((l.touch key now).sweep now).2.attempt key now).1, ((l.touch key now).sweep now).1,
        (((l.touch key now).sweep now).2.attempt key now).2) := by
  have orderly := h.touch key
  have found := lookup_touch l key now
  rw [h.full_eq] at found
  have kept := h.kept_getD key
  generalize (lookup l.table key).getD (a.bucket now) = b at found kept
  have dropped := lookup_idle orderly.once now key
  have stays : lookup ((l.touch key now).sweep now).2.table key = _ :=
    lookup_kept orderly.once now key
  rw [found] at dropped stays
  cases full : (b.isFull now).1 with
  | true => simp [admitRaced, dropped, full, Option.filter]
  | false =>
    -- the sweep leaves the bucket that was looked up
    have present : (b.refill now).evicted = false := kept.refill.present
    simp [admitRaced, dropped, stays, full, present, Option.filter, attempt,
      touch_sweep_touch found full]

/-- After a sweep that comes between, a second lookup displaces no key: if the sweep dropped the
bucket, it left room for a new one. -/
theorem displaced_swept (h : Orderly l a now) (key : String) :
    ((l.touch key now).sweep now).2.displaced key now = [] := by
  have orderly := h.touch key
  have sub : ((l.touch key now).sweep now).2.keys.Sublist (l.touch key now).keys :=
    keys_kept_sublist _ now
  by_cases stays : key ∈ ((l.touch key now).sweep now).2.keys
  · exact displaced_eq_nil (.inl stays) now
  · have fewer : ((l.touch key now).sweep now).2.keys.length < (l.touch key now).keys.length := by
      refine lt_of_le_of_ne sub.length_le fun same => stays ?_
      rw [sub.eq_of_length same]
      exact key_mem_touch l key now
    simp only [keys, List.length_map] at fewer
    exact displaced_eq_nil
      (.inr (by rw [orderly.sweep.maxBuckets]; exact fewer.trans_le orderly.length_le)) now

/-- A call that races a sweep serves its key as any other call does. -/
theorem serves_admitRaced (h : Orderly l a now) (key : String) :
    Serves a now key l ((l.admitRaced key now).1, (l.admitRaced key now).2.2) := by
  rw [h.admitRaced_eq]
  have orderly := h.touch key
  refine serves_of_alike ?_ ?_ (h.displaced_swept key) (orderly.sweep.serves_attempt key)
  · exact (h.alike_touch_self key).trans (orderly.alike_sweep key)
  · exact fun k other full => (h.alike_touch other full).trans (orderly.alike_sweep k)

end Orderly

end Gatehouse.Throttle.Limiter
