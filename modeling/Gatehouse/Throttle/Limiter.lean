import Gatehouse.Failure.Basic
import Gatehouse.Keyed
import Gatehouse.Log
import Gatehouse.Throttle.Bucket

/-!
# Limiters

A limiter keeps one bucket per client key, the least recently used first.  A key
without a bucket gets a full one; where the table is at its cap, the oldest
buckets make room.  Sweeping drops the buckets that have refilled to capacity,
since such a bucket is what a new key would get.

A sweep may run between an admission's lookup and its take.  The admission then
finds its bucket evicted and looks the key up again.

Main results:

- `length_touch_le`: the table stays within the cap.
- `lookup_touch`: after a lookup the key has a bucket, the last of the table.
- `length_sweep`: a sweep keeps or removes each bucket.
-/

namespace Gatehouse.Throttle

open Keyed

/-- The buckets of all clients, the least recently used first, with their common parameters. -/
structure Limiter (α : Type) where
  capacity : α
  /-- Tokens gained per second. -/
  rate : α
  maxBuckets : Nat
  table : Keyed (Bucket α)
deriving DecidableEq, Repr

namespace Limiter

/-! ## The table -/

section Table

variable {α : Type}

/-- A limiter that no one has called. -/
def empty (capacity rate : α) (maxBuckets : Nat) : Limiter α :=
  ⟨capacity, rate, maxBuckets, []⟩

/-- The table without a key. -/
def without (table : Keyed (Bucket α)) (key : String) : Keyed (Bucket α) :=
  table.filter fun e => e.1 ≠ key

/-- Change the bucket of a key in place. -/
def update (table : Keyed (Bucket α)) (key : String) (b : Bucket α) :
    Keyed (Bucket α) :=
  table.map fun e => if e.1 = key then (key, b) else e

/-- The table after the oldest buckets made room for one more. -/
def makeRoom (l : Limiter α) : Keyed (Bucket α) :=
  l.table.drop (l.table.length + 1 - l.maxBuckets)

/-- A key that was removed is not found. -/
theorem lookup_without (t : Keyed (Bucket α)) (key : String) :
    lookup (without t key) key = none := by
  rw [lookup_eq_none_iff]
  simp [without]

/-- Dropping entries adds no key. -/
theorem lookup_drop {t : Keyed (Bucket α)} {key : String} (n : Nat)
    (h : lookup t key = none) : lookup (t.drop n) key = none := by
  rw [lookup_eq_none_iff] at h ⊢
  intro hm
  rw [List.map_drop] at hm
  exact h (List.mem_of_mem_drop hm)

/-- Making room leaves space for one more bucket. -/
theorem length_makeRoom (l : Limiter α) (h : 0 < l.maxBuckets) :
    l.makeRoom.length + 1 ≤ l.maxBuckets := by
  simp only [makeRoom, List.length_drop]
  omega

/-- Look a key up: its bucket, a full one if it has none, becomes the most recently used. -/
def touch (l : Limiter α) (key : String) (now : α) : Limiter α :=
  match lookup l.table key with
  | some b => { l with table := without l.table key ++ [(key, b)] }
  | none => { l with table := l.makeRoom ++ [(key, .full l.capacity l.rate now)] }

/-- After a lookup the key has its earlier bucket, or a full one. -/
theorem lookup_touch (l : Limiter α) (key : String) (now : α) :
    lookup (l.touch key now).table key =
      some ((lookup l.table key).getD (.full l.capacity l.rate now)) := by
  unfold touch
  split
  · next b hb =>
    simp [lookup_append_of_none (lookup_without l.table key), hb]
  · next hb =>
    simp [lookup_append_of_none (lookup_drop _ hb), hb, makeRoom]

/-- The table never outgrows its limit. -/
theorem length_touch_le (l : Limiter α) (key : String) (now : α) (h : l.table.length ≤ l.maxBuckets)
    (hm : 0 < l.maxBuckets) : (l.touch key now).table.length ≤ l.maxBuckets := by
  unfold touch
  split
  · next b hb =>
    have hlt : (without l.table key).length < l.table.length := by
      exact List.length_filter_lt_length_iff_exists.2 ⟨(key, b), mem_of_lookup hb, by simp⟩
    simp only [List.length_append, List.length_singleton]
    omega
  · simp only [List.length_append, List.length_singleton]
    exact length_makeRoom l hm

end Table

variable {α : Type} [Add α] [Sub α] [Mul α] [LT α] [DecidableLT α] [LE α] [DecidableLE α]
  [OfNat α 0] [OfNat α 1]

/-! ## Operations -/

/-- Take a token from the bucket that a key has in the table. -/
def takeFrom (l : Limiter α) (key : String) (now : α) : Bool × Limiter α :=
  match lookup l.table key with
  | some b =>
    let (admitted, b') := b.tryTake now
    (admitted, { l with table := update l.table key b' })
  | none => (false, l)

/-- Admit a call of a key if its bucket has a whole token. -/
def attempt (l : Limiter α) (key : String) (now : α) : Bool × Limiter α :=
  (l.touch key now).takeFrom key now

/-- Like an attempt, but a call that is not admitted is refused. -/
def enforce (l : Limiter α) (key : String) (now : α) : Except Cause Unit × Limiter α :=
  let (admitted, l') := l.attempt key now
  (if admitted then .ok () else .error (.clientThrottled key), l')

/-- The refilled buckets that stay below capacity. -/
def kept (l : Limiter α) (now : α) : Keyed (Bucket α) :=
  (l.table.filter fun e => !(e.2.isFull now).1).map fun e => (e.1, e.2.refill now)

/-- The refilled buckets at capacity, marked as evicted. -/
def idle (l : Limiter α) (now : α) : Keyed (Bucket α) :=
  (l.table.filter fun e => (e.2.isFull now).1).map fun e =>
    (e.1, { e.2.refill now with evicted := true })

/-- Drop the buckets that have refilled to capacity, and count them. -/
def sweep (l : Limiter α) (now : α) : Nat × Limiter α :=
  ((l.idle now).length, { l with table := l.kept now })

/-- Admit a call of a key while a sweep runs between the lookup and the take; the sweep's
count comes second.  A bucket that the sweep evicted is abandoned for a new lookup. -/
def admitRaced (l : Limiter α) (key : String) (now : α) : Bool × Nat × Limiter α :=
  let found := l.touch key now
  let (swept, after) := found.sweep now
  let held := (lookup (found.idle now) key).or (lookup after.table key)
  let (admitted, last) :=
    if held.any Bucket.evicted then after.attempt key now else after.takeFrom key now
  (admitted, swept, last)

/-- The log line of a denied call. -/
def denial (key : String) : LogLine :=
  ⟨.warning, .throttle, "Rate limit exceeded for client " ++ key⟩

omit [OfNat α 1] in
/-- The number of buckets that a sweep reports is the number that it removes. -/
theorem length_sweep (l : Limiter α) (now : α) :
    (l.sweep now).1 + (l.sweep now).2.table.length = l.table.length := by
  simp only [sweep, idle, kept, List.length_map]
  induction l.table with
  | nil => rfl
  | cons e t ih => cases h : (e.2.isFull now).1 <;> simp [h] <;> omega

end Limiter

end Gatehouse.Throttle
