import Gatehouse.Proofs.Throttle.Calls

/-!
# Calls that race a sweep

A sweep that runs between the lookup and the take of a call might as well have run after the
call.  Both ways the sweep leaves of the other buckets the same ones.  The bucket of the call is
the last of the table, and if it is not full, the sweep only refills it.  If it is full, the sweep
drops it, and the call finds in its place a new one, which is the same; but the sweep counts a
bucket that it would have spared after the call, when a token is missing from it.

Main results:

- `sweep_of_last`: what a sweep does to the last bucket of a table.
- `Orderly.attempt_sweep_eq`, `Orderly.admitRaced_eq_concat`: what is left, and counted.
- `Orderly.exists_takesFromTable`: a call takes from a bucket that is in the table.
- `raced_sweep_as_after_call`: the decision, the table and the count, in any table in use.
-/

namespace Gatehouse.Throttle

/-- A bucket that is not smaller than a token is not full when a call has just asked it for one. -/
theorem Bucket.Kept.isFull_tryTake {b : Bucket Rat} {a : ExactAllowance} {now : Rat}
    (h : b.Kept a now) (whole : 1 ≤ a.capacity) : ((b.tryTake now).2.isFull now).1 = false := by
  have capacity : (b.tryTake now).2.capacity = a.capacity := h.tryTake.capacity
  simp only [isFull, h.refill_tryTake, decide_eq_false_iff_not, not_le, capacity]
  by_cases token : 1 ≤ (b.refill now).tokens
  · rw [tryTake_admitted token]
    exact (sub_lt_self _ zero_lt_one).trans_le h.refill.le_capacity
  · rw [tryTake_denied token]
    exact (not_le.1 token).trans_le whole

/-- A client finds a full bucket if it has none, or if the one that it has is full. -/
theorem isFull_getD_bucket_iff (a : ExactAllowance) (now : Rat) {b? : Option (Bucket Rat)} :
    ((b?.getD (a.bucket now)).isFull now).1 = true ↔ ∀ b ∈ b?, (b.isFull now).1 = true := by
  cases b? with
  | none =>
    simpa using (Bucket.kept_bucket a now).refill_eq_full_iff.1 (Bucket.refill_bucket a le_rfl)
  | some b => simp

namespace Limiter

open Keyed

variable {l : Limiter Rat} {a : ExactAllowance} {key : String} {now : Rat}
  {rest : Keyed (Bucket Rat)} {b : Bucket Rat}

/-! ## The last bucket of a table -/

/-- Changing the bucket of the last key leaves the others. -/
theorem update_concat (fresh : key ∉ rest.map Prod.fst) (b new : Bucket Rat) :
    update (rest ++ [(key, b)]) key new = rest ++ [(key, new)] := by
  have others : update rest key new = rest := by
    refine (List.map_congr_left fun e he => ?_).trans (List.map_id rest)
    exact if_neg fun same : e.1 = key => fresh (same ▸ List.mem_map_of_mem he)
  rw [update, List.map_append, ← update, others]
  simp

/-- What is taken from the last bucket of a table. -/
theorem takeFrom_of_last (table : l.table = rest ++ [(key, b)]) (fresh : key ∉ rest.map Prod.fst)
    (now : Rat) :
    l.takeFrom key now =
      ((b.tryTake now).1, { l with table := rest ++ [(key, (b.tryTake now).2)] }) := by
  have found : lookup l.table key = some b := by
    rw [table, lookup_append_of_none (lookup_eq_none_iff.2 fresh)]
  rw [takeFrom_of_lookup found, table, update_concat fresh]

/-- A sweep drops and counts the last bucket of a table if it is full, and refills it if not. -/
theorem sweep_of_last (table : l.table = rest ++ [(key, b)]) (now : Rat) :
    l.sweep now =
      if (b.isFull now).1 = true then
        (({ l with table := rest }.sweep now).1 + 1, ({ l with table := rest }.sweep now).2)
      else
        (({ l with table := rest }.sweep now).1,
          { l with table := { l with table := rest }.kept now ++ [(key, b.refill now)] }) := by
  cases full : (b.isFull now).1 <;>
    simp [sweep, idle, kept, table, List.filter_append, full]

/-- A key that has no bucket has none after a sweep. -/
theorem not_mem_keys_kept (l : Limiter Rat) (fresh : key ∉ rest.map Prod.fst) (now : Rat) :
    key ∉ ({ l with table := rest }.kept now).map Prod.fst :=
  fun has => fresh ((keys_kept_sublist { l with table := rest } now).subset has)

/-- Where there is room, a new key gets its bucket behind all others. -/
theorem touch_of_room (new : key ∉ l.keys) (room : l.table.length < l.maxBuckets) :
    l.touch key now =
      { l with table := l.table ++ [(key, .full l.capacity l.rate now)] } := by
  have all : l.makeRoom = l.table := by
    rw [makeRoom, Nat.sub_eq_zero_of_le room, List.drop_zero]
  rw [touch, lookup_eq_none_iff.2 new, all]

/-- What a sweep leaves that comes right after a lookup. -/
def swept (l : Limiter Rat) (key : String) (now : Rat) : Limiter Rat :=
  ((l.touch key now).sweep now).2

namespace Orderly

/-- The bucket that a lookup puts last is one that is kept. -/
theorem kept_last (h : Orderly l a now)
    (touched : l.touch key now = { l with table := rest ++ [(key, b)] }) : b.Kept a now :=
  (h.touch key).kept (key, b) (by simp [touched])

/-! ## The two orders -/

/-- A call, and then a sweep: what the call leaves of its bucket is not full, and it stays. -/
theorem attempt_sweep_eq (h : Orderly l a now) (whole : 1 ≤ a.capacity)
    (fresh : key ∉ rest.map Prod.fst)
    (touched : l.touch key now = { l with table := rest ++ [(key, b)] }) :
    (l.attempt key now).1 = (b.tryTake now).1 ∧
      (l.attempt key now).2.sweep now =
        (({ l with table := rest }.sweep now).1,
          { l with table := { l with table := rest }.kept now ++ [(key, (b.tryTake now).2)] }) := by
  have bucket : b.Kept a now := h.kept_last touched
  have taken := takeFrom_of_last (l := { l with table := rest ++ [(key, b)] }) rfl fresh now
  rw [attempt, touched, taken]
  refine ⟨rfl, ?_⟩
  rw [sweep_of_last rfl, bucket.isFull_tryTake whole, bucket.refill_tryTake]
  rfl

/-- A lookup, a sweep, and another lookup: the bucket that was looked up is the last of the table
again, or there is a new one in its place. -/
theorem touch_swept_eq (h : Orderly l a now) (fresh : key ∉ rest.map Prod.fst)
    (touched : l.touch key now = { l with table := rest ++ [(key, b)] }) :
    (l.swept key now).touch key now =
      { l with table := { l with table := rest }.kept now ++ [(key, b.refill now)] } := by
  have bucket : b.Kept a now := h.kept_last touched
  have length_le := (h.touch key).length_le
  have others := not_mem_keys_kept l fresh now
  rw [touched] at length_le
  rw [swept, touched, sweep_of_last rfl]
  cases full : (b.isFull now).1 with
  | true =>
    have fewer := length_sweep { l with table := rest } now
    have room : ({ l with table := rest }.kept now).length < l.maxBuckets := by
      have cap := h.maxBuckets
      simp only [List.length_append, List.length_singleton, Limiter.sweep] at length_le fewer
      omega
    have new : b.refill now = a.bucket now := bucket.refill_eq_full_iff.2 full
    rw [if_pos rfl, touch_of_room others room, new, ← h.full_eq]
    rfl
  | false => exact touch_of_last rfl others now

/-- A call with a sweep in between: it leaves what a call and then a sweep leave, and counts the
bucket of the call if this was full. -/
theorem admitRaced_eq_concat (h : Orderly l a now) (fresh : key ∉ rest.map Prod.fst)
    (touched : l.touch key now = { l with table := rest ++ [(key, b)] }) :
    l.admitRaced key now =
      ((b.tryTake now).1,
        ({ l with table := rest }.sweep now).1 + (if (b.isFull now).1 = true then 1 else 0),
        { l with table := { l with table := rest }.kept now ++ [(key, (b.tryTake now).2)] }) := by
  have bucket : b.Kept a now := h.kept_last touched
  have others := not_mem_keys_kept l fresh now
  have counted : ((l.touch key now).sweep now).1 =
      ({ l with table := rest }.sweep now).1 + if (b.isFull now).1 = true then 1 else 0 := by
    rw [touched, sweep_of_last rfl]
    split <;> rfl
  have taken := takeFrom_of_last
    (l := { l with table := { l with table := rest }.kept now ++ [(key, b.refill now)] })
    rfl others now
  rw [bucket.tryTake_refill le_rfl] at taken
  have again : ((l.touch key now).sweep now).2.touch key now = _ := h.touch_swept_eq fresh touched
  rw [h.admitRaced_eq, attempt, again, taken, counted]

end Orderly

/-! ## Where the token is taken -/

/-- The bucket that a call holds when it has looked its key up and a sweep came after that. -/
def held? (l : Limiter Rat) (key : String) (now : Rat) : Option (Bucket Rat) :=
  (lookup ((l.touch key now).idle now) key).or (lookup (l.swept key now).table key)

/-- A call that races a sweep takes nothing from a bucket that has left the table.  The bucket
that it holds is marked exactly if the sweep has dropped it, and then the call looks its key up
again.  The bucket that it asks for a token in the end is the one that its key has in the table,
and what is taken from it is taken there. -/
structure TakesFromTable (l : Limiter Rat) (key : String) (now : Rat) (held asked : Bucket Rat)
    (live : Limiter Rat) : Prop where
  holds : l.held? key now = some held
  evicted_iff : held.evicted = true ↔ key ∉ (l.swept key now).keys
  live_eq : live = if held.evicted = true then (l.swept key now).touch key now else l.swept key now
  asked_eq : held.evicted = false → asked = held
  present : asked.evicted = false
  found : lookup live.table key = some asked
  decision : (l.admitRaced key now).1 = (asked.tryTake now).1
  taken : (l.admitRaced key now).2.2 =
    { live with table := update live.table key (asked.tryTake now).2 }

/-- A call that races a sweep takes from the table that it has after the sweep, or after another
lookup if its bucket is marked. -/
theorem admitRaced_of_held {held : Bucket Rat} (holds : l.held? key now = some held)
    {live : Limiter Rat}
    (live_eq : live =
      if held.evicted = true then (l.swept key now).touch key now else l.swept key now) :
    l.admitRaced key now =
      ((live.takeFrom key now).1, ((l.touch key now).sweep now).1,
        (live.takeFrom key now).2) := by
  unfold held? swept at holds
  subst live_eq
  simp only [admitRaced, holds, Option.any_some]
  split <;> rfl

namespace Orderly

/-- The sweep after a lookup drops the bucket that was looked up if it is full, and refills it if
not. -/
theorem lookup_swept (h : Orderly l a now) (looked : lookup (l.touch key now).table key = some b) :
    lookup (l.swept key now).table key =
      if (b.isFull now).1 = true then none else some (b.refill now) :=
  (h.touch key).lookup_sweep looked

/-- What a call holds after the sweep is its bucket, refilled, and marked if it was full. -/
theorem held?_eq (h : Orderly l a now) (looked : lookup (l.touch key now).table key = some b) :
    l.held? key now = some { b.refill now with evicted := (b.isFull now).1 } := by
  have present : (b.refill now).evicted = false :=
    ((h.touch key).kept _ (mem_of_lookup looked)).refill.present
  rw [held?, lookup_idle (h.touch key).once now key, h.lookup_swept looked, looked]
  cases full : (b.isFull now).1 with
  | true => simp [Option.filter, full]
  | false => simp [Option.filter, full, ← present]

/-- A call that races a sweep takes from a bucket of the table. -/
theorem exists_takesFromTable (h : Orderly l a now) (key : String) :
    ∃ held asked live, TakesFromTable l key now held asked live := by
  rcases exists_lookup_iff.2 (key_mem_touch l key now) with ⟨b, looked⟩
  have bucket : b.Kept a now := (h.touch key).kept _ (mem_of_lookup looked)
  have orderly : Orderly (l.swept key now) a now := (h.touch key).sweep
  have left := h.lookup_swept looked
  have holds := h.held?_eq looked
  generalize live_eq : (if (b.isFull now).1 = true then (l.swept key now).touch key now
    else l.swept key now) = live
  have found : lookup live.table key = some (b.refill now) := by
    rw [← live_eq]
    cases full : (b.isFull now).1 with
    | true =>
      rw [full, if_pos rfl] at left
      rw [if_pos rfl, lookup_touch, left, Option.getD_none, orderly.full_eq,
        bucket.refill_eq_full_iff.2 full]
    | false => simpa [full] using left
  have raced := admitRaced_of_held holds live_eq.symm
  rw [takeFrom_of_lookup found] at raced
  refine ⟨_, b.refill now, live, holds, ?_, live_eq.symm, ?_, bucket.refill.present, found,
    congrArg Prod.fst raced, congrArg (·.2.2) raced⟩
  · rw [keys, ← lookup_eq_none_iff, left]
    split <;> simp_all
  · intro unmarked
    have same : (b.refill now).evicted = (b.isFull now).1 :=
      bucket.refill.present.trans (Eq.symm unmarked)
    rw [← same]

end Orderly

end Limiter

open Limiter

/-- In any table that calls and sweeps have left whose clock never went back, a call with a sweep
between its lookup and its take is decided as if the sweep came after it, and leaves the same
table, if a bucket is no smaller than a token, as it is where its capacity is a whole number.  The
sweep counts one bucket more exactly if the key had none or a full one when it was looked up.
Nothing is taken from a bucket that is no longer in the table. -/
theorem raced_sweep_as_after_call (a : ExactAllowance) (whole : 1 ≤ a.capacity)
    {calls : List TimedCall} (chronological : Chronological calls) {now : Rat}
    (past : ∀ c ∈ calls, c.time ≤ now) (key : String) :
    let l := a.limiter.run calls
    let after := (l.attempt key now).2.sweep now
    (l.admitRaced key now).1 = (l.attempt key now).1 ∧
      (l.admitRaced key now).2.2 = after.2 ∧
      (l.admitRaced key now).2.1 = after.1 +
        (if ∀ b ∈ Keyed.lookup l.table key, (b.isFull now).1 = true then 1 else 0) ∧
      ∃ held asked live, TakesFromTable l key now held asked live := by
  intro l after
  have h : Orderly l a now := orderly_run a chronological past
  rcases exists_touch l key now with ⟨rest, _, fresh, touched⟩
  rw [h.full_eq] at touched
  have sequential := h.attempt_sweep_eq whole fresh touched
  have raced := h.admitRaced_eq_concat fresh touched
  refine ⟨?_, ?_, ?_, h.exists_takesFromTable key⟩
  · rw [raced, sequential.1]
  · rw [raced]
    exact (congrArg Prod.snd sequential.2).symm
  · simp only [raced, after, sequential.2, isFull_getD_bucket_iff]

open ExactAllowance (twoAtOnce)

/-- Two clients call at the same time. -/
def twoTogether : List TimedCall :=
  [⟨0, .attempt "a"⟩, ⟨0, .attempt "b"⟩]

/-- With room for two clients, a third one displaces the first one.  A sweep right after its lookup
drops the bucket of the second one, which is full again, and the new one, too; after its call, the
sweep drops only the former. -/
theorem raced_sweep_counts_new_bucket :
    (((twoAtOnce 1).limiter.run twoTogether).admitRaced "c" 1).2.1 = 2 ∧
      ((((twoAtOnce 1).limiter.run twoTogether).attempt "c" 1).2.sweep 1).1 = 1 ∧
      (((twoAtOnce 1).limiter.run twoTogether).admitRaced "c" 1).2.2 =
        ((((twoAtOnce 1).limiter.run twoTogether).attempt "c" 1).2.sweep 1).2 ∧
      (((twoAtOnce 1).limiter.run twoTogether).admitRaced "c" 1).2.2.keys = ["c"] := by
  have chronological : Chronological twoTogether := by decide +kernel
  have raced := raced_sweep_as_after_call (twoAtOnce 1) (by decide +kernel) chronological
    (by decide +kernel : ∀ c ∈ twoTogether, c.time ≤ 1) "c"
  exact ⟨by decide +kernel, by decide +kernel, raced.2.1, by decide +kernel⟩

end Gatehouse.Throttle
