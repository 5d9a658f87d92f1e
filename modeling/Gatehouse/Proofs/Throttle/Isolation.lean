import Gatehouse.Proofs.Throttle.Calls
import Mathlib.Data.List.Basic

/-!
# Clients on their own

Clients share one table, from which sweeps and the cap take buckets away.  As long as the cap
takes none of a client's buckets before it is full, the client notices nothing of this: it gets
the answers that a bucket of its own would give it, which nobody else calls and nobody sweeps.

Without sweeps the table is fuller, and the cap may take away buckets that it would have spared.
So sweeps may be left out only if the cap spares the client's bucket then, too.

Main results:

- `Orderly.outcomes_eq`: what a run answers a key, from what the key finds before it.
- `decisions_as_of_private_bucket`: a client is answered as if it were alone.
- `deleted_sweep_changes_decision`: without its sweep, a run may answer differently.
-/

namespace Gatehouse.Throttle

/-! ## A bucket of one's own -/

/-- The answers of a bucket that only its owner calls, at the times of the calls. -/
def Bucket.outcomes (b : Bucket Rat) : List Rat → List Outcome
  | [] => []
  | t :: rest => ⟨t, (b.tryTake t).1⟩ :: outcomes (b.tryTake t).2 rest

/-- Whether a bucket was refilled before makes no difference to its answers. -/
theorem Bucket.Kept.outcomes_refill {b : Bucket Rat} {a : ExactAllowance} {now : Rat}
    (h : b.Kept a now) {times : List Rat} (later : ∀ t ∈ times, now ≤ t) :
    (b.refill now).outcomes times = b.outcomes times := by
  cases times with
  | nil => rfl
  | cons t rest =>
    rw [Bucket.outcomes, Bucket.outcomes, h.tryTake_refill (later t List.mem_cons_self)]

/-- The answers of a bucket of one's own that is created full at the first call. -/
def ExactAllowance.privateOutcomes (a : ExactAllowance) (times : List Rat) : List Outcome :=
  match times with
  | [] => []
  | t :: _ => (a.bucket t).outcomes times

/-- It makes no difference when a bucket of one's own was created. -/
theorem outcomes_bucket (a : ExactAllowance) {now : Rat} {times : List Rat}
    (later : ∀ t ∈ times, now ≤ t) : (a.bucket now).outcomes times = a.privateOutcomes times := by
  cases times with
  | nil => rfl
  | cons t rest =>
    have first : (a.bucket now).tryTake t = (a.bucket t).tryTake t := by
      have hl := later t List.mem_cons_self
      rw [← ((Bucket.kept_bucket a now).mono hl).tryTake_refill le_rfl, Bucket.refill_bucket a hl]
    rw [ExactAllowance.privateOutcomes, Bucket.outcomes, Bucket.outcomes, first]

/-! ## Parts of runs -/

/-- A run without the calls of other keys. -/
def withoutOthers (k : String) (calls : List TimedCall) : List TimedCall :=
  calls.filter fun c => c.call.key?.all (· = k)

/-- What is left of a call when nothing is swept. -/
def Call.withoutSweep? : Call → Option Call
  | .admitRaced key => some (.attempt key)
  | .sweep => none
  | call => some call

/-- A run without its sweeps, those that calls race among them. -/
def withoutSweeps (calls : List TimedCall) : List TimedCall :=
  calls.filterMap fun c => c.call.withoutSweep?.map (TimedCall.mk c.time)

/-- A key calls at no time that is not one of the run. -/
theorem le_of_mem_ownTimes {k : String} {calls : List TimedCall} {now : Rat}
    (later : ∀ c ∈ calls, now ≤ c.time) : ∀ t ∈ ownTimes k calls, now ≤ t := by
  intro t ht
  rcases List.mem_filterMap.1 ht with ⟨c, hc, own⟩
  split at own
  · exact Option.some.inj own ▸ later c hc
  · cases own

/-- Without the calls of others, a key calls at the same times. -/
theorem ownTimes_withoutOthers (k : String) (calls : List TimedCall) :
    ownTimes k (withoutOthers k calls) = ownTimes k calls := by
  rw [ownTimes, withoutOthers, List.filterMap_filter, ownTimes]
  refine List.filterMap_congr fun c _ => ?_
  cases called : c.call.key? with
  | none => simp
  | some key => by_cases own : key = k <;> simp [own]

/-- Without sweeps, a key calls at the same times. -/
theorem ownTimes_withoutSweeps (k : String) (calls : List TimedCall) :
    ownTimes k (withoutSweeps calls) = ownTimes k calls := by
  rw [ownTimes, withoutSweeps, List.filterMap_filterMap, ownTimes]
  refine List.filterMap_congr fun c _ => ?_
  rcases c with ⟨time, call⟩
  cases call <;> rfl

/-- Without the calls of others, the clock still never goes back. -/
theorem Chronological.withoutOthers {calls : List TimedCall} (h : Chronological calls)
    (k : String) : Chronological (withoutOthers k calls) :=
  h.sublist List.filter_sublist

/-- Without sweeps, the clock still never goes back. -/
theorem Chronological.withoutSweeps {calls : List TimedCall} (h : Chronological calls) :
    Chronological (withoutSweeps calls) := by
  refine List.Pairwise.filterMap _ ?_ h
  intro c c' hc d hd d' hd'
  have timeOf : ∀ {c d : TimedCall}, d ∈ c.call.withoutSweep?.map (TimedCall.mk c.time) →
      d.time = c.time := by
    intro c d hd
    rcases Option.map_eq_some_iff.1 hd with ⟨call, _, rfl⟩
    rfl
  rw [timeOf hd, timeOf hd']
  exact hc

/-! ## What the cap spares -/

open Limiter

/-- In a run of a limiter, the cap takes the bucket of a key away only when it is full, if at
all. -/
def Spared (a : ExactAllowance) (k : String) (calls : List TimedCall) : Prop :=
  ∀ e ∈ evictions a.limiter calls, e.key = k → e.bucket = a.bucket e.time

instance (a : ExactAllowance) (k : String) (calls : List TimedCall) :
    Decidable (Spared a k calls) :=
  inferInstanceAs (Decidable (∀ e ∈ evictions a.limiter calls, _))

/-- Where the cap takes no bucket away, it spares every key. -/
theorem spared_of_no_evictions {a : ExactAllowance} {calls : List TimedCall}
    (none : evictions a.limiter calls = []) (k : String) : Spared a k calls := by
  simp [Spared, none]

namespace Limiter

variable {l : Limiter Rat} {a : ExactAllowance} {k : String} {now : Rat} {calls : List TimedCall}

/-- Where only one key calls, the cap takes no bucket away. -/
theorem Orderly.evictions_eq_nil (h : Orderly l a now) (chronological : Chronological calls)
    (later : ∀ c ∈ calls, now ≤ c.time) (alone : ∀ c ∈ calls, ∀ key ∈ c.call.key?, key = k)
    (own : ∀ k' ∈ l.keys, k' = k) : evictions l calls = [] := by
  induction calls generalizing l now with
  | nil => rfl
  | cons c rest ih =>
    have order := List.pairwise_cons.1 chronological
    have orderly := h.mono (later c List.mem_cons_self)
    have aloneNow := alone c List.mem_cons_self
    have evictedNone : l.evicted c = [] := by
      refine List.eq_nil_iff_forall_not_mem.2 fun e he => ?_
      rcases mem_evicted_iff.1 he with ⟨_, _, key, called, gone⟩
      rw [aloneNow key called] at gone
      -- the only key that has a bucket is the one that calls
      have same := own e.key (mem_displaced_iff.1 gone).1
      exact (mem_displaced_iff.1 gone).2 (same ▸ key_mem_touch l k c.time)
    have ownRest : ∀ k' ∈ (l.serve c).2.keys, k' = k := fun k' has =>
      (orderly.mem_keys_serve has).elim (own k') (aloneNow k')
    rw [evictions, evictedNone, List.nil_append]
    exact ih orderly.serve order.2 order.1
      (fun d hd => alone d (List.mem_cons_of_mem _ hd)) ownRest

/-- What a run answers a key is what the bucket answers that it finds before the run. -/
theorem Orderly.outcomes_eq (h : Orderly l a now) (chronological : Chronological calls)
    (later : ∀ c ∈ calls, now ≤ c.time)
    (full : ∀ e ∈ evictions l calls, e.key = k → e.bucket = a.bucket e.time) :
    outcomes k l calls = (l.found k now).outcomes (ownTimes k calls) := by
  induction calls generalizing l now with
  | nil => rfl
  | cons c rest ih =>
    have first := later c List.mem_cons_self
    have order := List.pairwise_cons.1 chronological
    have orderly := h.mono first
    have fullNow : ∀ e ∈ l.evicted c, e.key = k → e.bucket = a.bucket e.time :=
      fun e he => full e (List.mem_append_left _ he)
    have rested := ih orderly.serve order.2 order.1 fun e he => full e (List.mem_append_right _ he)
    have restLater := le_of_mem_ownTimes (k := k) order.1
    by_cases own : c.call.key? = some k
    · rcases orderly.exists_serves own with ⟨admitted, answer, served⟩
      have taken := (orderly.kept_found k).tryTake
      have asNow : (l.found k c.time).tryTake c.time = (l.found k now).tryTake c.time := by
        rw [← h.refill_found k first, ((h.kept_found k).mono first).tryTake_refill le_rfl]
      calc
        outcomes k l (c :: rest) = ⟨c.time, admitted⟩ :: outcomes k (l.serve c).2 rest :=
          outcomes_cons_of_eq own answer rest
        _ = ⟨c.time, ((l.found k c.time).tryTake c.time).1⟩ ::
              ((l.found k c.time).tryTake c.time).2.outcomes (ownTimes k rest) := by
          rw [rested, served.own c.time le_rfl, taken.outcomes_refill restLater, ← served.decision]
        _ = (l.found k now).outcomes (ownTimes k (c :: rest)) := by
          rw [ownTimes_cons_of_eq own, Bucket.outcomes, asNow]
    · calc
        outcomes k l (c :: rest) = (l.found k c.time).outcomes (ownTimes k rest) := by
          rw [outcomes_cons_of_ne own, rested, orderly.alike_serve own fullNow c.time le_rfl]
        _ = (l.found k now).outcomes (ownTimes k (c :: rest)) := by
          rw [ownTimes_cons_of_ne own, ← h.refill_found k first,
            ((h.kept_found k).mono first).outcomes_refill restLater]

end Limiter

/-! ## Answers as of a bucket of one's own -/

section Answers

variable {a : ExactAllowance} {k : String} {calls : List TimedCall}

/-- A key that the cap spares is answered as by a bucket of its own. -/
theorem outcomes_limiter (chronological : Chronological calls) (spared : Spared a k calls) :
    outcomes k a.limiter calls = a.privateOutcomes (ownTimes k calls) := by
  rcases chronological.exists_start with ⟨now, later⟩
  have start := orderly_limiter a now
  rw [start.outcomes_eq chronological later spared, start.found_of_none rfl,
    outcomes_bucket a (le_of_mem_ownTimes later)]

/-- Where only one key calls, the cap spares it. -/
theorem spared_withoutOthers (chronological : Chronological calls) (k : String) :
    Spared a k (withoutOthers k calls) := by
  have kept := chronological.withoutOthers k
  rcases kept.exists_start with ⟨now, later⟩
  refine spared_of_no_evictions ?_ k
  refine (orderly_limiter a now).evictions_eq_nil kept later (k := k) ?_ (by
    simp [ExactAllowance.limiter, Limiter.empty, keys])
  intro c hc key called
  have own := (List.mem_filter.1 hc).2
  rw [Option.mem_def.1 called] at own
  simpa using own

/-- A client is answered as if it were alone.  In a run of any calls and sweeps whose clock never
goes back, where the cap takes the client's bucket away only when it is full, if at all:

- every call of the client is admitted exactly when a bucket of its own would admit it, full at
  its first call and called at the same times;
- the answers are the same when the calls of all others are left out;
- they are the same whatever else happens, as long as the client calls at the same times and the
  cap spares its bucket; so they are when the sweeps are left out, if the cap then still does. -/
theorem decisions_as_of_private_bucket (chronological : Chronological calls)
    (spared : Spared a k calls) :
    outcomes k a.limiter calls = a.privateOutcomes (ownTimes k calls) ∧
      outcomes k a.limiter (withoutOthers k calls) = outcomes k a.limiter calls ∧
      (∀ other, Chronological other → Spared a k other → ownTimes k other = ownTimes k calls →
        outcomes k a.limiter other = outcomes k a.limiter calls) ∧
      (Spared a k (withoutSweeps calls) →
        outcomes k a.limiter (withoutSweeps calls) = outcomes k a.limiter calls) := by
  have asOwn := outcomes_limiter chronological spared
  have same : ∀ other, Chronological other → Spared a k other →
      ownTimes k other = ownTimes k calls →
      outcomes k a.limiter other = outcomes k a.limiter calls := by
    intro other chronological' spared' times
    rw [outcomes_limiter chronological' spared', asOwn, times]
  refine ⟨asOwn, ?_, same, ?_⟩
  · exact same _ (chronological.withoutOthers k) (spared_withoutOthers chronological k)
      (ownTimes_withoutOthers k calls)
  · intro sparedUnswept
    exact same _ chronological.withoutSweeps sparedUnswept (ownTimes_withoutSweeps k calls)

end Answers

/-! ## A sweep that makes room -/

open ExactAllowance (twoAtOnce)

/-- One client empties its bucket and another takes one token, which it regains before a sweep.
When a third client calls, the bucket of the first one has not refilled yet. -/
def threeClients : List TimedCall :=
  [⟨0, .attempt "a"⟩, ⟨0, .attempt "a"⟩, ⟨1 / 2, .attempt "b"⟩, ⟨3 / 2, .sweep⟩,
    ⟨3 / 2, .attempt "c"⟩, ⟨3 / 2, .attempt "a"⟩, ⟨3 / 2, .attempt "a"⟩]

/-- With room for three clients, the first one is answered as if it were alone, with and without
the others, and with and without the sweep. -/
theorem decisions_of_first_client :
    (outcomes "a" (twoAtOnce 2).limiter threeClients).map Outcome.admitted =
        [true, true, true, false] ∧
      outcomes "a" (twoAtOnce 2).limiter threeClients =
        (twoAtOnce 2).privateOutcomes [0, 0, 3 / 2, 3 / 2] ∧
      outcomes "a" (twoAtOnce 2).limiter (withoutOthers "a" threeClients) =
        outcomes "a" (twoAtOnce 2).limiter threeClients ∧
      outcomes "a" (twoAtOnce 2).limiter (withoutSweeps threeClients) =
        outcomes "a" (twoAtOnce 2).limiter threeClients := by
  have chronological : Chronological threeClients := by decide +kernel
  have spared : Spared (twoAtOnce 2) "a" threeClients := by decide +kernel
  have sparedUnswept : Spared (twoAtOnce 2) "a" (withoutSweeps threeClients) := by decide +kernel
  have answered := decisions_as_of_private_bucket chronological spared
  refine ⟨by decide +kernel, ?_, answered.2.1, answered.2.2.2 sparedUnswept⟩
  rw [answered.1]
  rfl

/-- With room for two clients only, the cap takes no bucket away in this run.  But without its
sweep, which makes room for the third client, the cap takes the bucket of the first one away
before it is full, and the first client is admitted once more than before. -/
theorem deleted_sweep_changes_decision :
    Chronological threeClients ∧ evictions (twoAtOnce 1).limiter threeClients = [] ∧
      (outcomes "a" (twoAtOnce 1).limiter threeClients).map Outcome.admitted =
        [true, true, true, false] ∧
      (outcomes "a" (twoAtOnce 1).limiter (withoutSweeps threeClients)).map Outcome.admitted =
        [true, true, true, true] := by
  decide +kernel

end Gatehouse.Throttle
