import Gatehouse.Proofs.Throttle.Isolation

/-!
# Clients that lose their buckets

The cap takes away the bucket of the client that has not called for the longest time, and when
this client calls again it gets a full one.  From then on its bucket and the one that it would
have on its own go different ways: at some times the one holds more, and at some times the other.
What stays true is that a bucket of its own is ahead by at most as many tokens as the client has
been admitted more often so far.  So the client has never been admitted less often.

Main results:

- `Bucket.exists_ahead_tryTake`: two buckets that are called at the same time.
- `Orderly.found_le_serve`: no step takes anything from a key that does not call.
- `Orderly.admittedCount_le`: a key is ahead of its own bucket in calls as it is behind in tokens.
- `private_bucket_never_admits_more`: no client loses by the cap, at any time of any run.
-/

namespace Gatehouse.Throttle

/-! ## Counting -/

/-- The number of calls that were admitted. -/
def admittedCount (answers : List Outcome) : Nat :=
  answers.countP Outcome.admitted

/-- One more answer counts if it admits its call. -/
theorem admittedCount_cons (o : Outcome) (answers : List Outcome) :
    admittedCount (o :: answers) = admittedCount answers + if o.admitted = true then 1 else 0 :=
  List.countP_cons

/-! ## A bucket ahead of another -/

namespace Bucket

/-- A bucket that is ahead of another one by some tokens at most is so later, too: the one gains
what the other gains, and neither gains more than its capacity. -/
theorem Kept.ahead_later {b b' : Bucket Rat} {a : ExactAllowance} {now later : Rat}
    (h : b.Kept a now) (h' : b'.Kept a now) {surplus : Nat}
    (ahead : (b.refill now).tokens ≤ (b'.refill now).tokens + surplus) (hl : now ≤ later) :
    (b.refill later).tokens ≤ (b'.refill later).tokens + surplus := by
  have nonneg : (0 : Rat) ≤ surplus := Nat.cast_nonneg surplus
  rw [h.tokens_refill hl, h'.tokens_refill hl]
  rcases le_total ((b'.refill now).tokens + (later - now) * a.rate) a.capacity with below | above
  · rw [min_eq_left below]
    exact (min_le_left _ _).trans (by linarith)
  · rw [min_eq_right above]
    exact (min_le_right _ _).trans (le_add_of_nonneg_right nonneg)

/-- Of two buckets that are called at the same time, the one is ahead in tokens afterwards by as
many as before, one more if only the other one admits the call, and one less if only it does. -/
theorem exists_ahead_tryTake {b b' : Bucket Rat} {now : Rat} {surplus : Nat}
    (ahead : (b.refill now).tokens ≤ (b'.refill now).tokens + surplus) :
    ∃ surplus' : Nat,
      (b.tryTake now).2.tokens ≤ (b'.tryTake now).2.tokens + surplus' ∧
      surplus' + (if (b.tryTake now).1 = true then 1 else 0) =
        surplus + if (b'.tryTake now).1 = true then 1 else 0 := by
  by_cases whole : 1 ≤ (b.refill now).tokens <;> by_cases whole' : 1 ≤ (b'.refill now).tokens
  · exact ⟨surplus, by simp [tryTake_admitted whole, tryTake_admitted whole']; linarith,
      by simp [tryTake_admitted whole, tryTake_admitted whole']⟩
  · -- the one takes a token that the other does not have, so that it was ahead by one at least
    have some : surplus ≠ 0 := by
      rintro rfl
      rw [Nat.cast_zero, add_zero] at ahead
      exact whole' (whole.trans ahead)
    obtain ⟨less, rfl⟩ := Nat.exists_eq_succ_of_ne_zero some
    refine ⟨less, ?_, by simp [tryTake_admitted whole, tryTake_denied whole']⟩
    push_cast at ahead
    simp [tryTake_admitted whole, tryTake_denied whole']
    linarith
  · refine ⟨surplus + 1, ?_, by simp [tryTake_denied whole, tryTake_admitted whole']⟩
    push_cast
    simp [tryTake_denied whole, tryTake_admitted whole']
    linarith
  · exact ⟨surplus, by simpa [tryTake_denied whole, tryTake_denied whole'] using ahead,
      by simp [tryTake_denied whole, tryTake_denied whole']⟩

end Bucket

/-! ## Runs -/

namespace Limiter

variable {l : Limiter Rat} {a : ExactAllowance} {c : TimedCall} {calls : List TimedCall}
  {k : String} {now : Rat}

/-- No step takes anything from a key that does not call: where the cap takes its bucket away, the
key finds a full one. -/
theorem Orderly.found_le_serve (h : Orderly l a c.time) (other : c.call.key? ≠ some k) :
    (l.found k c.time).tokens ≤ ((l.serve c).2.found k c.time).tokens := by
  cases called : c.call.key? with
  | none =>
    rw [serve_of_no_key l called]
    exact (h.alike_sweep k c.time le_rfl).symm ▸ le_rfl
  | some key =>
    by_cases gone : k ∈ l.displaced key c.time
    · have none : Keyed.lookup (l.serve c).2.table k = none :=
        Keyed.lookup_eq_none_iff.2 (h.not_mem_keys_serve called gone)
      rw [h.serve.found_of_none none]
      exact (h.kept_found k).le_capacity
    · rcases h.exists_serves called with ⟨_, _, served⟩
      have alike := served.others k (fun same => other (same ▸ called)) fun given =>
        absurd given gone
      exact (alike c.time le_rfl).symm ▸ le_rfl

/-- If a bucket of a key's own is ahead of what the key finds by some tokens at most, then it
admits at most as many calls more in a run of any calls and sweeps. -/
theorem Orderly.admittedCount_le {b : Bucket Rat} (h : Orderly l a now) (kept : b.Kept a now)
    (chronological : Chronological calls) (later : ∀ c ∈ calls, now ≤ c.time) {surplus : Nat}
    (ahead : (b.refill now).tokens ≤ (l.found k now).tokens + surplus) :
    admittedCount (b.outcomes (ownTimes k calls)) ≤
      admittedCount (outcomes k l calls) + surplus := by
  induction calls generalizing l b now surplus with
  | nil => exact Nat.zero_le _
  | cons c rest ih =>
    have first := later c List.mem_cons_self
    have order := List.pairwise_cons.1 chronological
    have orderly := h.mono first
    have aheadNow : (b.refill c.time).tokens ≤ (l.found k c.time).tokens + surplus := by
      rw [← h.refill_found k first]
      exact kept.ahead_later (h.kept_found k) (by rwa [h.refill_found k le_rfl]) first
    by_cases own : c.call.key? = some k
    · rcases orderly.exists_serves own with ⟨admitted, answer, served⟩
      have left := served.own c.time le_rfl
      rw [(orderly.kept_found k).refill_tryTake] at left
      rw [← orderly.refill_found k le_rfl] at aheadNow
      rcases Bucket.exists_ahead_tryTake aheadNow with ⟨surplus', aheadThen, counted⟩
      rw [← left] at aheadThen
      rw [← served.decision] at counted
      have mine := (kept.mono first).tryTake
      rw [← (kept.mono first).refill_tryTake] at aheadThen
      have rested := ih orderly.serve mine order.2 order.1 aheadThen
      rw [ownTimes_cons_of_eq own, Bucket.outcomes, outcomes_cons_of_eq own answer,
        admittedCount_cons, admittedCount_cons]
      simp only at counted ⊢
      omega
    · rw [ownTimes_cons_of_ne own, outcomes_cons_of_ne own]
      have more := orderly.found_le_serve own
      exact ih orderly.serve (kept.mono first) order.2 order.1 (by linarith)

/-- The answers to a part of a run that comes first are the first answers to the whole. -/
theorem outcomes_append (k : String) (l : Limiter Rat) (begun rest : List TimedCall) :
    outcomes k l (begun ++ rest) = outcomes k l begun ++ outcomes k (l.run begun) rest := by
  induction begun generalizing l with
  | nil => rfl
  | cons c begun ih => simp [outcomes, Limiter.run, ih]

end Limiter

open Limiter

/-- No client loses by the cap.  At any time of any run of calls and sweeps whose clock never goes
back, a client has been admitted at least as often as a bucket of its own would have admitted it,
full at its first call, never taken away, and called at the same times. -/
theorem private_bucket_never_admits_more (a : ExactAllowance) {calls : List TimedCall}
    (chronological : Chronological calls) (k : String) {begun : List TimedCall}
    (soFar : begun <+: calls) :
    outcomes k a.limiter begun <+: outcomes k a.limiter calls ∧
      admittedCount (a.privateOutcomes (ownTimes k begun)) ≤
        admittedCount (outcomes k a.limiter begun) := by
  rcases soFar with ⟨rest, rfl⟩
  refine ⟨⟨_, (outcomes_append k a.limiter begun rest).symm⟩, ?_⟩
  have chronologicalBegun : Chronological begun := (List.pairwise_append.1 chronological).1
  rcases chronologicalBegun.exists_start with ⟨now, later⟩
  have start : Orderly a.limiter a now := orderly_limiter a now
  have level : ((a.bucket now).refill now).tokens ≤
      (a.limiter.found k now).tokens + (0 : Nat) := by
    rw [start.found_of_none rfl, Bucket.refill_bucket a le_rfl, Nat.cast_zero, add_zero]
  have alone := start.admittedCount_le (Bucket.kept_bucket a now) chronologicalBegun later level
  rwa [outcomes_bucket a (le_of_mem_ownTimes later), Nat.add_zero] at alone

open ExactAllowance (twoAtOnce)

/-- With room for one client only, another client displaces the first one while its bucket is
empty. -/
def displacedClient : List TimedCall :=
  [⟨0, .attempt "a"⟩, ⟨0, .attempt "a"⟩, ⟨1 / 2, .attempt "b"⟩, ⟨1 / 2, .attempt "a"⟩,
    ⟨1 / 2, .attempt "a"⟩, ⟨1, .attempt "a"⟩]

/-- The displaced client is admitted four times out of five.  On its own it would be admitted
three times, though once when it is not admitted here. -/
theorem displaced_client_gains :
    (outcomes "a" (twoAtOnce 0).limiter displacedClient).map Outcome.admitted =
        [true, true, true, true, false] ∧
      ((twoAtOnce 0).privateOutcomes (ownTimes "a" displacedClient)).map Outcome.admitted =
        [true, true, false, false, true] ∧
      admittedCount ((twoAtOnce 0).privateOutcomes (ownTimes "a" displacedClient)) ≤
        admittedCount (outcomes "a" (twoAtOnce 0).limiter displacedClient) :=
  ⟨by decide +kernel, by decide +kernel,
    (private_bucket_never_admits_more (twoAtOnce 0) (by decide +kernel) "a"
      (List.prefix_refl displacedClient)).2⟩

end Gatehouse.Throttle
