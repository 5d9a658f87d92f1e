import Gatehouse.Proofs.Throttle.Calls

/-!
# How many calls are admitted

Within any stretch of time a client is admitted at most as often as a full bucket allows and as
many times more as the bucket gains tokens in that time.  What carries the bound is what the
client finds and what it can still gain until the end of the stretch: together these are never
more after a call than before, less one for a call that was admitted.  A sweep changes neither,
and so it does not matter that the bucket may be dropped and made anew within the stretch.

Main results:

- `Orderly.admittedWithin_le_budget`: the bound from within the stretch.
- `admitted_within_window_le`: the bound for any stretch of any run.
-/

namespace Gatehouse.Throttle

/-- The number of calls that were admitted between two times. -/
def admittedWithin (first last : Rat) (answers : List Outcome) : Nat :=
  answers.countP fun o => o.admitted && decide (first ≤ o.time ∧ o.time ≤ last)

/-- One more answer counts if it admits a call between the two times. -/
theorem admittedWithin_cons (first last : Rat) (o : Outcome) (answers : List Outcome) :
    admittedWithin first last (o :: answers) = admittedWithin first last answers +
      if o.admitted = true ∧ first ≤ o.time ∧ o.time ≤ last then 1 else 0 := by
  simp [admittedWithin, List.countP_cons]

namespace Limiter

variable {l : Limiter Rat} {a : ExactAllowance} {k : String} {now first last : Rat}
  {c : TimedCall} {calls rest : List TimedCall}

/-- Calls are answered when they are made. -/
theorem exists_call_of_outcome {o : Outcome} (h : o ∈ outcomes k l calls) :
    ∃ c ∈ calls, o.time = c.time := by
  induction calls generalizing l with
  | nil => cases h
  | cons c rest ih =>
    rcases List.mem_append.1 h with now | later
    · have own : ∃ admitted, o = ⟨c.time, admitted⟩ := by
        split at now
        · rcases Option.map_eq_some_iff.1 (Option.mem_toList.1 now) with ⟨admitted, _, rfl⟩
          exact ⟨admitted, rfl⟩
        · cases now
      rcases own with ⟨admitted, rfl⟩
      exact ⟨c, List.mem_cons_self, rfl⟩
    · rcases ih later with ⟨d, hd, time⟩
      exact ⟨d, List.mem_cons_of_mem _ hd, time⟩

/-- No call of a run that starts after the last time is admitted before it. -/
theorem admittedWithin_of_after (chronological : Chronological (c :: rest))
    (after : last < c.time) : admittedWithin first last (outcomes k l (c :: rest)) = 0 := by
  refine List.countP_eq_zero.2 fun o ho => ?_
  rcases exists_call_of_outcome ho with ⟨d, hd, time⟩
  have late : last < o.time := time ▸ after.trans_le (chronological.head_le d hd)
  simp [not_le.2 late]

/-! ## The budget of a key -/

/-- What a key finds and what it can gain until the last time. -/
def budget (l : Limiter Rat) (a : ExactAllowance) (k : String) (now last : Rat) : Rat :=
  (l.found k now).tokens + a.rate * (last - now)

namespace Orderly

/-- The budget does not grow as time passes. -/
theorem budget_le (h : Orderly l a now) {later : Rat} (hl : now ≤ later) (k : String)
    (last : Rat) : budget l a k later last ≤ budget l a k now last := by
  have gained := (h.kept_found k).tokens_refill_le hl
  rw [h.refill_found k hl, h.refill_found k le_rfl] at gained
  unfold budget
  linarith

/-- There is a budget until the last time comes. -/
theorem budget_nonneg (h : Orderly l a now) (k : String) (hl : now ≤ last) :
    0 ≤ budget l a k now last :=
  add_nonneg (h.kept_found k).nonneg (mul_nonneg a.rate_pos.le (sub_nonneg.2 hl))

/-- The budget from a time on is at most a full bucket and what can be gained. -/
theorem budget_le_capacity (h : Orderly l a now) (k : String) (hf : first ≤ now) (last : Rat) :
    budget l a k now last ≤ a.capacity + a.rate * (last - first) := by
  have gained : a.rate * (last - now) ≤ a.rate * (last - first) :=
    mul_le_mul_of_nonneg_left (by linarith) a.rate_pos.le
  exact add_le_add (h.kept_found k).le_capacity gained

/-- A key that calls pays for the call from its budget if it is admitted. -/
theorem budget_serve_own {admitted : Bool} (h : Orderly l a c.time)
    (served : Serves a c.time k l (admitted, (l.serve c).2)) (last : Rat) :
    budget (l.serve c).2 a k c.time last =
      budget l a k c.time last - if admitted = true then 1 else 0 := by
  have kept := h.kept_found k
  have left := served.own c.time le_rfl
  rw [kept.refill_tryTake] at left
  have refilled := h.refill_found k le_rfl
  have tokens := Bucket.tokens_tryTake (l.found k c.time) c.time
  rw [refilled, ← served.decision] at tokens
  rw [budget, budget, left, tokens]
  ring

/-- A step that is not a call of the key leaves its budget alone, unless the cap takes its bucket
away when it is not full. -/
theorem budget_serve_other (h : Orderly l a c.time) (other : c.call.key? ≠ some k)
    (full : ∀ e ∈ l.evicted c, e.key = k → e.bucket = a.bucket e.time) (last : Rat) :
    budget (l.serve c).2 a k c.time last = budget l a k c.time last := by
  rw [budget, budget, h.alike_serve other full c.time le_rfl]

/-! ## The bound -/

/-- From a time within the stretch on, the calls that are admitted are paid for by the budget. -/
theorem admittedWithin_le_budget (h : Orderly l a now) (chronological : Chronological calls)
    (later : ∀ c ∈ calls, now ≤ c.time) (hf : first ≤ now) (hl : now ≤ last)
    (full : ∀ e ∈ evictions l calls, e.key = k → first ≤ e.time → e.time ≤ last →
      e.bucket = a.bucket e.time) :
    (admittedWithin first last (outcomes k l calls) : Rat) ≤ budget l a k now last := by
  induction calls generalizing l now with
  | nil => exact_mod_cast h.budget_nonneg k hl
  | cons c rest ih =>
    have order := List.pairwise_cons.1 chronological
    have start := later c List.mem_cons_self
    by_cases inTime : c.time ≤ last
    · have orderly := h.mono start
      have after := hf.trans start
      have rested := ih orderly.serve order.2 order.1 after inTime
        fun e he => full e (List.mem_append_right _ he)
      have spent : (admittedWithin first last (outcomes k l (c :: rest)) : Rat) ≤
          budget l a k c.time last := by
        by_cases own : c.call.key? = some k
        · rcases orderly.exists_serves own with ⟨admitted, answer, served⟩
          rw [orderly.budget_serve_own served] at rested
          rw [outcomes_cons_of_eq own answer, admittedWithin_cons]
          push_cast
          cases admitted <;> simp [after, inTime] at rested ⊢ <;> linarith
        · rw [outcomes_cons_of_ne own]
          refine rested.trans (orderly.budget_serve_other own (fun e he same => ?_) last).le
          have time := (mem_evicted_iff.1 he).1
          exact full e (List.mem_append_left _ he) same (time ▸ after) (time ▸ inTime)
      exact spent.trans (h.budget_le start k last)
    · rw [admittedWithin_of_after chronological (not_le.1 inTime)]
      exact_mod_cast h.budget_nonneg k hl

/-- In a stretch of a run, a key is admitted at most as often as a full bucket and what it gains
in the stretch allow. -/
theorem admittedWithin_le (h : Orderly l a now) (chronological : Chronological calls)
    (later : ∀ c ∈ calls, now ≤ c.time) (ordered : first ≤ last)
    (full : ∀ e ∈ evictions l calls, e.key = k → first ≤ e.time → e.time ≤ last →
      e.bucket = a.bucket e.time) :
    (admittedWithin first last (outcomes k l calls) : Rat) ≤
      a.capacity + a.rate * (last - first) := by
  have bound_nonneg : 0 ≤ a.capacity + a.rate * (last - first) :=
    add_nonneg a.capacity_pos.le (mul_nonneg a.rate_pos.le (sub_nonneg.2 ordered))
  induction calls generalizing l now with
  | nil => exact_mod_cast bound_nonneg
  | cons c rest ih =>
    have order := List.pairwise_cons.1 chronological
    have orderly := h.mono (later c List.mem_cons_self)
    by_cases begun : first ≤ c.time
    · by_cases inTime : c.time ≤ last
      · exact (orderly.admittedWithin_le_budget chronological chronological.head_le begun inTime
          full).trans (orderly.budget_le_capacity k begun last)
      · rw [admittedWithin_of_after chronological (not_le.1 inTime)]
        exact_mod_cast bound_nonneg
    · -- the call comes too early to be counted
      have skipped : admittedWithin first last (outcomes k l (c :: rest)) =
          admittedWithin first last (outcomes k (l.serve c).2 rest) := by
        by_cases own : c.call.key? = some k
        · rcases orderly.exists_serves own with ⟨admitted, answer, _⟩
          rw [outcomes_cons_of_eq own answer, admittedWithin_cons]
          simp [begun]
        · rw [outcomes_cons_of_ne own]
      rw [skipped]
      exact ih orderly.serve order.2 order.1 fun e he => full e (List.mem_append_right _ he)

end Orderly

end Limiter

open Limiter

/-- In any run of calls and sweeps whose clock never goes back, and within any window of time in
which the cap does not take its bucket away, a key is admitted at most as often as a full bucket
allows and as many times more as it gains tokens in the window. -/
theorem admitted_within_window_le (a : ExactAllowance) {calls : List TimedCall}
    (chronological : Chronological calls) (k : String) {first last : Rat} (ordered : first ≤ last)
    (kept : ∀ e ∈ evictions a.limiter calls, e.key = k → ¬(first ≤ e.time ∧ e.time ≤ last)) :
    (admittedWithin first last (outcomes k a.limiter calls) : Rat) ≤
      a.capacity + a.refillTokens / a.refillSeconds * (last - first) := by
  rcases chronological.exists_start with ⟨now, later⟩
  refine (orderly_limiter a now).admittedWithin_le chronological later ordered ?_
  intro e he same begun inTime
  exact absurd ⟨begun, inTime⟩ (kept e he same)

open ExactAllowance (twoAtOnce)

/-- A client calls until it is refused, its bucket refills and is swept, and the client calls
again until it is refused. -/
def twoBursts : List TimedCall :=
  [⟨1, .attempt "a"⟩, ⟨1, .attempt "a"⟩, ⟨1, .enforce "a"⟩, ⟨2, .attempt "b"⟩, ⟨3, .sweep⟩,
    ⟨3, .attempt "a"⟩, ⟨3, .attempt "a"⟩, ⟨3, .attempt "a"⟩]

/-- In two seconds the client is admitted four times, which is as often as it may be. -/
theorem admitted_within_two_bursts :
    admittedWithin 1 3 (outcomes "a" (twoAtOnce 1).limiter twoBursts) = 4 ∧
      (admittedWithin 1 3 (outcomes "a" (twoAtOnce 1).limiter twoBursts) : Rat) ≤
        2 + 1 / 1 * (3 - 1) :=
  ⟨by decide +kernel,
    admitted_within_window_le (twoAtOnce 1) (by decide +kernel) "a" (by decide +kernel)
      (by decide +kernel)⟩

end Gatehouse.Throttle
