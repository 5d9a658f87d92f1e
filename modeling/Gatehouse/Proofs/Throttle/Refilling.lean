import Gatehouse.Throttle.Limiter
import Mathlib.Algebra.Order.Field.Basic
import Mathlib.Algebra.Order.Ring.Rat
import Mathlib.Tactic.Linarith
import Mathlib.Tactic.Ring

/-!
# Refilling over exact numbers

Over exact numbers it does not matter how often a bucket is refilled on the way: what it holds
at a time is what it held at any earlier time and what was gained since, up to its capacity.  A
bucket that has refilled to its capacity is a full bucket, and a full bucket stays one.

Main results:

- `Bucket.Bounded.refill_refill`, `Bucket.Kept.refill_refill`: refilling on the way makes no
  difference.
- `Bucket.Kept.refill_eq_full_iff`: a bucket at capacity is a full one.
- `Bucket.Kept.tryTake`: taking keeps a bucket within its bounds.
- `Bucket.Kept.tokens_refill`, `Bucket.Kept.tokens_refill_le`: what is gained within a time.
-/

namespace Gatehouse.Throttle

/-! ## Allowances in exact numbers -/

/-- What every client is allowed, in exact numbers, none of which is zero or below. -/
structure ExactAllowance where
  capacity : Rat
  /-- The tokens that a bucket regains within `refillSeconds`. -/
  refillTokens : Rat
  refillSeconds : Rat
  maxBuckets : Nat
  capacity_pos : 0 < capacity
  refillTokens_pos : 0 < refillTokens
  refillSeconds_pos : 0 < refillSeconds
  maxBuckets_pos : 0 < maxBuckets

namespace ExactAllowance

/-- The tokens that a bucket gains per second. -/
def rate (a : ExactAllowance) : Rat :=
  a.refillTokens / a.refillSeconds

/-- Buckets gain tokens as time passes. -/
theorem rate_pos (a : ExactAllowance) : 0 < a.rate :=
  div_pos a.refillTokens_pos a.refillSeconds_pos

/-- The limiter of an allowance, before anyone called. -/
def limiter (a : ExactAllowance) : Limiter Rat :=
  .empty a.capacity a.rate a.maxBuckets

/-- Two calls at once and one more each second, with room for one client and a number of
others. -/
def twoAtOnce (others : Nat) : ExactAllowance where
  capacity := 2
  refillTokens := 1
  refillSeconds := 1
  maxBuckets := others + 1
  capacity_pos := by decide +kernel
  refillTokens_pos := by decide +kernel
  refillSeconds_pos := by decide +kernel
  maxBuckets_pos := Nat.succ_pos others

/-- The bucket that a new client gets. -/
def bucket (a : ExactAllowance) (now : Rat) : Bucket Rat :=
  .full a.capacity a.rate now

end ExactAllowance

namespace Bucket

/-! ## Capped values -/

/-- A value that is capped is the lesser of the value and the cap. -/
theorem capped_eq_min (cap x : Rat) : capped cap x = min x cap := by
  unfold capped
  split
  · next h => rw [min_eq_left h.le]
  · next h => rw [min_eq_right (not_lt.1 h)]

/-- What is capped and grows and is capped again might as well be capped once. -/
theorem min_min_add (cap x : Rat) {gain : Rat} (h : 0 ≤ gain) :
    min (min x cap + gain) cap = min (x + gain) cap := by
  rcases le_total x cap with below | above
  · rw [min_eq_left below]
  · rw [min_eq_right above, min_eq_right (by linarith), min_eq_right (by linarith)]

/-! ## Buckets within their bounds -/

/-- A bucket that gains tokens and holds something between nothing and its capacity. -/
structure Bounded (b : Bucket Rat) : Prop where
  rate_pos : 0 < b.rate
  nonneg : 0 ≤ b.tokens
  le_capacity : b.tokens ≤ b.capacity

namespace Bounded

variable {b : Bucket Rat} {now later : Rat}

/-- What a bucket holds once it is refilled. -/
theorem tokens_refill (h : b.Bounded) (hl : b.lastRefill ≤ now) :
    (b.refill now).tokens = min (b.tokens + (now - b.lastRefill) * b.rate) b.capacity := by
  simp only [Bucket.refill, capped_eq_min]
  split
  · rfl
  · next still =>
    -- no time has passed, and what is not above the capacity is not cut
    have same : b.lastRefill = now := le_antisymm hl (by simpa using still)
    rw [← same, sub_self, zero_mul, add_zero, min_eq_left h.le_capacity]

/-- A refilled bucket is within its bounds. -/
theorem refill (h : b.Bounded) (now : Rat) : (b.refill now).Bounded := by
  unfold Bucket.refill
  simp only [capped_eq_min]
  split
  · next passed =>
    have gain : 0 < (now - b.lastRefill) * b.rate := mul_pos passed h.rate_pos
    exact ⟨h.rate_pos, le_min (by linarith [h.nonneg]) (h.nonneg.trans h.le_capacity),
      min_le_right _ _⟩
  · exact h

/-- Refilling on the way makes no difference. -/
theorem refill_refill (h : b.Bounded) (hl : now ≤ later) :
    (b.refill now).refill later = b.refill later := by
  by_cases first : 0 < now - b.lastRefill
  · have gain : 0 ≤ (later - now) * b.rate := mul_nonneg (sub_nonneg.2 hl) h.rate_pos.le
    have second : 0 < later - b.lastRefill := by linarith
    simp only [Bucket.refill, if_pos first, if_pos second, capped_eq_min]
    split
    · rw [min_min_add _ _ gain]
      congr 2
      ring
    · next still =>
      have same : now = later := le_antisymm hl (by simpa using still)
      rw [same]
  · rw [refill_of_not_later first]

/-- A bucket that something may have been taken from is within its bounds. -/
theorem tryTake (h : b.Bounded) (now : Rat) : (b.tryTake now).2.Bounded := by
  have refilled := h.refill now
  by_cases whole : 1 ≤ (b.refill now).tokens
  · rw [tryTake_admitted whole]
    exact { refilled with
      nonneg := sub_nonneg.2 whole
      le_capacity := (sub_le_self _ zero_le_one).trans refilled.le_capacity }
  · rw [tryTake_denied whole]
    exact refilled

end Bounded

/-! ## Buckets that are kept -/

/-- A bucket as a limiter keeps it: it holds something between nothing and its capacity, was
last refilled at no later time, and has not left the table. -/
structure Kept (b : Bucket Rat) (a : ExactAllowance) (now : Rat) : Prop where
  capacity : b.capacity = a.capacity
  rate : b.rate = a.rate
  nonneg : 0 ≤ b.tokens
  le_capacity : b.tokens ≤ a.capacity
  not_later : b.lastRefill ≤ now
  present : b.evicted = false

/-- A new bucket is one that is kept. -/
theorem kept_bucket (a : ExactAllowance) (now : Rat) : (a.bucket now).Kept a now :=
  ⟨rfl, rfl, a.capacity_pos.le, le_rfl, le_rfl, rfl⟩

namespace Kept

variable {b : Bucket Rat} {a : ExactAllowance} {now later : Rat}

/-- A bucket that is kept at a time is kept later. -/
theorem mono (h : b.Kept a now) (hl : now ≤ later) : b.Kept a later :=
  { h with not_later := h.not_later.trans hl }

/-- What a bucket holds once it is refilled. -/
theorem refill_eq (h : b.Kept a now) :
    b.refill now =
      ⟨a.capacity, a.rate, min (b.tokens + (now - b.lastRefill) * a.rate) a.capacity, now,
        false⟩ := by
  rcases b with ⟨capacity, rate, tokens, lastRefill, evicted⟩
  obtain ⟨rfl, rfl, -, le_capacity, not_later, rfl⟩ := h
  simp only [refill, capped_eq_min]
  split
  · rfl
  · next still =>
    -- no time has passed, and what is not above the capacity is not cut
    have same : lastRefill = now := le_antisymm not_later (by simpa using still)
    subst same
    simp [min_eq_left le_capacity]

/-- A refilled bucket is kept. -/
theorem refill (h : b.Kept a now) : (b.refill now).Kept a now := by
  have gain : 0 ≤ (now - b.lastRefill) * a.rate :=
    mul_nonneg (sub_nonneg.2 h.not_later) a.rate_pos.le
  rw [h.refill_eq]
  exact ⟨rfl, rfl, le_min (by linarith [h.nonneg]) a.capacity_pos.le, min_le_right _ _, le_rfl, rfl⟩

/-- A bucket that is kept is within its bounds. -/
theorem bounded (h : b.Kept a now) : b.Bounded :=
  ⟨h.rate ▸ a.rate_pos, h.nonneg, h.capacity ▸ h.le_capacity⟩

/-- Refilling on the way makes no difference. -/
theorem refill_refill (h : b.Kept a now) (hl : now ≤ later) :
    (b.refill now).refill later = b.refill later :=
  h.bounded.refill_refill hl

/-- A bucket that has refilled to its capacity is a full one, and no other is. -/
theorem refill_eq_full_iff (h : b.Kept a now) :
    b.refill now = a.bucket now ↔ (b.isFull now).1 = true := by
  rw [isFull, h.refill_eq, ExactAllowance.bucket, full]
  simp only [Bucket.mk.injEq, true_and, and_true, decide_eq_true_eq]
  exact ⟨fun full => full.ge, fun full => le_antisymm (min_le_right _ _) full⟩

/-- What a bucket holds later is what it holds now and what it gains, up to its capacity. -/
theorem tokens_refill (h : b.Kept a now) (hl : now ≤ later) :
    (b.refill later).tokens =
      min ((b.refill now).tokens + (later - now) * a.rate) a.capacity := by
  rw [← h.refill_refill hl, (h.refill.mono hl).refill_eq, h.refill_eq]

/-- What a bucket gains within a time is bounded by its rate. -/
theorem tokens_refill_le (h : b.Kept a now) (hl : now ≤ later) :
    (b.refill later).tokens ≤ (b.refill now).tokens + a.rate * (later - now) := by
  rw [h.tokens_refill hl, mul_comm a.rate]
  exact min_le_left _ _

/-- Taking refills first: whether the bucket was refilled before makes no difference. -/
theorem tryTake_refill (h : b.Kept a now) (hl : now ≤ later) :
    (b.refill now).tryTake later = b.tryTake later := by
  simp only [Bucket.tryTake, h.refill_refill hl]

/-- A bucket that something may have been taken from is kept. -/
theorem tryTake (h : b.Kept a now) : (b.tryTake now).2.Kept a now := by
  have kept := h.refill
  by_cases whole : 1 ≤ (b.refill now).tokens
  · rw [tryTake_admitted whole]
    exact { kept with
      nonneg := sub_nonneg.2 whole
      le_capacity := (sub_le_self _ zero_le_one).trans kept.le_capacity }
  · rw [tryTake_denied whole]
    exact kept

/-- A bucket that something may have been taken from was refilled just now. -/
theorem refill_tryTake (h : b.Kept a now) : (b.tryTake now).2.refill now = (b.tryTake now).2 := by
  have refilled : (b.tryTake now).2.lastRefill = now := by
    by_cases whole : 1 ≤ (b.refill now).tokens
    · rw [tryTake_admitted whole, h.refill_eq]
    · rw [tryTake_denied whole, h.refill_eq]
  exact refill_of_not_later (by simp [refilled])

end Kept

/-- A full bucket stays full. -/
theorem refill_bucket (a : ExactAllowance) {now later : Rat} (h : now ≤ later) :
    (a.bucket now).refill later = a.bucket later := by
  have gain : 0 ≤ (later - now) * a.rate := mul_nonneg (sub_nonneg.2 h) a.rate_pos.le
  rw [((kept_bucket a now).mono h).refill_eq]
  simp only [ExactAllowance.bucket, full, Bucket.mk.injEq, true_and, and_true]
  exact min_eq_right (by linarith)

/-- Taking leaves what was there, less one token if one was taken. -/
theorem tokens_tryTake (b : Bucket Rat) (now : Rat) :
    (b.tryTake now).2.tokens =
      (b.refill now).tokens - if (b.tryTake now).1 = true then 1 else 0 := by
  by_cases whole : 1 ≤ (b.refill now).tokens
  · simp [tryTake_admitted whole]
  · simp [tryTake_denied whole]

end Bucket

end Gatehouse.Throttle
