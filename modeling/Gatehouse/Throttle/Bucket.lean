/-!
# Token buckets

A bucket holds tokens up to its capacity and refills continuously at a constant
rate.  Refilling is lazy: each operation first credits the time since the last
one.  A denied take removes nothing, so that denied calls do not delay recovery.
The arithmetic is a parameter: floating point numbers when the service runs,
exact rationals when its laws are stated.

Main results:

- `refill_of_not_later`: a clock that has not moved forward changes nothing.
- `tryTake_denied`: a denied take leaves the refilled bucket.
-/

namespace Gatehouse.Throttle

/-- One client's allowance. -/
structure Bucket (α : Type) where
  capacity : α
  /-- Tokens gained per second. -/
  rate : α
  tokens : α
  lastRefill : α
  /-- The bucket has left its table, and nothing may be taken from it any more. -/
  evicted : Bool
deriving DecidableEq, Repr

namespace Bucket

variable {α : Type} [Add α] [Sub α] [Mul α] [LT α] [DecidableLT α] [LE α] [DecidableLE α]
  [OfNat α 0] [OfNat α 1]

/-- A full bucket. -/
def full (capacity rate now : α) : Bucket α :=
  ⟨capacity, rate, capacity, now, false⟩

/-- A value, but no more than the cap. -/
def capped (cap x : α) : α :=
  if x < cap then x else cap

/-- Credit the time since the last refill. -/
def refill (b : Bucket α) (now : α) : Bucket α :=
  let elapsed := now - b.lastRefill
  if 0 < elapsed then
    { b with tokens := capped b.capacity (b.tokens + elapsed * b.rate), lastRefill := now }
  else b

/-- Refill, then take one whole token if there is one. -/
def tryTake (b : Bucket α) (now : α) : Bool × Bucket α :=
  let r := b.refill now
  if 1 ≤ r.tokens then (true, { r with tokens := r.tokens - 1 }) else (false, r)

/-- Refill, then tell whether the bucket is at capacity. -/
def isFull (b : Bucket α) (now : α) : Bool × Bucket α :=
  let r := b.refill now
  (decide (r.capacity ≤ r.tokens), r)

omit [LE α] [DecidableLE α] [OfNat α 1] in
/-- A bucket is not refilled while its clock does not advance. -/
theorem refill_of_not_later {b : Bucket α} {now : α} (h : ¬ 0 < now - b.lastRefill) :
    b.refill now = b := by
  simp [refill, h]

/-- Without a whole token a bucket is only refilled. -/
theorem tryTake_denied {b : Bucket α} {now : α} (h : ¬ 1 ≤ (b.refill now).tokens) :
    b.tryTake now = (false, b.refill now) := by
  simp [tryTake, h]

/-- With a whole token a bucket is refilled and gives one away. -/
theorem tryTake_admitted {b : Bucket α} {now : α} (h : 1 ≤ (b.refill now).tokens) :
    b.tryTake now = (true, { b.refill now with tokens := (b.refill now).tokens - 1 }) := by
  simp [tryTake, h]

omit [OfNat α 1] in
/-- Asking whether a bucket is full refills it. -/
@[simp]
theorem isFull_snd (b : Bucket α) (now : α) : (b.isFull now).2 = b.refill now := rfl

end Bucket

end Gatehouse.Throttle
