import Gatehouse.Failure.Basic
import Gatehouse.Number.Quantity
import Gatehouse.Throttle.Limiter

/-!
# Allowances

An allowance says what every client may do: the capacity of its bucket, the
tokens that the bucket regains in a stretch of time, and how many clients are
kept track of.  All of these are positive.

The capacity may be an integer that is out of the range of floating point
numbers.  Such a limiter can be set up, but no client gets a bucket from it.

Main results:

- `Allowance.limiter`: the limiter that an allowance describes.
- `Allowance.attempt_of_fits`: a capacity within range leaves the limiter to decide.
-/

namespace Gatehouse.Throttle

open Gatehouse.Number

/-- What every client is allowed. -/
structure Allowance where
  capacity : Quantity
  /-- The tokens that a bucket regains within `refillSeconds`. -/
  refillTokens : Quantity
  refillSeconds : Quantity
  maxBuckets : Quantity
deriving Repr

namespace Allowance

/-- No part of an allowance is zero or below. -/
def isValid (a : Allowance) : Bool :=
  !(a.capacity.isAtMostZero || a.refillTokens.isAtMostZero || a.refillSeconds.isAtMostZero ||
    a.maxBuckets.isAtMostZero)

/-- The limiter of an allowance, before anyone called. -/
def limiter (a : Allowance) : Except Fault (Limiter Float) :=
  if a.isValid then
    match a.refillTokens.over? a.refillSeconds with
    | some rate => .ok (.empty a.capacity.toFloat rate a.maxBuckets.ceiling)
    | none => .error .overflow
  else .error .limiterParameters

/-- A full bucket of an allowance that regains tokens at a given rate. -/
def bucket (capacity rate now : Quantity) : Except Fault (Bucket Float) :=
  match capacity.toFloat?, rate.toFloat?, now.toFloat? with
  | some c, some r, some t => .ok (.full c r t)
  | _, _, _ => .error .overflow

/-- The buckets of an allowance have a capacity within range. -/
def fits (a : Allowance) : Bool :=
  a.capacity.toFloat?.isSome

/-- The answer of a limiter, unless it would have to make a bucket that does not fit. -/
def guard {β : Type} (a : Allowance) (answer : β) : Except Fault β :=
  if a.fits then .ok answer else .error .overflow

/-- Admit a call of a key if its bucket has a whole token. -/
def attempt (a : Allowance) (l : Limiter Float) (key : String) (now : Float) :
    Except Fault (Bool × Limiter Float) :=
  a.guard (l.attempt key now)

/-- Like an attempt, but a call that is not admitted is refused. -/
def enforce (a : Allowance) (l : Limiter Float) (key : String) (now : Float) :
    Except Fault (Except Cause Unit × Limiter Float) :=
  a.guard (l.enforce key now)

/-- Admit a call of a key while a sweep runs between the lookup and the take. -/
def admitRaced (a : Allowance) (l : Limiter Float) (key : String) (now : Float) :
    Except Fault (Bool × Nat × Limiter Float) :=
  a.guard (l.admitRaced key now)

/-- An allowance whose capacity fits leaves the decision to the limiter. -/
theorem attempt_of_fits {a : Allowance} (h : a.fits = true) (l : Limiter Float) (key : String)
    (now : Float) : a.attempt l key now = .ok (l.attempt key now) := by
  simp [attempt, guard, h]

end Allowance

end Gatehouse.Throttle
