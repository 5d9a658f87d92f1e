/-!
# Signed words

Storage and the calendar keep integers in words of a fixed number of bits, in
two's complement.  An integer outside a word's range is not stored.

Main results:

- `isWord`: an integer fits into a word.
- `isWord_mono`: a wider word holds whatever a narrower one holds.
-/

namespace Gatehouse.Number

/-- The first positive integer that a signed word of `bits` bits does not hold. -/
def wordBound (bits : Nat) : Nat :=
  Nat.pow 2 (bits - 1)

/-- An integer fits into a signed word of `bits` bits. -/
def isWord (bits : Nat) (n : Int) : Bool :=
  -(wordBound bits : Int) ≤ n && n < wordBound bits

/-- The bound grows with the number of bits. -/
theorem wordBound_mono {a b : Nat} (h : a ≤ b) : wordBound a ≤ wordBound b :=
  Nat.pow_le_pow_right (by decide) (Nat.sub_le_sub_right h 1)

/-- A wider word holds whatever a narrower one holds. -/
theorem isWord_mono {a b : Nat} {n : Int} (h : a ≤ b) (hn : isWord a n = true) :
    isWord b n = true := by
  have hb := wordBound_mono h
  simp only [isWord, Bool.and_eq_true, decide_eq_true_eq] at hn ⊢
  omega

end Gatehouse.Number
