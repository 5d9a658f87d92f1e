/-!
# Letter case

Names that are compared without regard to case are put in lower case first.  Where
one of two names is ASCII only its letters matter, and the Kelvin sign, the one
character outside ASCII whose lower case is a letter of ASCII.

Main results:

- `lower_lower`: a text in lower case stays as it is.
- `fold_of_ascii`: on ASCII texts both ways of lowering agree.
-/

namespace Gatehouse.Text

/-- A text with its ASCII letters in lower case. -/
def lower (s : String) : String :=
  String.ofList (s.toList.map Char.toLower)

/-- A character in lower case, as far as its lower case is in ASCII. -/
def foldChar (c : Char) : Char :=
  if c = '\u212a' then 'k' else c.toLower

/-- A text with all letters in lower case whose lower case is in ASCII. -/
def fold (s : String) : String :=
  String.ofList (s.toList.map foldChar)

/-- Lowering a character twice is lowering it once. -/
theorem toLower_toLower (c : Char) : c.toLower.toLower = c.toLower := by
  unfold Char.toLower
  split
  · next h =>
    split
    · next h2 =>
      exfalso
      have hlo := h.1
      have hhi := h.2
      have h2hi := h2.2
      simp only [UInt32.le_iff_toNat_le, UInt32.toNat_add] at hlo hhi h2hi
      simp at hlo hhi h2hi
      omega
    · rfl
  · rfl

/-- Lowering a text twice is lowering it once. -/
theorem lower_lower (s : String) : lower (lower s) = lower s := by
  unfold lower
  rw [String.toList_ofList, List.map_map]
  exact congrArg String.ofList (List.map_congr_left fun c _ => toLower_toLower c)

/-- An ASCII text is folded by lowering its letters. -/
theorem fold_of_ascii {s : String} (h : ∀ c ∈ s.toList, c.toNat < 0x80) : fold s = lower s := by
  refine congrArg String.ofList (List.map_congr_left fun c hc => ?_)
  have hk : c ≠ '\u212a' := by
    rintro rfl
    exact absurd (h _ hc) (by decide)
  simp [foldChar, hk]

end Gatehouse.Text
