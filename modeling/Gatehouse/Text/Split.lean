/-!
# Cutting texts

Texts are cut at every occurrence of a character, or at the first one only.

Main results:

- `join_pieces`: putting the separator back between the pieces gives the text.
- `not_mem_of_mem_pieces`: no piece contains the separator.
- `pieces_append_cons`: the pieces of two texts with the separator between them.
- `cutFirst?_append`: a text is cut behind a part that does not contain the separator.
-/

namespace Gatehouse.Text

/-! ## Pieces -/

/-- The pieces of a text between the occurrences of a character. -/
def pieces (sep : Char) : List Char → List (List Char)
  | [] => [[]]
  | c :: cs =>
    if c = sep then [] :: pieces sep cs
    else
      match pieces sep cs with
      | [] => [[c]]
      | w :: ws => (c :: w) :: ws

/-- Pieces with a character between them. -/
def join (sep : Char) : List (List Char) → List Char
  | [] => []
  | [w] => w
  | w :: ws => w ++ sep :: join sep ws

/-- A text has at least one piece. -/
theorem pieces_ne_nil (sep : Char) (cs : List Char) : pieces sep cs ≠ [] := by
  cases cs with
  | nil => simp [pieces]
  | cons c cs =>
    unfold pieces
    split
    · simp
    · split <;> simp

/-- Joining the pieces of a text recovers the text. -/
theorem join_pieces (sep : Char) (cs : List Char) : join sep (pieces sep cs) = cs := by
  induction cs with
  | nil => rfl
  | cons c cs ih =>
    unfold pieces
    split
    · next h =>
      have hne := pieces_ne_nil sep cs
      cases hp : pieces sep cs with
      | nil => exact absurd hp hne
      | cons w ws =>
        rw [hp] at ih
        simp [join, ih, h]
    · split
      · next hp => exact absurd hp (pieces_ne_nil sep cs)
      · next w ws hp =>
        rw [hp] at ih
        cases ws with
        | nil => simpa [join] using ih
        | cons v vs => simpa [join] using ih

/-- No piece contains the separator. -/
theorem not_mem_of_mem_pieces {sep : Char} {cs w : List Char} (h : w ∈ pieces sep cs) :
    sep ∉ w := by
  induction cs generalizing w with
  | nil =>
    simp only [pieces, List.mem_singleton] at h
    simp [h]
  | cons c cs ih =>
    unfold pieces at h
    split at h
    · rcases List.mem_cons.1 h with rfl | h
      · simp
      · exact ih h
    · next hc =>
      split at h
      · simp only [List.mem_singleton] at h
        subst h
        simpa using Ne.symm hc
      · next v vs hp =>
        rcases List.mem_cons.1 h with rfl | h
        · have := ih (w := v) (by rw [hp]; exact List.mem_cons_self)
          simpa [Ne.symm hc] using this
        · exact ih (by rw [hp]; exact List.mem_cons_of_mem _ h)

/-- A text without the separator is its only piece. -/
theorem pieces_of_not_mem {sep : Char} {cs : List Char} (h : sep ∉ cs) : pieces sep cs = [cs] := by
  induction cs with
  | nil => rfl
  | cons c cs ih =>
    simp only [List.mem_cons, not_or] at h
    simp [pieces, Ne.symm h.1, ih h.2]

/-- The first piece ends at the first separator. -/
theorem pieces_append_cons {sep : Char} {cs : List Char} (h : sep ∉ cs) (rest : List Char) :
    pieces sep (cs ++ sep :: rest) = cs :: pieces sep rest := by
  induction cs with
  | nil => simp [pieces]
  | cons c cs ih =>
    simp only [List.mem_cons, not_or] at h
    simp [pieces, Ne.symm h.1, ih h.2]

/-! ## Cutting once -/

/-- The parts before and after the first occurrence of a character, if there is one. -/
def cutFirst? (sep : Char) : List Char → Option (List Char × List Char)
  | [] => none
  | c :: cs =>
    if c = sep then some ([], cs)
    else (cutFirst? sep cs).map fun r => (c :: r.1, r.2)

/-- A cut passes over characters that are not the separator. -/
theorem cutFirst?_append {sep : Char} {cs : List Char} (h : sep ∉ cs) (rest : List Char) :
    cutFirst? sep (cs ++ rest) = (cutFirst? sep rest).map fun r => (cs ++ r.1, r.2) := by
  induction cs with
  | nil => simp
  | cons c cs ih =>
    simp only [List.mem_cons, not_or] at h
    simp only [List.cons_append, cutFirst?, Ne.symm h.1, if_false, ih h.2, Option.map_map]
    rfl

/-- A cut loses only the separator. -/
theorem eq_of_cutFirst? {sep : Char} {cs : List Char} {r : List Char × List Char}
    (h : cutFirst? sep cs = some r) : cs = r.1 ++ sep :: r.2 := by
  induction cs generalizing r with
  | nil => simp [cutFirst?] at h
  | cons c cs ih =>
    unfold cutFirst? at h
    split at h
    · next hc =>
      simp only [Option.some.injEq] at h
      simp [← h, hc]
    · rcases Option.map_eq_some_iff.1 h with ⟨r', hr', rfl⟩
      simp [ih hr']

/-! ## Occurrences -/

/-- A text occurs inside another. -/
def occurs (needle : List Char) : List Char → Bool
  | [] => needle.isEmpty
  | c :: cs => needle.isPrefixOf (c :: cs) || occurs needle cs

end Gatehouse.Text
