/-!
# Blank characters and trimming

Two sets of blank characters are in use.  Form fields and number texts are
trimmed of the Unicode `White_Space` characters; header values, bearer tokens
and names are trimmed of those and of the four ASCII separators
U+001C to U+001F.

Main results:

- `isBlank_of_isSpace`: the wide set contains the narrow one.
- `isBlank_of_isWhitespace`: it contains the white space of core's `Char`.
- `trimList_eq_nil_iff`: trimming leaves nothing exactly of a text whose
  characters all belong to the set.
-/

namespace Gatehouse.Text

/-! ## The two sets -/

/-- The characters with the Unicode property `White_Space`. -/
def isSpace (c : Char) : Bool :=
  let n := c.toNat
  (0x09 ≤ n && n ≤ 0x0d) || n == 0x20 || n == 0x85 || n == 0xa0 || n == 0x1680 ||
    (0x2000 ≤ n && n ≤ 0x200a) || n == 0x2028 || n == 0x2029 || n == 0x202f ||
    n == 0x205f || n == 0x3000

/-- White space together with the ASCII file, group, record and unit separators. -/
def isBlank (c : Char) : Bool :=
  isSpace c || (0x1c ≤ c.toNat && c.toNat ≤ 0x1f)

/-- White space is blank. -/
theorem isBlank_of_isSpace {c : Char} (h : isSpace c = true) : isBlank c = true := by
  simp [isBlank, h]

/-- The ASCII white space is blank. -/
theorem isBlank_of_isWhitespace {c : Char} (h : c.isWhitespace = true) : isBlank c = true := by
  simp only [Char.isWhitespace, Bool.or_eq_true, decide_eq_true_eq] at h
  rcases h with ((rfl | rfl) | rfl) | rfl <;> decide

/-! ## Trimming -/

/-- Remove the characters of a set from both ends of a text. -/
def trimList (p : Char → Bool) (cs : List Char) : List Char :=
  ((cs.dropWhile p).reverse.dropWhile p).reverse

/-- Trimming leaves nothing exactly when every character is trimmed. -/
theorem trimList_eq_nil_iff {p : Char → Bool} {cs : List Char} :
    trimList p cs = [] ↔ ∀ c ∈ cs, p c = true := by
  have key : ∀ ds : List Char, ds.dropWhile p = [] ↔ ∀ c ∈ ds, p c = true := by
    intro ds
    induction ds with
    | nil => simp
    | cons d ds ih => by_cases h : p d = true <;> simp [List.dropWhile, h, ih]
  unfold trimList
  rw [List.reverse_eq_nil_iff, key]
  constructor
  · intro h c hc
    rcases hd : cs.dropWhile p with _ | ⟨d, ds⟩
    · exact (key cs).1 hd c hc
    · have hp : p d = true := h d (by rw [hd]; simp)
      have hn := List.head?_dropWhile_not p cs
      rw [hd] at hn
      simp [hp] at hn
  · intro h c hc
    rw [List.mem_reverse] at hc
    exact h c ((List.dropWhile_suffix p).subset hc)

/-- Remove the characters of a set from both ends of a string. -/
def trim (p : Char → Bool) (s : String) : String :=
  String.ofList (trimList p s.toList)

/-- A string is blank when nothing of it survives trimming. -/
def allBlank (s : String) : Bool :=
  s.toList.all isBlank

/-! ## Words -/

/-- The maximal runs of characters outside the set, in order. -/
def wordsList (p : Char → Bool) : List Char → List (List Char)
  | [] => []
  | c :: cs =>
    if p c then wordsList p cs
    else
      match cs with
      | [] => [[c]]
      | d :: _ =>
        if p d then [c] :: wordsList p cs
        else
          match wordsList p cs with
          | [] => [[c]]
          | w :: ws => (c :: w) :: ws

/-- The words of a string, separated by runs of blank characters. -/
def words (s : String) : List String :=
  (wordsList isBlank s.toList).map String.ofList

end Gatehouse.Text
