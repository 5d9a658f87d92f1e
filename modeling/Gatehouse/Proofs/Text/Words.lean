import Gatehouse.Text.Blank

/-!
# Words, both ways

Texts without blank characters are the words of the text that joins them with blanks.

Main results:

- `wordsList_append_cons`: a run of other characters is a word up to the next blank.
- `words_intercalate`: joined words come apart again.
-/

namespace Gatehouse.Text

/-- A text that is one word: not empty and without blank characters. -/
def IsWord (s : String) : Prop :=
  s ≠ "" ∧ ∀ c ∈ s.toList, isBlank c = false

/-- A run of characters outside the set is the only word of itself. -/
theorem wordsList_of_forall {p : Char → Bool} {cs : List Char} (hne : cs ≠ [])
    (h : ∀ c ∈ cs, p c = false) : wordsList p cs = [cs] := by
  induction cs with
  | nil => exact absurd rfl hne
  | cons c cs ih =>
    have first : p c = false := h c List.mem_cons_self
    cases cs with
    | nil => simp [wordsList, first]
    | cons d ds =>
      have second : p d = false := h d (by simp)
      have step := ih (by simp) fun x hx => h x (List.mem_cons_of_mem _ hx)
      rw [wordsList]
      simp only [first, second, step, Bool.false_eq_true, if_false]

/-- A run of characters outside the set ends at the next character of the set. -/
theorem wordsList_append_cons {p : Char → Bool} {cs : List Char} (hne : cs ≠ [])
    (h : ∀ c ∈ cs, p c = false) {b : Char} (hb : p b = true) (rest : List Char) :
    wordsList p (cs ++ b :: rest) = cs :: wordsList p rest := by
  have skip : wordsList p (b :: rest) = wordsList p rest := by
    cases rest <;> simp [wordsList, hb]
  induction cs with
  | nil => exact absurd rfl hne
  | cons c cs ih =>
    have first : p c = false := h c List.mem_cons_self
    cases cs with
    | nil =>
      rw [List.cons_append, List.nil_append, wordsList]
      simp only [first, hb, skip, Bool.false_eq_true, if_false, if_true]
    | cons d ds =>
      have second : p d = false := h d (by simp)
      have step := ih (by simp) fun x hx => h x (List.mem_cons_of_mem _ hx)
      rw [List.cons_append] at step
      rw [List.cons_append, List.cons_append, wordsList]
      simp only [first, second, step, Bool.false_eq_true, if_false]

/-- Nothing is trimmed off a text without blank characters. -/
theorem trim_of_forall {s : String} (h : ∀ c ∈ s.toList, isBlank c = false) :
    trim isBlank s = s := by
  have kept {cs : List Char} (hc : ∀ c ∈ cs, isBlank c = false) : cs.dropWhile isBlank = cs := by
    cases cs with
    | nil => rfl
    | cons c cs => simp [hc c List.mem_cons_self]
  have kept' : s.toList.reverse.dropWhile isBlank = s.toList.reverse :=
    kept fun c hc => h c (List.mem_reverse.1 hc)
  rw [trim, trimList, kept h, kept', List.reverse_reverse, String.ofList_toList]

/-- A word is not an empty list of characters. -/
theorem IsWord.toList_ne_nil {s : String} (h : IsWord s) : s.toList ≠ [] := by
  intro hs
  exact h.1 (String.toList_eq_nil_iff.1 hs)

/-- Words that are joined with blanks come apart again. -/
theorem words_intercalate {xs : List String} (h : ∀ x ∈ xs, IsWord x) :
    words (" ".intercalate xs) = xs := by
  induction xs with
  | nil => simp [words, wordsList]
  | cons x xs ih =>
    have word : IsWord x := h x List.mem_cons_self
    cases xs with
    | nil =>
      rw [String.intercalate_singleton, words, wordsList_of_forall word.toList_ne_nil word.2]
      simp
    | cons y ys =>
      have rest := ih fun z hz => h z (List.mem_cons_of_mem _ hz)
      have text : (" ".intercalate (x :: y :: ys)).toList =
          x.toList ++ ' ' :: (" ".intercalate (y :: ys)).toList := by
        simp [String.intercalate_cons_cons]
      rw [words] at rest ⊢
      rw [text, wordsList_append_cons word.toList_ne_nil word.2 (by decide), List.map_cons, rest,
        String.ofList_toList]

end Gatehouse.Text
