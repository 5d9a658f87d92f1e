import Gatehouse.Json.Reader

/-!
# Reading nested texts

How much nesting is read depends on who reads.  It decides which texts are read, and not what is
read of them: a text that is read with some nesting has the same value wherever more is read.  A
text that opens more lists than are read is refused for its depth, whatever follows.

Main results:

- `readsOn`: what was read is read in the same way with one more level.
- `read_of_le`: what is read with some nesting is read in the same way with more.
- `read_brackets`: a text that opens too many lists is too deep.
-/

namespace Gatehouse.Json

/-! ## More nesting -/

/-- With the given fuel, whatever is read at some depth is read in the same way one level deeper:
values, items and fields. -/
structure ReadsOn (limit : Option Nat) (fuel : Nat) : Prop where
  value : ∀ {depth : Nat} {cs : List Char} {r : Json × List Char},
    readValue limit fuel depth cs = .ok r → readValue limit fuel (depth + 1) cs = .ok r
  items : ∀ {depth : Nat} {cs : List Char} {r : List Json × List Char},
    readItems limit fuel depth cs = .ok r → readItems limit fuel (depth + 1) cs = .ok r
  fields : ∀ {depth : Nat} {seen : Keyed Json} {cs : List Char} {r : Keyed Json × List Char},
    readFields limit fuel depth seen cs = .ok r →
      readFields limit fuel (depth + 1) seen cs = .ok r

/-- What is made of a step that succeeds is the same where the step is. -/
theorem map_eq_ok_of_imp {α β : Type} {x y : Step α} {f : α × List Char → β × List Char}
    {r : β × List Char} (same : ∀ {a}, x = .ok a → y = .ok a) (h : x.map f = .ok r) :
    y.map f = .ok r := by
  cases hx : x with
  | error e =>
    rw [hx] at h
    cases h
  | ok a =>
    rw [hx] at h
    rw [same hx]
    exact h

section Steps

variable {limit : Option Nat} {fuel depth : Nat}

/-- Only lists and objects open a level. -/
theorem ReadsOn.readValue_succ (inner : ReadsOn limit fuel) {cs : List Char}
    {r : Json × List Char} (h : readValue limit (fuel + 1) depth cs = .ok r) :
    readValue limit (fuel + 1) (depth + 1) cs = .ok r := by
  unfold readValue at h ⊢
  split at h
  · exact h
  · split at h
    · cases h
    · next closed =>
      rw [closed]
      exact h
    · exact map_eq_ok_of_imp inner.fields h
  · split at h
    · cases h
    · next closed =>
      rw [closed]
      exact h
    · exact map_eq_ok_of_imp inner.items h
  · exact h

/-- Items are read at the depth of their list. -/
theorem ReadsOn.readItems_succ (inner : ReadsOn limit fuel) {cs : List Char}
    {r : List Json × List Char} (h : readItems limit (fuel + 1) depth cs = .ok r) :
    readItems limit (fuel + 1) (depth + 1) cs = .ok r := by
  unfold readItems at h ⊢
  split at h
  · cases h
  · next v rest read =>
    rw [inner.value read]
    dsimp only
    split at h
    · exact h
    · next more _ => exact map_eq_ok_of_imp inner.items h
    · cases h

/-- Fields are read at the depth of their object. -/
theorem ReadsOn.readFields_succ (inner : ReadsOn limit fuel) {seen : Keyed Json} {cs : List Char}
    {r : Keyed Json × List Char} (h : readFields limit (fuel + 1) depth seen cs = .ok r) :
    readFields limit (fuel + 1) (depth + 1) seen cs = .ok r := by
  unfold readFields at h ⊢
  split at h
  · next body =>
    split at h
    · cases h
    · split at h
      · split at h
        · cases h
        · next v rest read =>
          rw [inner.value read]
          dsimp only at h ⊢
          split at h
          · exact h
          · exact inner.fields h
          · cases h
      · cases h
  · cases h

end Steps

/-- With one more level, what was read is read in the same way. -/
theorem readsOn (limit : Option Nat) (fuel : Nat) : ReadsOn limit fuel := by
  induction fuel with
  | zero =>
    constructor
    · intro depth cs r h
      cases h
    · intro depth cs r h
      cases h
    · intro depth seen cs r h
      cases h
  | succ fuel inner =>
    exact ⟨inner.readValue_succ, inner.readItems_succ, inner.readFields_succ⟩

/-! ## Whole texts -/

section Texts

variable {nesting more : Nat} {s : String} {v : Json}

/-- A text that is read is read in the same way with one more level. -/
theorem read_succ (h : read nesting s = .ok v) : read (nesting + 1) s = .ok v := by
  unfold read readList at h ⊢
  dsimp only at h ⊢
  split at h
  · cases h
  · next unmarked =>
    rw [if_neg unmarked]
    split at h
    · cases h
    · next value =>
      rw [(readsOn _ _).value value]
      exact h

/-- A text that is read is read in the same way with more nesting. -/
theorem read_of_le (le : nesting ≤ more) (h : read nesting s = .ok v) : read more s = .ok v := by
  induction le with
  | refl => exact h
  | step _ ih => exact read_succ ih

end Texts

/-! ## Too much nesting -/

/-- More opening brackets than levels that are read are too deep, whatever follows them. -/
theorem readValue_brackets (limit : Option Nat) (depth extra : Nat) (rest : List Char) :
    readValue limit (2 * depth + 1 + extra) depth
      (List.replicate (depth + 1) '[' ++ rest) = .error .tooDeep := by
  induction depth with
  | zero =>
    rw [show 2 * 0 + 1 + extra = extra + 1 by omega]
    exact readValue_of_depth_zero limit extra rest
  | succ depth ih =>
    have first : skipBlanks (List.replicate (depth + 1) '[' ++ rest) =
        '[' :: (List.replicate depth '[' ++ rest) := by
      rw [List.replicate_succ, List.cons_append, skipBlanks_cons (by decide)]
    rw [List.replicate_succ, List.cons_append] at ih
    rw [show 2 * (depth + 1) + 1 + extra = 2 * depth + 1 + extra + 1 + 1 by omega,
      List.replicate_succ, List.cons_append]
    simp [readValue, readItems, first, ih, Except.map]

/-- A text that opens more lists than are read is not read. -/
theorem read_brackets {nesting n : Nat} (h : nesting + 1 < n) (rest : List Char) :
    read nesting (String.ofList (List.replicate n '[' ++ rest)) = .error .tooDeep := by
  obtain ⟨m, rfl⟩ : ∃ m, n = nesting + 2 + m := ⟨n - (nesting + 2), by omega⟩
  have text : List.replicate (nesting + 2 + m) '[' ++ rest =
      List.replicate (nesting + 2) '[' ++ (List.replicate m '[' ++ rest) := by
    rw [← List.replicate_append_replicate, List.append_assoc]
  have long : (List.replicate (nesting + 2) '[' ++ (List.replicate m '[' ++ rest)).length =
      nesting + 2 + m + rest.length := by
    simp only [List.length_append, List.length_replicate]
    omega
  have first : List.replicate (nesting + 2) '[' ++ (List.replicate m '[' ++ rest) =
      '[' :: (List.replicate (nesting + 1) '[' ++ (List.replicate m '[' ++ rest)) := by
    rw [List.replicate_succ, List.cons_append]
  have deep := readValue_brackets (some integerLimit) (nesting + 1) (2 * (1 + m + rest.length))
    (List.replicate m '[' ++ rest)
  rw [show 2 * (nesting + 1) + 1 + 2 * (1 + m + rest.length) =
    2 * (nesting + 2 + m + rest.length) + 1 by omega, first] at deep
  rw [read, String.toList_ofList, text, readList, long, first, skipBlanks_cons (by decide), deep]
  simp

end Gatehouse.Json
