import Gatehouse.Keyed
import Gatehouse.Text.Split

/-!
# References in texts

A text may refer to a variable as `$` and its name in braces; a reference may give
a default after `:-`, which stands in for a variable that is not known.  A
variable that is known but has no value stands for nothing.

Main results:

- `expandList_of_no_dollar`: a text without a dollar sign stays as it is.
- `reference?_shorter`: a reference takes up part of the text.
-/

namespace Gatehouse.Settings

open Gatehouse.Text

/-- A reference to a variable. -/
structure Reference where
  name : List Char
  /-- What stands in for an unknown variable. -/
  fallback : List Char
deriving DecidableEq, Repr

/-- The reference whose text after `$` and the opening brace is given, with what follows it. -/
def reference? (cs : List Char) : Option (Reference × List Char) :=
  let name := cs.takeWhile fun c => c ≠ '}' && c ≠ ':'
  match cs.dropWhile fun c => c ≠ '}' && c ≠ ':' with
  | '}' :: rest => some (⟨name, []⟩, rest)
  | ':' :: '-' :: more => (cutFirst? '}' more).map fun r => (⟨name, r.1⟩, r.2)
  | _ => none

/-- Reading a reference consumes characters. -/
theorem reference?_shorter {cs : List Char} {r : Reference × List Char}
    (h : reference? cs = some r) : r.2.length < cs.length := by
  have hle := (List.dropWhile_suffix (l := cs) fun c => c ≠ '}' && c ≠ ':').length_le
  simp only [reference?] at h
  split at h
  · next rest hd =>
    rw [hd] at hle
    simp only [Option.some.injEq] at h
    simp only [← h, List.length_cons] at hle ⊢
    omega
  · next more hd =>
    rcases Option.map_eq_some_iff.1 h with ⟨r', hr', rfl⟩
    have hmore := congrArg List.length (eq_of_cutFirst? hr')
    rw [hd] at hle
    simp only [List.length_cons, List.length_append] at hle hmore ⊢
    omega
  · simp at h

/-- What a reference stands for. -/
def Reference.value (r : Reference) (known : String → Option (Option String)) : List Char :=
  match known (String.ofList r.name) with
  | none => r.fallback
  | some none => []
  | some (some v) => v.toList

/-- A text with its references replaced. -/
def expandList (known : String → Option (Option String)) (cs : List Char) : List Char :=
  match cs with
  | [] => []
  | '$' :: '{' :: rest =>
    match _found : reference? rest with
    | some (r, after) => r.value known ++ expandList known after
    | none => '$' :: expandList known ('{' :: rest)
  | c :: rest => c :: expandList known rest
termination_by cs.length
decreasing_by
  · have hlt := reference?_shorter _found
    simp only [List.length_cons] at hlt ⊢
    omega
  · simp
  · simp

/-- A text without a dollar sign expands to itself. -/
theorem expandList_of_no_dollar {known : String → Option (Option String)} {cs : List Char}
    (h : '$' ∉ cs) : expandList known cs = cs := by
  induction cs with
  | nil => simp [expandList]
  | cons c rest ih =>
    simp only [List.mem_cons, not_or] at h
    rw [expandList]
    · rw [ih h.2]
    · rintro _ rfl _
      exact h.1 rfl

/-- A string with its references replaced. -/
def expand (known : String → Option (Option String)) (s : String) : String :=
  String.ofList (expandList known s.toList)

/-! ## Assignments -/

/-- The variables of a process and those assigned so far, which hide the former. -/
def scope (environment : Keyed String) (assigned : Keyed (Option String)) (name : String) :
    Option (Option String) :=
  (Keyed.lookup assigned name).or ((Keyed.lookup environment name).map some)

/-- Make assignments one after another; each value may refer to the earlier ones. -/
def assignAll (environment : Keyed String) (assignments : Keyed (Option String)) :
    Keyed (Option String) :=
  assignments.foldl
    (fun assigned a => Keyed.put assigned a.1 (a.2.map (expand (scope environment assigned)))) []

end Gatehouse.Settings
