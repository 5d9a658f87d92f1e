import Gatehouse.Form.Violation
import Gatehouse.Json.Basic
import Gatehouse.Text.Blank
import Gatehouse.Text.Encoding
import Gatehouse.Text.Split

/-!
# Text fields

The rules for one text field of a form.  A field is trimmed if its form says so;
then its length is checked, then its shape if it is an address, and last the
number of its bytes if it is a password.  The first rule that is broken is
reported.

A text is made of Unicode scalar values here.  A checker whose texts can hold half of a
surrogate pair has one more way to find fault with them, as texts that cannot be encoded;
the reader of bodies has put a character in the place of such a half before it comes to a
check.

Main results:

- `TextRule.check_ok_iff`: which values a rule accepts, and as what text.
- `isAddress_iff`: an address is two non-empty parts around one `@`, without white space.
-/

namespace Gatehouse.Form

open Gatehouse.Text

/-! ## Addresses -/

/-- An address is two non-empty parts around one `@`, without white space. -/
def isAddress (s : String) : Bool :=
  match pieces '@' s.toList with
  | [a, b] => !a.isEmpty && !b.isEmpty && !s.toList.any isSpace
  | _ => false

/-- An address has one `@` with something on either side and no white space. -/
theorem isAddress_iff {s : String} :
    isAddress s = true ↔
      ∃ a b, s.toList = a ++ '@' :: b ∧ a ≠ [] ∧ b ≠ [] ∧ '@' ∉ a ∧ '@' ∉ b ∧
        ∀ c ∈ s.toList, isSpace c = false := by
  unfold isAddress
  constructor
  · intro h
    split at h
    · next a b hp =>
      have hj := join_pieces '@' s.toList
      rw [hp] at hj
      simp only [join] at hj
      have ha : '@' ∉ a := not_mem_of_mem_pieces (by rw [hp]; simp)
      have hb : '@' ∉ b := not_mem_of_mem_pieces (by rw [hp]; simp)
      simp only [Bool.and_eq_true, Bool.not_eq_true', List.isEmpty_eq_false_iff,
        List.any_eq_false] at h
      exact ⟨a, b, hj.symm, h.1.1, h.1.2, ha, hb, fun c hc => by simpa using h.2 c hc⟩
    · exact absurd h (by simp)
  · rintro ⟨a, b, hs, ha, hb, hna, hnb, hsp⟩
    have hp : pieces '@' s.toList = [a, b] := by
      rw [hs, pieces_append_cons hna, pieces_of_not_mem hnb]
    rw [hp]
    have hnone : s.toList.any isSpace = false := List.any_eq_false.2 fun c hc => by simp [hsp c hc]
    simp [ha, hb, hnone]

/-! ## Rules -/

/-- The rules for a text field. -/
structure TextRule where
  /-- The field is trimmed of white space first. -/
  trimmed : Bool
  /-- The least number of characters. -/
  least : Nat
  /-- The greatest number of characters, if there is one. -/
  most : Option Nat
  /-- The field is an address. -/
  address : Bool
  /-- The field is a password, of which a digest can be made. -/
  password : Bool
deriving DecidableEq, Repr

namespace TextRule

/-- A text whose length is bounded. -/
def bounded (least most : Nat) : TextRule :=
  ⟨false, least, some most, false, false⟩

/-- A password of at least so many characters. -/
def secret (least : Nat) : TextRule :=
  ⟨false, least, none, false, true⟩

/-- The text that a rule judges. -/
def prepare (r : TextRule) (s : String) : String :=
  if r.trimmed then trim isSpace s else s

/-- The first rule that a text breaks, if there is one. -/
def violation? (r : TextRule) (t : String) : Option Violation :=
  if t.length < r.least then some (.tooShort r.least)
  else
    match r.most with
    | some most =>
      if most < t.length then some (.tooLong most) else shape? t
    | none => shape? t
where
  shape? (t : String) : Option Violation :=
    if r.address && !isAddress t then some .notAddress
    else if r.password && maxSecretBytes < (utf8 t).length then some .tooManyBytes
    else none

/-- The text of a field, or the first rule that it breaks.  That a text can be encoded is no rule:
every text can. -/
def check (r : TextRule) : Option Json → Except Violation String
  | none => .error .missing
  | some (.string s) =>
    match r.violation? (r.prepare s) with
    | none => .ok (r.prepare s)
    | some v => .error v
  | some _ => .error .notText

/-- A field passes exactly when it is a text that keeps its rule once it is prepared. -/
theorem check_ok_iff {r : TextRule} {v : Option Json} {t : String} :
    r.check v = .ok t ↔
      ∃ s, v = some (.string s) ∧ t = r.prepare s ∧ r.violation? t = none := by
  unfold check
  split
  · simp
  · next s =>
    split
    · next h =>
      simp only [Except.ok.injEq, Option.some.injEq, Json.string.injEq]
      exact ⟨fun e => ⟨s, rfl, e.symm, e ▸ h⟩, fun ⟨_, hs, ht, _⟩ => by rw [ht, hs]⟩
    · next v h =>
      simp only [reduceCtorEq, Option.some.injEq, Json.string.injEq, false_iff, not_exists]
      rintro x ⟨rfl, rfl, hn⟩
      simp [hn] at h
  · next v hne =>
    simp only [reduceCtorEq, Option.some.injEq, false_iff, not_exists]
    rintro s ⟨h, _⟩
    exact hne s h

end TextRule

end Gatehouse.Form
