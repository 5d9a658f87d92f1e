import Gatehouse.Form.Basic
import Gatehouse.Password.Verifier
import Gatehouse.Proofs.Token.RoundTrip

/-!
# What accepted forms hold

The fields of a form that is accepted keep their rules.  A new password is no longer than a secret
may be, so there is a digest of it.  A text that was trimmed begins with a character that is no
white space.  It may be blank all the same, since blanks are more than white space: the four ASCII
separators are not trimmed.

Main results:

- `exists_separator_of_trimmed`: what is left of a text is blank only if it holds a separator.
- `length_of_signup`, `length_of_passwordSetup`, `length_of_passwordChange`: new passwords are no
  longer than a secret may be.
- `trimmed_of_temporaryToken`: the texts of a confirmation were trimmed, and are not empty.
- `SetupGrant.create_ok_iff`: which texts make a grant.
-/

namespace Gatehouse.Text

/-- One of the ASCII file, group, record and unit separators. -/
def isSeparator (c : Char) : Bool :=
  0x1c ≤ c.toNat && c.toNat ≤ 0x1f

/-- A blank character is white space or a separator. -/
theorem isSeparator_of_isBlank {c : Char} (blank : isBlank c = true) (h : isSpace c = false) :
    isSeparator c = true := by
  simpa [isBlank, isSeparator, h] using blank

/-- A text begins with a character outside the set that it was trimmed of. -/
theorem head?_trimList {p : Char → Bool} {cs rest : List Char} {c : Char}
    (h : trimList p cs = c :: rest) : p c = false := by
  -- the first character is the last one that is left at the end
  have kept : (cs.dropWhile p).reverse.dropWhile p = rest.reverse ++ [c] := by
    rw [← List.reverse_reverse ((cs.dropWhile p).reverse.dropWhile p), ← List.reverse_cons, ← h]
    rfl
  have suffix : (cs.dropWhile p).reverse.dropWhile p <:+ (cs.dropWhile p).reverse :=
    List.dropWhile_suffix p
  rw [kept, ← List.reverse_cons, List.reverse_suffix] at suffix
  rcases suffix with ⟨more, text⟩
  have first := List.head?_dropWhile_not p cs
  rw [← text] at first
  simpa using first

/-- A text that was trimmed of white space, of which something is left, is blank only if it begins
with a separator. -/
theorem exists_separator_of_trimmed {s t : String} (trimmed : t = trim isSpace s)
    (nonempty : t ≠ "") (blank : allBlank t = true) : ∃ c ∈ t.toList, isSeparator c = true := by
  have chars : trimList isSpace s.toList = t.toList := by simp [trimmed, trim]
  cases text : t.toList with
  | nil => exact absurd (String.toList_eq_nil_iff.1 text) nonempty
  | cons c rest =>
    have blank : isBlank c = true := by
      simp only [allBlank, text, List.all_cons, Bool.and_eq_true] at blank
      exact blank.1
    exact ⟨c, List.mem_cons_self, isSeparator_of_isBlank blank (head?_trimList (chars.trans text))⟩

end Gatehouse.Text

namespace Gatehouse.Form

open Gatehouse.Text

/-! ## Single fields -/

section Fields

variable {fields : Keyed Json} {name t : String} {rule : TextRule}

/-- A field that is accepted is a text that keeps its rule once it is prepared. -/
theorem field_eq_ok_iff :
    field fields name rule = .ok t ↔
      ∃ s, Keyed.lookup fields name = some (.string s) ∧ t = rule.prepare s ∧
        rule.violation? t = none := by
  rw [← TextRule.check_ok_iff, field, Checked.named]
  cases rule.check (Keyed.lookup fields name) <;> simp [Except.mapError]

/-- A password that is accepted is no longer than a secret may be. -/
theorem length_of_secret {least : Nat} (h : field fields name (.secret least) = .ok t) :
    (utf8 t).length ≤ maxSecretBytes := by
  rcases field_eq_ok_iff.1 h with ⟨s, _, _, kept⟩
  by_contra long
  simp only [TextRule.violation?, TextRule.secret, TextRule.violation?.shape?,
    not_le.1 long] at kept
  split at kept <;> cases kept

/-- A bounded field that is trimmed and accepted was trimmed of white space, and something is
left of it. -/
theorem trimmed_of_bounded {most : Nat}
    (h : field fields name { TextRule.bounded 1 most with trimmed := true } = .ok t) :
    (∃ s, t = trim isSpace s) ∧ t ≠ "" := by
  rcases field_eq_ok_iff.1 h with ⟨s, _, prepared, kept⟩
  refine ⟨⟨s, prepared⟩, ?_⟩
  rintro rfl
  simp [TextRule.violation?, TextRule.bounded] at kept

end Fields

/-! ## Forms -/

/-- A form with two fields is accepted when both are. -/
theorem fields_of_both {α : Type} {a b : Checked String} {fill : String × String → α} {filled : α}
    (h : (Checked.both a b).map fill = .ok filled) :
    ∃ x y, a = .ok x ∧ b = .ok y ∧ fill (x, y) = filled := by
  cases both : Checked.both a b with
  | error findings =>
    rw [both] at h
    cases h
  | ok texts =>
    rw [both] at h
    rcases Checked.both_ok_iff.1 both with ⟨first, second⟩
    exact ⟨texts.1, texts.2, first, second, Except.ok.inj h⟩

section Forms

variable {fields : Keyed Json}

/-- The password of a new member is no longer than a secret may be. -/
theorem length_of_signup {c : Credentials} (h : signup.read fields = .ok c) :
    (utf8 c.password).length ≤ maxSecretBytes := by
  rcases fields_of_both h with ⟨email, password, _, accepted, rfl⟩
  exact length_of_secret accepted

/-- A first password is no longer than a secret may be. -/
theorem length_of_passwordSetup {f : FirstPassword} (h : passwordSetup.read fields = .ok f) :
    (utf8 f.password).length ≤ maxSecretBytes := by
  cases accepted : field fields "password" newPassword with
  | error v =>
    simp only [passwordSetup, accepted] at h
    cases h
  | ok password =>
    simp only [passwordSetup, accepted] at h
    rcases Except.ok.inj h with rfl
    exact length_of_secret accepted

/-- A password that is to replace another is no longer than a secret may be. -/
theorem length_of_passwordChange {f : Replacement} (h : passwordChange.read fields = .ok f) :
    (utf8 f.newPassword).length ≤ maxSecretBytes := by
  rcases fields_of_both h with ⟨current, new, _, accepted, rfl⟩
  exact length_of_secret accepted

/-- The texts of a confirmation were trimmed of white space, and something is left of them. -/
theorem trimmed_of_temporaryToken {c : Confirmation} (h : temporaryToken.read fields = .ok c) :
    ∀ t ∈ [c.email, c.memberId], (∃ s, t = trim isSpace s) ∧ t ≠ "" := by
  rcases fields_of_both h with ⟨email, memberId, first, second, rfl⟩
  simpa using ⟨trimmed_of_bounded first, trimmed_of_bounded second⟩

end Forms

end Gatehouse.Form

namespace Gatehouse.Token

open Gatehouse.Text

/-- Two texts make a grant exactly when neither of them is blank. -/
theorem SetupGrant.create_ok_iff {email memberId : String} :
    (∃ grant, SetupGrant.create email memberId = .ok grant) ↔
      allBlank email = false ∧ allBlank memberId = false := by
  constructor
  · rintro ⟨grant, made⟩
    cases he : allBlank email <;> cases hi : allBlank memberId <;>
      simp_all [SetupGrant.create, Option.filter]
  · rintro ⟨he, hi⟩
    exact ⟨_, create_of_not_blank he hi⟩

end Gatehouse.Token
