import Gatehouse.Json.Reader
import Gatehouse.Json.Writer
import Mathlib.Algebra.Group.Nat.Defs
import Mathlib.Tactic.SplitIfs

/-!
# Strings in JSON, both ways

A string is written with escapes and read back as itself, whatever its characters:
quotes and backslashes, control characters, and the characters above U+FFFF that are
written as a pair of surrogates.  Each lemma says what the reader makes of a written
piece in front of any further text.

Main results:

- `hexListValue?_hexList`: hexadecimal digits are read back as the number that they are the last
  digits of.
- `readUnit?_unitEscape`: the four digits of a code unit are read back.
- `readStringBody_escapeChar`: one written character is read back.
- `readStringBody_flatMap`: so is a whole string up to its closing quote.
-/

namespace Gatehouse

namespace Text

/-- The digit of a number below sixteen is read back. -/
theorem hexValue?_hexChar_of_lt {n : Nat} (h : n < 16) : hexValue? (hexChar n) = some n :=
  hexValue?_hexChar ⟨n, h⟩

/-- One digit more multiplies the value by sixteen. -/
theorem hexListValue?_concat (cs : List Char) (c : Char) :
    hexListValue? (cs ++ [c]) =
      (hexListValue? cs).bind fun n => (hexValue? c).map (16 * n + ·) := by
  simp only [hexListValue?, List.foldl_append, List.foldl_cons, List.foldl_nil]

/-- The last digits of a number are read back as its remainder. -/
theorem hexListValue?_hexList (width n : Nat) :
    hexListValue? (hexList width n) = some (n % 16 ^ width) := by
  induction width generalizing n with
  | zero => simp [hexList, hexListValue?, Nat.mod_one]
  | succ width ih =>
    have digit : hexValue? (hexChar (n % 16)) = some (n % 16) :=
      hexValue?_hexChar_of_lt (Nat.mod_lt n (by decide))
    have split : n % 16 ^ (width + 1) = n % 16 + 16 * (n / 16 % 16 ^ width) := by
      rw [Nat.pow_succ', Nat.mod_mul]
    rw [hexList, hexListValue?_concat, ih, Option.bind_some, digit, Option.map_some, split,
      Nat.add_comm]

end Text

namespace Json

open Gatehouse.Text

/-! ## Code units -/

/-- A written code unit in front of more text is read back. -/
theorem readUnit?_hexList {n : Nat} (h : n < 0x10000) {more : List Char} (hm : more ≠ []) :
    readUnit? (hexList 4 n ++ more) = some (n, more) := by
  rcases List.exists_cons_of_ne_nil hm with ⟨c, cs, rfl⟩
  have value := hexListValue?_hexList 4 n
  rw [Nat.mod_eq_of_lt (show n < 16 ^ 4 from h)] at value
  simp only [hexList, List.nil_append, List.cons_append] at value ⊢
  simp [readUnit?, value]

/-- The number of a character lies outside the surrogates. -/
theorem not_surrogate (c : Char) : ¬ (0xd800 ≤ c.toNat ∧ c.toNat < 0xe000) := by
  have valid : c.toNat < 0xd800 ∨ (0xdfff < c.toNat ∧ c.toNat < 0x110000) := c.valid
  omega

/-- A character that is one code unit is read back from it. -/
theorem readEscaped?_unit {c : Char} (h : c.toNat < 0x10000) {more : List Char} (hm : more ≠ []) :
    readEscaped? (hexList 4 c.toNat ++ more) = some (c, more) := by
  have outside := not_surrogate c
  have notHigh : ¬ (0xd800 ≤ c.toNat ∧ c.toNat < 0xdc00) := by omega
  simp only [readEscaped?, readUnit?_hexList h hm, if_neg notHigh, charOfUnit, if_neg outside]
  simp

/-- A pair of surrogates is read as the character that it stands for. -/
theorem readEscaped?_surrogates {high low : Nat} (hh : 0xd800 ≤ high ∧ high < 0xdc00)
    (hl : 0xdc00 ≤ low ∧ low < 0xe000) {more : List Char} (hm : more ≠ []) :
    readEscaped? (hexList 4 high ++ (unitEscape low ++ more)) =
      some (Char.ofNat (0x10000 + (high - 0xd800) * 0x400 + (low - 0xdc00)), more) := by
  simp only [readEscaped?, unitEscape, List.cons_append,
    readUnit?_hexList (show high < 0x10000 by omega) (List.cons_ne_nil _ _),
    readUnit?_hexList (show low < 0x10000 by omega) hm, if_pos hh, if_pos hl]

/-- A character above U+FFFF is read back from its pair of surrogates. -/
theorem readEscaped?_pair {c : Char} (h : 0x10000 ≤ c.toNat) {more : List Char} (hm : more ≠ []) :
    readEscaped? (hexList 4 (0xd800 + (c.toNat - 0x10000) / 0x400) ++
      (unitEscape (0xdc00 + (c.toNat - 0x10000) % 0x400) ++ more)) = some (c, more) := by
  have bound : c.toNat < 0x110000 := by
    have valid : c.toNat < 0xd800 ∨ (0xdfff < c.toNat ∧ c.toNat < 0x110000) := c.valid
    omega
  rw [readEscaped?_surrogates (by omega) (by omega) hm,
    show 0x10000 + (0xd800 + (c.toNat - 0x10000) / 0x400 - 0xd800) * 0x400 +
      (0xdc00 + (c.toNat - 0x10000) % 0x400 - 0xdc00) = c.toNat by omega, Char.ofNat_toNat]

/-! ## Characters -/

/-- The reader takes a plain character as it is. -/
theorem readStringBody_plain (start : Nat) {c : Char} (lo : 0x20 ≤ c.toNat) (hq : c ≠ '"')
    (hb : c ≠ '\\') (more : List Char) :
    readStringBody start (c :: more) =
      (readStringBody start more).map fun r => (c :: r.1, r.2) := by
  rw [readStringBody.eq_def]
  simp [hq, hb, Nat.not_lt.2 lo]

/-- The reader takes a short escape for the character it stands for. -/
theorem readStringBody_short (start : Nat) {e c : Char} (h : shortEscape? e = some c)
    (more : List Char) :
    readStringBody start ('\\' :: e :: more) =
      (readStringBody start more).map fun r => (c :: r.1, r.2) := by
  have hu : e ≠ 'u' := by
    rintro rfl
    simp [shortEscape?] at h
  rw [readStringBody.eq_def]
  simp [hu, h]

/-- The reader takes a long escape for the character it stands for. -/
theorem readStringBody_long (start : Nat) {cs more : List Char} {c : Char}
    (h : readEscaped? cs = some (c, more)) :
    readStringBody start ('\\' :: 'u' :: cs) =
      (readStringBody start more).map fun r => (c :: r.1, r.2) := by
  rw [readStringBody.eq_def]
  simp only [if_neg (by decide : ¬ ('\\' = '"')), if_true]
  split
  · next hn => simp [h] at hn
  · next d after hs =>
    rw [h] at hs
    rcases Prod.mk.inj (Option.some.inj hs) with ⟨rfl, rfl⟩
    rfl

/-- A written character in front of more text is read back. -/
theorem readStringBody_escapeChar (start : Nat) (c : Char) {more : List Char} (hm : more ≠ []) :
    readStringBody start (escapeChar c ++ more) =
      (readStringBody start more).map fun r => (c :: r.1, r.2) := by
  dsimp only [escapeChar]
  -- the cases are those of the writer: the seven short escapes, then by the number
  split_ifs with hq hb hn hr ht h8 hf plain unit
  · subst hq; exact readStringBody_short start rfl more
  · subst hb; exact readStringBody_short start rfl more
  · subst hn; exact readStringBody_short start rfl more
  · subst hr; exact readStringBody_short start rfl more
  · subst ht; exact readStringBody_short start rfl more
  · subst h8; exact readStringBody_short start rfl more
  · subst hf; exact readStringBody_short start rfl more
  · exact readStringBody_plain start plain.1 hq hb more
  · exact readStringBody_long start (readEscaped?_unit unit hm)
  · rw [List.append_assoc]
    exact readStringBody_long start (readEscaped?_pair (Nat.not_lt.1 unit) hm)

/-! ## Strings -/

/-- A written string is read back up to its closing quote. -/
theorem readStringBody_flatMap (start : Nat) (cs rest : List Char) :
    readStringBody start (cs.flatMap escapeChar ++ '"' :: rest) = .ok (cs, rest) := by
  induction cs with
  | nil =>
    rw [List.flatMap_nil, List.nil_append, readStringBody.eq_def]
    simp
  | cons c cs ih =>
    rw [List.flatMap_cons, List.append_assoc,
      readStringBody_escapeChar start c (by simp), ih]
    rfl

end Json

end Gatehouse
