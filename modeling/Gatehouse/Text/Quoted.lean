import Gatehouse.Text.Printable
import Gatehouse.Text.Digits

/-!
# Quoted text

Strings that appear inside messages are written between quotes with every
character visible.  Single quotes are used unless the text holds a single quote
and no double quote.  The backslash and the quote in use are escaped, line feed,
carriage return and tab have short escapes, and any other unprintable character
is written by its code point in two, four or eight hexadecimal digits.

Main results:

- `quoteChar_eq_double_iff`: when double quotes are used.
- `quoted_of_plain`: a text of plain characters is only put between single quotes.
-/

namespace Gatehouse.Text

/-! ## Quotes -/

/-- The quote that surrounds a text. -/
def quoteChar (cs : List Char) : Char :=
  if cs.contains '\'' && !cs.contains '"' then '"' else '\''

/-- Double quotes surround exactly the texts with a single quote and no double one. -/
theorem quoteChar_eq_double_iff (cs : List Char) :
    quoteChar cs = '"' ↔ '\'' ∈ cs ∧ '"' ∉ cs := by
  unfold quoteChar
  by_cases h₁ : '\'' ∈ cs <;> by_cases h₂ : '"' ∈ cs <;> simp [h₁, h₂]

/-! ## Escapes -/

/-- An unprintable character written by its code point. -/
def codePointEscape (n : Nat) : List Char :=
  if n < 0x100 then '\\' :: 'x' :: hexList 2 n
  else if n < 0x10000 then '\\' :: 'u' :: hexList 4 n
  else '\\' :: 'U' :: hexList 8 n

/-- One character of a quoted text. -/
def quotedChar (quote c : Char) : List Char :=
  if c == quote || c == '\\' then ['\\', c]
  else if c == '\n' then ['\\', 'n']
  else if c == '\r' then ['\\', 'r']
  else if c == '\t' then ['\\', 't']
  else if isPrintable c then [c]
  else codePointEscape c.toNat

/-- A string between quotes, with every character visible. -/
def quoted (s : String) : String :=
  let quote := quoteChar s.toList
  String.ofList (quote :: s.toList.flatMap (quotedChar quote) ++ [quote])

/-- A plain text is quoted without escapes. -/
theorem quoted_of_plain {s : String}
    (h : ∀ c ∈ s.toList, isPrintable c = true ∧ c ≠ '\'' ∧ c ≠ '\\') :
    quoted s = String.ofList ('\'' :: s.toList ++ ['\'']) := by
  have hq : quoteChar s.toList = '\'' := by
    have : '\'' ∉ s.toList := fun hm => (h _ hm).2.1 rfl
    simp [quoteChar, this]
  have hc : ∀ c ∈ s.toList, quotedChar '\'' c = [c] := by
    intro c hm
    rcases h c hm with ⟨hp, h₁, h₂⟩
    have h₃ : c ≠ '\n' := by rintro rfl; revert hp; decide
    have h₄ : c ≠ '\r' := by rintro rfl; revert hp; decide
    have h₅ : c ≠ '\t' := by rintro rfl; revert hp; decide
    simp [quotedChar, h₁, h₂, h₃, h₄, h₅, hp]
  have hl : ∀ cs : List Char, (∀ c ∈ cs, quotedChar '\'' c = [c]) →
      cs.flatMap (quotedChar '\'') = cs := by
    intro cs
    induction cs with
    | nil => intro _; rfl
    | cons c cs ih =>
      intro hcs
      rw [List.flatMap_cons, hcs c List.mem_cons_self,
        ih fun d hd => hcs d (List.mem_cons_of_mem _ hd)]
      rfl
  simp only [quoted, hq]
  rw [hl _ hc]

end Gatehouse.Text
