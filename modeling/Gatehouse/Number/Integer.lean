import Gatehouse.Text.Blank
import Gatehouse.Text.DecimalDigit

/-!
# Integers in texts

An integer text has an optional sign and decimal digits of any script, with
single underscores between digits and white space around the whole.

Main results:

- `readInteger?`: the integer of a text.
- `underscored?_digits`: digits without underscores are read one by one.
-/

namespace Gatehouse.Number

open Gatehouse.Text

/-- The values of digits with single underscores between them. -/
def underscored? (value? : Char → Option Nat) : List Char → Option (List Nat)
  | [] => none
  | [c] => (value? c).map ([·])
  | c :: d :: rest =>
    if d = '_' then do
      let v ← value? c
      let vs ← underscored? value? rest
      return v :: vs
    else do
      let v ← value? c
      let vs ← underscored? value? (d :: rest)
      return v :: vs

/-- Digits without underscores are read one by one. -/
theorem underscored?_digits {value? : Char → Option Nat} {f : Char → Nat} {cs : List Char}
    (hne : cs ≠ []) (h : ∀ c ∈ cs, value? c = some (f c) ∧ c ≠ '_') :
    underscored? value? cs = some (cs.map f) := by
  induction cs with
  | nil => exact absurd rfl hne
  | cons c cs ih =>
    cases cs with
    | nil => simp [underscored?, (h c List.mem_cons_self).1]
    | cons d rest =>
      have hd := (h d (by simp)).2
      have step := ih (by simp) fun x hx => h x (List.mem_cons_of_mem _ hx)
      simp [underscored?, hd, (h c List.mem_cons_self).1, step]

/-- The number with the given decimal digits, most significant first. -/
def ofDigits (ds : List Nat) : Nat :=
  ds.foldl (fun n d => 10 * n + d) 0

/-- The longest integer text that is read, in digits. -/
def maxIntegerDigits : Nat := 4300

/-- The integer of a text. -/
def readInteger? (s : String) : Option Int :=
  let body := trimList isSpace s.toList
  let (negative, unsigned) :=
    match body with
    | '-' :: rest => (true, rest)
    | '+' :: rest => (false, rest)
    | rest => (false, rest)
  match underscored? decimalDigit? unsigned with
  | none => none
  | some ds =>
    if maxIntegerDigits < ds.length then none
    else some (if negative then -(ofDigits ds : Int) else ofDigits ds)

end Gatehouse.Number
