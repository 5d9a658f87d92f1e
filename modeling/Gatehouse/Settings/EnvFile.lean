import Gatehouse.Keyed
import Gatehouse.Text.Blank
import Gatehouse.Text.Split

/-!
# Environment files

An environment file assigns texts to names, one assignment a line.  A line may
start with `export`, and names and texts may be quoted; a quoted text may go over
several lines and contain escapes; one without a closing quote is no assignment.
An unquoted text ends at a comment, which blank characters set off, or at the end of
its line.  A name without an equals sign is assigned nothing.  Lines that
are no assignments are skipped.  A byte order mark at the start of the file does not
count.

Main results:

- `assignments`: the assignments of a file, in order.
- `closing?_append`: a quoted text without backslashes ends at its first quote.
- `uncommented_of_no_hash`: a text without a number sign has no comment.
-/

namespace Gatehouse.Settings

open Gatehouse.Text

/-! ## Lines -/

/-- A text without the byte order mark at its start, if it has one. -/
def withoutMark : List Char → List Char
  | '\ufeff' :: cs => cs
  | cs => cs

/-- A text in which every line ends in a single newline. -/
def unifyNewlines : List Char → List Char
  | '\r' :: '\n' :: cs => '\n' :: unifyNewlines cs
  | '\r' :: cs => '\n' :: unifyNewlines cs
  | c :: cs => c :: unifyNewlines cs
  | [] => []

/-- A blank character inside a line. -/
def isGap (c : Char) : Bool :=
  isBlank c && c != '\n'

/-- The text after the current line. -/
def nextLine (cs : List Char) : List Char :=
  (cs.dropWhile (· ≠ '\n')).drop 1

/-- Nothing but blank characters is left in the line. -/
def atLineEnd (cs : List Char) : Bool :=
  match cs.dropWhile isGap with
  | [] => true
  | c :: _ => c == '\n'

/-- The text after a comment, if one starts here. -/
def skipComment (cs : List Char) : List Char :=
  match cs.dropWhile isGap with
  | '#' :: rest => rest.dropWhile (· ≠ '\n')
  | _ => cs

/-! ## Quoted texts -/

/-- The raw text up to the first quote that is not escaped by a backslash, and what follows
that quote. -/
def closing? (quote : Char) : List Char → Option (List Char × List Char)
  | [] => none
  | '\\' :: c :: cs => (closing? quote cs).map fun r => ('\\' :: c :: r.1, r.2)
  | c :: cs => if c = quote then some ([], cs) else (closing? quote cs).map fun r => (c :: r.1, r.2)

/-- A text without backslashes ends at its first quote. -/
theorem closing?_append {quote : Char} {cs : List Char} (h : quote ∉ cs) (hb : '\\' ∉ cs)
    (hq : quote ≠ '\\') (rest : List Char) :
    closing? quote (cs ++ quote :: rest) = some (cs, rest) := by
  induction cs with
  | nil =>
    rw [List.nil_append, closing?]
    · simp
    · rintro _ _ rfl
      exact absurd rfl hq
  | cons c cs ih =>
    simp only [List.mem_cons, not_or] at h hb
    rw [List.cons_append, closing?]
    · simp [Ne.symm h.1, ih h.2 hb.2]
    · rintro _ _ rfl
      exact absurd rfl hb.1

/-- A text with its escapes replaced; unknown escapes stay as they are. -/
def unescape (meaning? : Char → Option Char) : List Char → List Char
  | [] => []
  | [c] => [c]
  | c :: d :: cs =>
    if c = '\\' then
      match meaning? d with
      | some e => e :: unescape meaning? cs
      | none => c :: unescape meaning? (d :: cs)
    else c :: unescape meaning? (d :: cs)

/-- The escapes between single quotes. -/
def singleEscape? (c : Char) : Option Char :=
  if c = '\\' ∨ c = '\'' then some c else none

/-- The escapes between double quotes. -/
def doubleEscape? (c : Char) : Option Char :=
  match c with
  | '\\' => some '\\'
  | '\'' => some '\''
  | '"' => some '"'
  | 'a' => some '\x07'
  | 'b' => some '\x08'
  | 'f' => some '\x0c'
  | 'n' => some '\n'
  | 'r' => some '\r'
  | 't' => some '\t'
  | 'v' => some '\x0b'
  | _ => none

/-! ## Unquoted texts -/

/-- The part of a line before blank characters with a number sign behind them. -/
def uncommented : List Char → List Char
  | [] => []
  | c :: cs =>
    if isBlank c && (cs.dropWhile isBlank).head? == some '#' then [] else c :: uncommented cs

/-- A value without a hash has no comment. -/
theorem uncommented_of_no_hash {cs : List Char} (h : '#' ∉ cs) : uncommented cs = cs := by
  induction cs with
  | nil => rfl
  | cons c cs ih =>
    simp only [List.mem_cons, not_or] at h
    have hn : ((cs.dropWhile isBlank).head? == some '#') = false := by
      rw [beq_eq_false_iff_ne]
      intro he
      have hm : '#' ∈ cs.dropWhile isBlank := List.mem_of_head? he
      exact h.2 ((List.dropWhile_suffix isBlank).subset hm)
    simp [uncommented, hn, ih h.2]

/-- The text of the rest of a line. -/
def unquotedText (line : List Char) : List Char :=
  trimList isBlank (uncommented line)

/-! ## Assignments -/

/-- What is read at a place in the file: a part and the text after it, or the place at which
reading fails. -/
abbrev Part (α : Type) := Except (List Char) (α × List Char)

/-- The text after the word `export`, if the line starts with it. -/
def skipExport (cs : List Char) : List Char :=
  let word := "export".toList
  let rest := cs.drop word.length
  if word.isPrefixOf cs && rest.head?.any isGap then rest.dropWhile isGap else cs

/-- The name at the start of an assignment; a comment has none. -/
def readName (cs : List Char) : Part (Option (List Char)) :=
  match cs with
  | '#' :: _ => .ok (none, cs)
  | '\'' :: rest =>
    match cutFirst? '\'' rest with
    | some (c :: name, after) => .ok (some (c :: name), after)
    | _ => .error cs
  | _ =>
    let inName := fun c => c ≠ '=' && c ≠ '#' && !isBlank c
    match cs.takeWhile inName with
    | [] => .error cs
    | name => .ok (some name, cs.dropWhile inName)

/-- The text that is assigned. -/
def readText (cs : List Char) : Part (List Char) :=
  match cs.dropWhile isGap with
  | '\'' :: rest =>
    match closing? '\'' rest with
    | some (raw, after) => .ok (unescape singleEscape? raw, after)
    | none => .error cs
  | '"' :: rest =>
    match closing? '"' rest with
    | some (raw, after) => .ok (unescape doubleEscape? raw, after)
    | none => .error cs
  | _ => .ok (unquotedText (cs.takeWhile (· ≠ '\n')), cs.dropWhile (· ≠ '\n'))

/-- The text after an equals sign; without the sign there is none. -/
def readAssigned (cs : List Char) : Part (Option (List Char)) :=
  match cs with
  | '=' :: rest => (readText rest).map fun r => (some r.1, r.2)
  | _ => .ok (none, cs)

/-- An assignment of a text, or of nothing, to a name. -/
abbrev Assignment := String × Option String

/-- The assignment at the start of a line, if there is one, and the text after its last line. -/
def readAssignment (cs : List Char) : Option Assignment × List Char :=
  let outcome : Except (List Char) (Option Assignment × List Char) := do
    let (name?, afterName) ← readName (skipExport cs)
    let (text?, afterText) ← readAssigned (afterName.dropWhile isGap)
    let rest := skipComment afterText
    if atLineEnd rest then
      return (name?.map fun name => (String.ofList name, text?.map String.ofList), rest)
    else throw rest
  match outcome with
  | .ok (assignment?, rest) => (assignment?, nextLine rest)
  | .error rest => (none, nextLine rest)

/-- The assignments in the lines of a text, in order. -/
def readAssignments (cs : List Char) : List Assignment :=
  match cs.dropWhile isBlank with
  | [] => []
  | line =>
    let (assignment?, rest) := readAssignment line
    let more := if _shorter : rest.length < cs.length then readAssignments rest else []
    assignment?.toList ++ more
termination_by cs.length

/-- The assignments of a file, in order. -/
def assignments (file : String) : List Assignment :=
  readAssignments (unifyNewlines (withoutMark file.toList))

end Gatehouse.Settings
