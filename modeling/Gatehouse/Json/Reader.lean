import Gatehouse.Json.Basic

/-!
# Reading JSON

A reader for JSON texts that also accepts `NaN`, `Infinity` and `-Infinity`.
Blanks are the space, tab, line feed and carriage return.  A fault carries how
many characters were left where it was found, which the wrapper turns into a
position from the start of the text.  Nesting is limited, and so is the length of
integers; what lies beyond these limits has no position.  How much nesting is read
depends on who reads, and is a parameter of the reader.

Texts are made of Unicode scalar values.  An escape that stands for half of a surrogate
pair is read as the replacement character, where a reader whose texts hold any code point
keeps the half.  What such a reader does with the half afterwards is not described here.

The position of a fault is the offending character, or the end of a text that
stops too early.  An unterminated string is reported at its opening quote, a bad
number or word at its start, a bad escape at its backslash and a bad four-digit
escape at its `u`.

Main results:

- `read`: the value of a text, or where it went wrong.
- `readValue_of_depth_zero`: nesting beyond the limit is a fault of its own.
- `skipBlanks_suffix`: skipping blanks only takes characters off the front.
-/

namespace Gatehouse.Json

open Gatehouse.Text

/-! ## Faults -/

/-- Why a text could not be read. -/
inductive Fault
  /-- No value where one is due, with this many characters left. -/
  | malformed (remaining : Nat)
  /-- An integer with more digits than are read. -/
  | longInteger
  /-- A list or an object inside of more others than are read. -/
  | tooDeep
deriving DecidableEq, Repr

/-- What a step of the reader gives: a result and the characters after it. -/
abbrev Step (α : Type) := Except Fault (α × List Char)

/-- A fault at the front of the given characters. -/
def faultAt (cs : List Char) : Fault :=
  .malformed cs.length

/-! ## Blanks -/

/-- The four blank characters of JSON. -/
def isBlank (c : Char) : Bool :=
  c == ' ' || c == '\n' || c == '\t' || c == '\r'

/-- The characters from the first one that is not blank. -/
def skipBlanks (cs : List Char) : List Char :=
  cs.dropWhile isBlank

/-- Skipping blanks leaves an end of the text. -/
theorem skipBlanks_suffix (cs : List Char) : skipBlanks cs <:+ cs :=
  List.dropWhile_suffix _

/-- A text that starts with no blank has none to skip. -/
theorem skipBlanks_cons {c : Char} (h : isBlank c = false) (rest : List Char) :
    skipBlanks (c :: rest) = c :: rest := by
  simp [skipBlanks, h]

/-! ## Strings -/

/-- The character that follows a backslash in a short escape. -/
def shortEscape? : Char → Option Char
  | '"' => some '"'
  | '\\' => some '\\'
  | '/' => some '/'
  | 'b' => some '\x08'
  | 'f' => some '\x0c'
  | 'n' => some '\n'
  | 'r' => some '\r'
  | 't' => some '\t'
  | _ => none

/-- Four hexadecimal digits with at least one more character after them. -/
def readUnit? : List Char → Option (Nat × List Char)
  | a :: b :: c :: d :: e :: rest => (hexListValue? [a, b, c, d]).map (·, e :: rest)
  | _ => none

/-- Reading a code unit consumes characters. -/
theorem length_readUnit?_lt {cs rest : List Char} {n : Nat} (h : readUnit? cs = some (n, rest)) :
    rest.length < cs.length := by
  unfold readUnit? at h
  split at h
  · simp only [Option.map_eq_some_iff, Prod.mk.injEq] at h
    rcases h with ⟨_, _, _, rfl⟩
    simp
  · simp at h

/-- The character of one UTF-16 unit.  A lone surrogate, which is no character, becomes the
replacement character. -/
def charOfUnit (n : Nat) : Char :=
  if 0xd800 ≤ n ∧ n < 0xe000 then '\ufffd' else Char.ofNat n

/-- The character after `\u`: one unit, or a pair of surrogates. -/
def readEscaped? (cs : List Char) : Option (Char × List Char) :=
  match readUnit? cs with
  | none => none
  | some (high, rest) =>
    if 0xd800 ≤ high ∧ high < 0xdc00 then
      match rest with
      | '\\' :: 'u' :: more =>
        match readUnit? more with
        | some (low, after) =>
          if 0xdc00 ≤ low ∧ low < 0xe000 then
            some (Char.ofNat (0x10000 + (high - 0xd800) * 0x400 + (low - 0xdc00)), after)
          else some (charOfUnit high, rest)
        | none => some (charOfUnit high, rest)
      | _ => some (charOfUnit high, rest)
    else some (charOfUnit high, rest)

/-- Reading an escape consumes characters. -/
theorem length_readEscaped?_lt {cs rest : List Char} {c : Char}
    (h : readEscaped? cs = some (c, rest)) : rest.length < cs.length := by
  unfold readEscaped? at h
  split at h
  · simp at h
  · next hu =>
    have hl := length_readUnit?_lt hu
    repeat' split at h
    all_goals simp only [Option.some.injEq, Prod.mk.injEq] at h
    all_goals obtain ⟨_, rfl⟩ := h
    · next h₂ _ _ =>
      have := length_readUnit?_lt h₂
      simp only [List.length_cons] at hl
      omega
    all_goals exact hl

/-- The rest of a string after its opening quote, up to and with the closing quote.

`start` is the number of characters left at the opening quote. -/
def readStringBody (start : Nat) (cs : List Char) : Step (List Char) :=
  match cs with
  | [] => .error (.malformed start)
  | c :: rest =>
    if c = '"' then .ok ([], rest)
    else if c = '\\' then
      match rest with
      | [] => .error (.malformed start)
      | e :: more =>
        if e = 'u' then
          match h : readEscaped? more with
          | none => .error (faultAt rest)
          | some (d, after) =>
            have := length_readEscaped?_lt h
            (readStringBody start after).map fun r => (d :: r.1, r.2)
        else
          match shortEscape? e with
          | none => .error (faultAt cs)
          | some d => (readStringBody start more).map fun r => (d :: r.1, r.2)
    else if c.toNat < 0x20 then .error (faultAt cs)
    else (readStringBody start rest).map fun r => (c :: r.1, r.2)
termination_by cs.length
decreasing_by
  all_goals simp_all only [List.length_cons]
  all_goals omega

/-! ## Numbers -/

/-- The whole part of a number: a single zero, or digits that start with no zero. -/
def readWhole? : List Char → Option (List Char × List Char)
  | [] => none
  | c :: cs =>
    if c = '0' then some (['0'], cs)
    else if c.isDigit then some (c :: cs.takeWhile Char.isDigit, cs.dropWhile Char.isDigit)
    else none

/-- A point with at least one digit after it, or nothing. -/
def readFraction (cs : List Char) : List Char × List Char :=
  match cs with
  | '.' :: rest =>
    match rest.takeWhile Char.isDigit with
    | [] => ([], cs)
    | ds => ('.' :: ds, rest.dropWhile Char.isDigit)
  | _ => ([], cs)

/-- An exponent with at least one digit, or nothing. -/
def readExponent (cs : List Char) : List Char × List Char :=
  match cs with
  | [] => ([], [])
  | e :: rest =>
    if e = 'e' ∨ e = 'E' then
      let (sign, digits) : List Char × List Char :=
        match rest with
        | s :: more => if s = '+' ∨ s = '-' then ([s], more) else ([], rest)
        | [] => ([], [])
      match digits.takeWhile Char.isDigit with
      | [] => ([], cs)
      | ds => (e :: (sign ++ ds), digits.dropWhile Char.isDigit)
    else ([], cs)

/-- A number; an integer longer than the limit is refused. -/
def readNumber (limit : Option Nat) (cs : List Char) : Step Numeral :=
  let (sign, unsigned) : List Char × List Char :=
    match cs with
    | '-' :: rest => (['-'], rest)
    | _ => ([], cs)
  match readWhole? unsigned with
  | none => .error (faultAt cs)
  | some (whole, afterWhole) =>
    let (fraction, afterFraction) := readFraction afterWhole
    let (exponent, rest) := readExponent afterFraction
    if fraction.isEmpty && exponent.isEmpty then
      if limit.any (· < whole.length) then .error .longInteger
      else .ok (.integer (String.ofList (sign ++ whole)), rest)
    else .ok (.decimal (String.ofList (sign ++ whole ++ fraction ++ exponent)), rest)

/-! ## Values -/

/-- The characters after a word, if the text starts with it. -/
def stripWord? (word : List Char) (cs : List Char) : Option (List Char) :=
  if word.isPrefixOf cs then some (cs.drop word.length) else none

/-- The words that are values. -/
def wordValues : List (List Char × Json) :=
  [("null".toList, .null), ("true".toList, .bool true), ("false".toList, .bool false),
    ("NaN".toList, .number .nan), ("Infinity".toList, .number (.infinity false)),
    ("-Infinity".toList, .number (.infinity true))]

/-- A word that is a value. -/
def readWord? (cs : List Char) : Option (Json × List Char) :=
  wordValues.findSome? fun w => (stripWord? w.1 cs).map (w.2, ·)

mutual

/-- A value at the front of the text, with lists and objects nested at most `depth` deep.

`fuel` bounds the number of nested values and of items on the way to any of them, which is
at most twice the length of the text. -/
def readValue (limit : Option Nat) : Nat → Nat → List Char → Step Json
  | 0, _, cs => .error (faultAt cs)
  | fuel + 1, depth, cs =>
    match cs with
    | '"' :: rest => (readStringBody cs.length rest).map fun r => (.string (String.ofList r.1), r.2)
    | '{' :: rest =>
      match depth, skipBlanks rest with
      | 0, _ => .error .tooDeep
      | _ + 1, '}' :: after => .ok (.object [], after)
      | inside + 1, inner =>
        (readFields limit fuel inside [] inner).map fun r => (.object r.1, r.2)
    | '[' :: rest =>
      match depth, skipBlanks rest with
      | 0, _ => .error .tooDeep
      | _ + 1, ']' :: after => .ok (.array [], after)
      | inside + 1, inner => (readItems limit fuel inside inner).map fun r => (.array r.1, r.2)
    | _ =>
      match readWord? cs with
      | some r => .ok r
      | none => (readNumber limit cs).map fun r => (.number r.1, r.2)

/-- The items of a non-empty array, with the closing bracket. -/
def readItems (limit : Option Nat) : Nat → Nat → List Char → Step (List Json)
  | 0, _, cs => .error (faultAt cs)
  | fuel + 1, depth, cs =>
    match readValue limit fuel depth cs with
    | .error e => .error e
    | .ok (v, rest) =>
      match skipBlanks rest with
      | ']' :: after => .ok ([v], after)
      | ',' :: more => (readItems limit fuel depth (skipBlanks more)).map fun r => (v :: r.1, r.2)
      | other => .error (faultAt other)

/-- The fields of a non-empty object, stored over the ones read so far, with the closing brace. -/
def readFields (limit : Option Nat) : Nat → Nat → Keyed Json → List Char →
    Step (Keyed Json)
  | 0, _, _, cs => .error (faultAt cs)
  | fuel + 1, depth, seen, cs =>
    match cs with
    | '"' :: body =>
      match readStringBody cs.length body with
      | .error e => .error e
      | .ok (name, afterName) =>
        match skipBlanks afterName with
        | ':' :: afterColon =>
          match readValue limit fuel depth (skipBlanks afterColon) with
          | .error e => .error e
          | .ok (v, rest) =>
            let fields := Keyed.put seen (String.ofList name) v
            match skipBlanks rest with
            | '}' :: after => .ok (fields, after)
            | ',' :: more => readFields limit fuel depth fields (skipBlanks more)
            | other => .error (faultAt other)
        | other => .error (faultAt other)
    | _ => .error (faultAt cs)

end

/-- No list is read where no more nesting is allowed. -/
theorem readValue_of_depth_zero (limit : Option Nat) (fuel : Nat) (cs : List Char) :
    readValue limit (fuel + 1) 0 ('[' :: cs) = .error .tooDeep := by
  simp [readValue]

/-! ## Texts -/

/-- The longest integer that is read as a value, in digits. -/
def integerLimit : Nat := 4300

/-- How many lists and objects are usually read inside of an outermost one. -/
def usualNesting : Nat := 979

/-- Why a whole text could not be read. -/
inductive TextFault
  /-- The position, in characters, of the fault. -/
  | malformedAt (position : Nat)
  | longInteger
  | tooDeep
deriving DecidableEq, Repr

/-- The value of a text with blanks around it and nothing else, with so many levels of lists and
objects inside of the outermost one. -/
def readList (limit : Option Nat) (nesting : Nat) (cs : List Char) : Except TextFault Json :=
  let place : Fault → TextFault
    | .malformed remaining => .malformedAt (cs.length - remaining)
    | .longInteger => .longInteger
    | .tooDeep => .tooDeep
  if cs.head? = some '\ufeff' then .error (.malformedAt 0)
  else
    match readValue limit (2 * cs.length + 1) (nesting + 1) (skipBlanks cs) with
    | .error e => .error (place e)
    | .ok (v, rest) =>
      match skipBlanks rest with
      | [] => .ok v
      | other => .error (place (faultAt other))

/-- The value of a text, with integers of bounded length. -/
def read (nesting : Nat) (s : String) : Except TextFault Json :=
  readList (some integerLimit) nesting s.toList

/-- The value of a text, with integers of any length. -/
def readUnbounded (s : String) : Except TextFault Json :=
  readList none usualNesting s.toList

end Gatehouse.Json
