/-!
# Text as bytes

Strings and their UTF-8 bytes, a lossy reading of UTF-8, and the readings of
UTF-16 and UTF-32 that a request body may use.

Main results:

- `ofUtf8?_utf8`: the bytes of a string read back as that string.
- `utf8_of_ofUtf8?`: bytes that read as a string are the bytes of that string.
- `bodyText?`: the text of a body in the encoding its first bytes show.
-/

namespace Gatehouse.Text

/-! ## UTF-8 -/

/-- A sequence of bytes. -/
abbrev Bytes := List UInt8

/-- The UTF-8 bytes of a string. -/
def utf8 (s : String) : Bytes :=
  s.toUTF8.data.toList

/-- The string with the given UTF-8 bytes. -/
def ofUtf8? (bs : Bytes) : Option String :=
  String.fromUTF8? ⟨bs.toArray⟩

/-- Decoding the bytes of a text recovers the text. -/
@[simp]
theorem ofUtf8?_utf8 (s : String) : ofUtf8? (utf8 s) = some s := by
  have h : (⟨s.toUTF8.data.toList.toArray⟩ : ByteArray) = s.toUTF8 := by
    rw [Array.toArray_toList]
  unfold ofUtf8? utf8
  rw [h, String.fromUTF8?]
  exact dif_pos s.isValidUTF8

/-- Bytes that decode to a text are the bytes of that text. -/
theorem utf8_of_ofUtf8? {bs : Bytes} {s : String} (h : ofUtf8? bs = some s) : utf8 s = bs := by
  unfold ofUtf8? String.fromUTF8? at h
  split at h
  · simp only [Option.some.injEq] at h
    subst h
    rfl
  · simp at h

/-- The characters whose numbers are the given bytes. -/
def byteChars (bs : Bytes) : List Char :=
  bs.map fun b => Char.ofNat b.toNat

/-- Every byte stands for one character. -/
theorem length_byteChars (bs : Bytes) : (byteChars bs).length = bs.length :=
  List.length_map _

/-- The number of bytes that the first byte of a character announces, and the range of
its second byte. -/
def leadByte? (b : UInt8) : Option (Nat × Nat × Nat) :=
  let n := b.toNat
  if n < 0x80 then some (0, 0, 0)
  else if 0xc2 ≤ n ∧ n < 0xe0 then some (1, 0x80, 0xbf)
  else if n = 0xe0 then some (2, 0xa0, 0xbf)
  else if n = 0xed then some (2, 0x80, 0x9f)
  else if 0xe1 ≤ n ∧ n < 0xf0 then some (2, 0x80, 0xbf)
  else if n = 0xf0 then some (3, 0x90, 0xbf)
  else if 0xf1 ≤ n ∧ n < 0xf4 then some (3, 0x80, 0xbf)
  else if n = 0xf4 then some (3, 0x80, 0x8f)
  else none

/-- Continuation bytes at the front: the first in the given range, the others in the full
range, at most `count` of them. -/
def continuation : Nat → Nat → Nat → Bytes → Bytes
  | 0, _, _, _ => []
  | _, _, _, [] => []
  | count + 1, lo, hi, b :: rest =>
    if lo ≤ b.toNat ∧ b.toNat ≤ hi then b :: continuation count 0x80 0xbf rest else []

/-- The code point of a lead byte with its continuation bytes. -/
def codePoint (lead : UInt8) (rest : Bytes) : Nat :=
  let bits :=
    match rest.length with
    | 0 => lead.toNat
    | 1 => lead.toNat % 0x20
    | 2 => lead.toNat % 0x10
    | _ => lead.toNat % 0x08
  rest.foldl (fun n b => 64 * n + b.toNat % 64) bits

/-- The characters of bytes in UTF-8; every longest broken part becomes one
replacement character. -/
def lossyChars (bs : Bytes) : List Char :=
  match bs with
  | [] => []
  | b :: rest =>
    match leadByte? b with
    | none => '\ufffd' :: lossyChars rest
    | some (count, lo, hi) =>
      let more := continuation count lo hi rest
      let c := if more.length = count then Char.ofNat (codePoint b more) else '\ufffd'
      c :: lossyChars (rest.drop more.length)
termination_by bs.length
decreasing_by
  all_goals simp only [List.length_cons, List.length_drop]
  all_goals omega

/-! ## UTF-16 and UTF-32 -/

/-- The byte order of wider units. -/
inductive ByteOrder
  | big
  | little
deriving DecidableEq, Repr

/-- The 16-bit units of bytes. -/
def units16? (order : ByteOrder) : Bytes → Option (List Nat)
  | [] => some []
  | a :: b :: rest =>
    let unit := match order with
      | .big => a.toNat * 0x100 + b.toNat
      | .little => b.toNat * 0x100 + a.toNat
    (units16? order rest).map (unit :: ·)
  | _ => none

/-- The characters of 16-bit units; a lone surrogate becomes the replacement character. -/
def charsOfUnits16 : List Nat → List Char
  | [] => []
  | [u] => [if 0xd800 ≤ u ∧ u < 0xe000 then '\ufffd' else Char.ofNat u]
  | u :: v :: rest =>
    if 0xd800 ≤ u ∧ u < 0xdc00 ∧ 0xdc00 ≤ v ∧ v < 0xe000 then
      Char.ofNat (0x10000 + (u - 0xd800) * 0x400 + (v - 0xdc00)) :: charsOfUnits16 rest
    else (if 0xd800 ≤ u ∧ u < 0xe000 then '\ufffd' else Char.ofNat u) :: charsOfUnits16 (v :: rest)

/-- The characters of bytes in UTF-32. -/
def charsOfUtf32? (order : ByteOrder) : Bytes → Option (List Char)
  | [] => some []
  | a :: b :: c :: d :: rest =>
    let n := match order with
      | .big => ((a.toNat * 0x100 + b.toNat) * 0x100 + c.toNat) * 0x100 + d.toNat
      | .little => ((d.toNat * 0x100 + c.toNat) * 0x100 + b.toNat) * 0x100 + a.toNat
    if 0x110000 ≤ n then none
    else
      let ch := if 0xd800 ≤ n ∧ n < 0xe000 then '\ufffd' else Char.ofNat n
      (charsOfUtf32? order rest).map (ch :: ·)
  | _ => none

/-- The text of bytes in UTF-16. -/
def ofUtf16? (order : ByteOrder) (bs : Bytes) : Option String :=
  (units16? order bs).map fun us => String.ofList (charsOfUnits16 us)

/-- The text of bytes in UTF-32. -/
def ofUtf32? (order : ByteOrder) (bs : Bytes) : Option String :=
  (charsOfUtf32? order bs).map String.ofList

/-! ## Bodies -/

/-- Bytes in which the three bytes of every lone surrogate are those of the replacement
character. -/
def mended : Bytes → Bytes
  | 0xed :: b :: c :: rest =>
    if 0xa0 ≤ b.toNat ∧ b.toNat < 0xc0 ∧ 0x80 ≤ c.toNat ∧ c.toNat < 0xc0 then
      0xef :: 0xbf :: 0xbd :: mended rest
    else 0xed :: mended (b :: c :: rest)
  | b :: rest => b :: mended rest
  | [] => []

/-- Bytes none of which could begin a surrogate are not mended. -/
theorem mended_of_not_mem {bs : Bytes} (h : (0xed : UInt8) ∉ bs) : mended bs = bs := by
  induction bs with
  | nil => rfl
  | cons b rest ih =>
    simp only [List.mem_cons, not_or] at h
    unfold mended
    split
    · simp_all
    · simp_all
    · simp_all

/-- The text of bytes in UTF-8 that may hold lone surrogates. -/
def ofWideUtf8? (bs : Bytes) : Option String :=
  ofUtf8? (mended bs)

/-- The text of a JSON body: the encoding is told by a byte order mark or by the zero
bytes among the first four. -/
def bodyText? (bs : Bytes) : Option String :=
  match bs with
  | 0x00 :: 0x00 :: 0xfe :: 0xff :: rest => ofUtf32? .big rest
  | 0xff :: 0xfe :: 0x00 :: 0x00 :: rest => ofUtf32? .little rest
  | 0xfe :: 0xff :: rest => ofUtf16? .big rest
  | 0xff :: 0xfe :: rest => ofUtf16? .little rest
  | 0xef :: 0xbb :: 0xbf :: rest => ofWideUtf8? rest
  | a :: b :: c :: d :: _ =>
    if a = 0 then if b = 0 then ofUtf32? .big bs else ofUtf16? .big bs
    else if b = 0 then if c = 0 ∧ d = 0 then ofUtf32? .little bs else ofUtf16? .little bs
    else ofWideUtf8? bs
  | [a, b] =>
    if a = 0 then ofUtf16? .big bs
    else if b = 0 then ofUtf16? .little bs
    else ofWideUtf8? bs
  | _ => ofWideUtf8? bs

end Gatehouse.Text
