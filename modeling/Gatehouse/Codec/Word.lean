import Gatehouse.Text.Encoding

/-!
# Words of bytes

Words of thirty-two bits in big-endian order.

Main results:

- `length_wordsOf`: four bytes make a word, and a rest is dropped.
-/

namespace Gatehouse.Codec

open Gatehouse.Text

/-- The big-endian words of bytes. -/
def wordsOf : Bytes → List UInt32
  | a :: b :: c :: d :: rest =>
    ((a.toUInt32 <<< 24) ||| (b.toUInt32 <<< 16) ||| (c.toUInt32 <<< 8) ||| d.toUInt32) ::
      wordsOf rest
  | _ => []

/-- The big-endian bytes of a word. -/
def bytesOf (w : UInt32) : Bytes :=
  [(w >>> 24).toUInt8, (w >>> 16).toUInt8, (w >>> 8).toUInt8, w.toUInt8]

/-- Four bytes make one word, and a shorter rest makes none. -/
theorem length_wordsOf (bs : Bytes) : (wordsOf bs).length = bs.length / 4 := by
  fun_induction wordsOf bs with
  | case1 a b c d rest ih =>
    simp only [List.length_cons, ih]
    omega
  | case2 bs h =>
    have hl : bs.length < 4 := by
      rcases bs with _ | ⟨a, _ | ⟨b, _ | ⟨c, _ | ⟨d, rest⟩⟩⟩⟩
      · simp
      · simp
      · simp
      · simp
      · exact (h a b c d rest rfl).elim
    simp only [List.length_nil]
    omega

end Gatehouse.Codec
