import Gatehouse.Text.Encoding

/-!
# Groups of six bits

Three bytes are four groups of six bits.  A last group of one or two bytes is two
or three sextets whose unused low bits are zero when written and ignored when read.

Main results:

- `toBytes_ofBytes`: bytes survive the way through sextets.
- `ofBytes_lt`: every sextet is below sixty-four.
- `length_ofBytes_mod`: a written text never leaves a single sextet over.
-/

namespace Gatehouse.Codec.Sextet

open Gatehouse.Text

/-- The sextets of bytes, most significant bits first. -/
def ofBytes : Bytes → List Nat
  | [] => []
  | [a] => [a.toNat / 4, a.toNat % 4 * 16]
  | [a, b] => [a.toNat / 4, a.toNat % 4 * 16 + b.toNat / 16, b.toNat % 16 * 4]
  | a :: b :: c :: rest =>
    a.toNat / 4 :: (a.toNat % 4 * 16 + b.toNat / 16) :: (b.toNat % 16 * 4 + c.toNat / 64) ::
      (c.toNat % 64) :: ofBytes rest

/-- The bytes of sextets; bits that fill no byte are dropped. -/
def toBytes : List Nat → Bytes
  | a :: b :: c :: d :: rest =>
    UInt8.ofNat (a * 4 + b / 16) :: UInt8.ofNat (b % 16 * 16 + c / 4) ::
      UInt8.ofNat (c % 4 * 64 + d) :: toBytes rest
  | [a, b, c] => [UInt8.ofNat (a * 4 + b / 16), UInt8.ofNat (b % 16 * 16 + c / 4)]
  | [a, b] => [UInt8.ofNat (a * 4 + b / 16)]
  | _ => []

/-- Joining the six-bit groups of bytes recovers the bytes. -/
theorem toBytes_ofBytes (bs : Bytes) : toBytes (ofBytes bs) = bs := by
  fun_induction ofBytes bs with
  | case1 => rfl
  | case2 a =>
    have ha := a.toNat_lt
    rw [toBytes, show a.toNat / 4 * 4 + a.toNat % 4 * 16 / 16 = a.toNat by omega,
      UInt8.ofNat_toNat]
  | case3 a b =>
    have ha := a.toNat_lt
    have hb := b.toNat_lt
    rw [toBytes,
      show a.toNat / 4 * 4 + (a.toNat % 4 * 16 + b.toNat / 16) / 16 = a.toNat by omega,
      show (a.toNat % 4 * 16 + b.toNat / 16) % 16 * 16 + b.toNat % 16 * 4 / 4 = b.toNat by omega,
      UInt8.ofNat_toNat, UInt8.ofNat_toNat]
  | case4 a b c rest ih =>
    have ha := a.toNat_lt
    have hb := b.toNat_lt
    have hc := c.toNat_lt
    rw [toBytes,
      show a.toNat / 4 * 4 + (a.toNat % 4 * 16 + b.toNat / 16) / 16 = a.toNat by omega,
      show (a.toNat % 4 * 16 + b.toNat / 16) % 16 * 16 + (b.toNat % 16 * 4 + c.toNat / 64) / 4 =
        b.toNat by omega,
      show (b.toNat % 16 * 4 + c.toNat / 64) % 4 * 64 + c.toNat % 64 = c.toNat by omega,
      UInt8.ofNat_toNat, UInt8.ofNat_toNat, UInt8.ofNat_toNat, ih]

/-- Every group has six bits. -/
theorem ofBytes_lt (bs : Bytes) : ∀ s ∈ ofBytes bs, s < 64 := by
  fun_induction ofBytes bs with
  | case1 => simp
  | case2 a =>
    have ha := a.toNat_lt
    simp
    omega
  | case3 a b =>
    have ha := a.toNat_lt
    have hb := b.toNat_lt
    simp
    omega
  | case4 a b c rest ih =>
    have ha := a.toNat_lt
    have hb := b.toNat_lt
    have hc := c.toNat_lt
    simp only [List.mem_cons, forall_eq_or_imp]
    refine ⟨by omega, by omega, by omega, by omega, ih⟩

/-- No bytes leave a single group over. -/
theorem length_ofBytes_mod (bs : Bytes) : (ofBytes bs).length % 4 ≠ 1 := by
  fun_induction ofBytes bs with
  | case1 => simp
  | case2 a => simp
  | case3 a b => simp
  | case4 a b c rest ih =>
    simp only [List.length_cons]
    omega

end Gatehouse.Codec.Sextet
