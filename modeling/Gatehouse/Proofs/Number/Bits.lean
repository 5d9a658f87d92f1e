import Gatehouse.Number.Exact
import Gatehouse.Proofs.Number.Rounding

/-!
# The bits of binary64 numbers

A number is told by its sign, its exponent and its fraction.  Packing what was unpacked gives the
number back, and what is unpacked from a finite number is a sign with a canonical mantissa and
exponent.

Main results:

- `pack_unpack`: a number is packed from what is unpacked from it.
- `unpack_pack`: a canonical mantissa and exponent are unpacked again.
- `binary_eq`: the parts of a number are those that are unpacked from it.
-/

namespace Gatehouse.Number

open Float.Model Float.Model.UnpackedFloat

/-! ## Fields -/

section Fields

variable (bits : BitVec 64)

/-- The fraction of a number is its last fifty-two bits. -/
theorem toNat_unpackMantissa :
    (@unpackMantissa .binary64 bits).toNat = bits.toNat % 2 ^ 52 := by
  simp [unpackMantissa]

/-- The exponent of a number is the eleven bits before that. -/
theorem toNat_unpackExponent :
    (@unpackExponent .binary64 bits).toNat = bits.toNat / 2 ^ 52 % 2048 := by
  simp [unpackExponent, Nat.shiftRight_eq_div_pow]

/-- The sign of a number is its first bit. -/
theorem toNat_unpackSign : (@unpackSign .binary64 bits).toNat = bits.toNat / 2 ^ 63 := by
  have := bits.isLt
  simp [unpackSign, Nat.shiftRight_eq_div_pow]
  omega

end Fields

/-! ## Packing and unpacking -/

/-- A full mantissa is its fraction behind a leading bit. -/
theorem toNat_leading (fraction : BitVec 52) :
    (1#1 ++ fraction).toNat = 2 ^ 52 + fraction.toNat := by
  rw [BitVec.toNat_append, ← Nat.shiftLeft_add_eq_or_of_lt fraction.isLt]
  rfl

/-- The sign of a number. -/
def signOf (bits : BitVec 64) : Sign :=
  Sign.ofBitVec (@unpackSign .binary64 bits)

/-- What is unpacked, by the fields of a number. -/
theorem unpack_cases (bits : BitVec 64) :
    let exponent := (@unpackExponent .binary64 bits).toNat
    let fraction := (@unpackMantissa .binary64 bits).toNat
    (exponent = 2047 ∧ fraction = 0 ∧
      UnpackedFloat.unpack .binary64 bits = .infinity (signOf bits)) ∨
    (exponent = 2047 ∧ fraction ≠ 0 ∧ UnpackedFloat.unpack .binary64 bits = .notANumber) ∨
    (exponent = 0 ∧ fraction = 0 ∧ UnpackedFloat.unpack .binary64 bits = .zero (signOf bits)) ∨
    (exponent = 0 ∧ ∃ p, UnpackedFloat.unpack .binary64 bits =
      .finite (signOf bits) fraction (-1074) p) ∨
    (exponent ≠ 0 ∧ exponent ≠ 2047 ∧ ∃ p, UnpackedFloat.unpack .binary64 bits =
      .finite (signOf bits) (2 ^ 52 + fraction) ((exponent : Int) - 1075) p) := by
  intro exponent fraction
  have bias : (Format.binary64.exponentBias : Int) = 1023 := by norm_num [Format.exponentBias]
  have isTop : @unpackExponent .binary64 bits = -1#11 ↔ exponent = 2047 := BitVec.toNat_inj.symm
  have isZero : @unpackExponent .binary64 bits = 0#11 ↔ exponent = 0 := BitVec.toNat_inj.symm
  have isEmpty : @unpackMantissa .binary64 bits = 0#52 ↔ fraction = 0 := BitVec.toNat_inj.symm
  unfold UnpackedFloat.unpack
  simp only [isTop, isZero, isEmpty]
  by_cases top : exponent = 2047
  · by_cases empty : fraction = 0 <;> simp [top, empty, signOf]
  · by_cases zero : exponent = 0
    · by_cases empty : fraction = 0
      · simp [zero, empty, signOf]
      · right; right; right; left
        refine ⟨zero, Nat.pos_of_ne_zero empty, ?_⟩
        simp only [zero, empty, dif_neg, not_false_eq_true, if_true, signOf,
          show (0 : Nat) ≠ 2047 by decide, if_false, UnpackedFloat.finite.injEq, true_and]
        exact ⟨rfl, by omega⟩
    · right; right; right; right
      refine ⟨zero, top, by omega, ?_⟩
      simp only [if_neg zero, if_neg top, signOf, toNat_leading, UnpackedFloat.finite.injEq,
        true_and]
      exact ⟨rfl, by omega⟩

/-- What is unpacked from a finite number other than zero is a canonical mantissa with a canonical
exponent that is in range. -/
theorem canonical_of_unpack {bits : BitVec 64} {s : Sign} {m : Nat} {e : Int} {p : 0 < m}
    (h : UnpackedFloat.unpack .binary64 bits = .finite s m e p) : Canonical m e ∧ e ≤ 971 := by
  have short : (@unpackMantissa .binary64 bits).toNat < 2 ^ 52 := BitVec.isLt _
  have range : (@unpackExponent .binary64 bits).toNat < 2 ^ 11 := BitVec.isLt _
  rcases unpack_cases bits with ⟨_, _, found⟩ | ⟨_, _, found⟩ | ⟨_, _, found⟩ | ⟨_, _, found⟩ |
    ⟨_, _, _, found⟩ <;> rw [h] at found <;> cases found
  · exact ⟨⟨p, by omega, le_rfl, .inr rfl⟩, by omega⟩
  · exact ⟨⟨p, by omega, by omega, .inl (by omega)⟩, by omega⟩

/-- The bits of a canonical mantissa and exponent. -/
theorem pack_finite {s : Sign} {m : Nat} {e : Int} (canonical : Canonical m e) (range : e ≤ 971) :
    UnpackedFloat.pack .binary64 (.finite s m e canonical.positive) =
      packComponents .binary64 s
        (BitVec.ofNat 11 (if 2 ^ 52 ≤ m then (e + 1075).toNat else 0)) (BitVec.ofNat 52 m) := by
  obtain ⟨positive, short, least, full⟩ := canonical
  have bias : e + (Format.binary64.exponentBias : Int) + (52 : Nat) = e + 1075 := by
    norm_num [Format.exponentBias]
    ring
  simp only [UnpackedFloat.pack, bias]
  rw [if_neg (by norm_num; omega)]
  by_cases leading : 2 ^ 52 ≤ m
  · have bits : m.log2 = 52 := (Nat.log2_eq_iff positive.ne').2 ⟨leading, short⟩
    rw [if_pos (by simp [bits, Format.mantissaBits]), if_pos leading]
  · have bits : m.log2 < 52 := (Nat.log2_lt positive.ne').2 (by omega)
    rw [if_neg (by simp only [Format.mantissaBits]; omega), if_neg leading]

/-- A canonical mantissa and exponent are unpacked again. -/
theorem unpack_pack {s : Sign} {m : Nat} {e : Int} (canonical : Canonical m e) (range : e ≤ 971) :
    (Float.Model.pack (.finite s m e canonical.positive)).unpack =
      .finite s m e canonical.positive := by
  have packed := pack_finite (s := s) canonical range
  obtain ⟨positive, short, least, full⟩ := canonical
  have same : (Float.Model.pack (.finite s m e positive)).unpack =
      UnpackedFloat.unpack .binary64
        (UnpackedFloat.pack .binary64 (.finite s m e positive)) := rfl
  rw [same, packed]
  unfold UnpackedFloat.unpack
  simp only [unpackMantissa_packComponents, unpackExponent_packComponents,
    unpackSign_packComponents, Sign.ofBitVec_toBitVec]
  by_cases leading : 2 ^ 52 ≤ m
  · have field : (BitVec.ofNat 11 (e + 1075).toNat).toNat = (e + 1075).toNat := by
      rw [BitVec.toNat_ofNat]
      omega
    have notTop : BitVec.ofNat 11 (e + 1075).toNat ≠ -1#11 := by
      intro same
      have := congrArg BitVec.toNat same
      rw [field, show (-1#11).toNat = 2047 from rfl] at this
      omega
    have notZero : BitVec.ofNat 11 (e + 1075).toNat ≠ 0#11 := by
      intro same
      have := congrArg BitVec.toNat same
      rw [field, show (0#11).toNat = 0 from rfl] at this
      omega
    simp only [if_pos leading, if_neg notTop, if_neg notZero, UnpackedFloat.finite.injEq, true_and,
      toNat_leading, field, BitVec.toNat_ofNat, Format.exponentBias]
    norm_num
    omega
  · have fraction : (BitVec.ofNat 52 m).toNat = m := by
      rw [BitVec.toNat_ofNat]
      omega
    have notZero : BitVec.ofNat 52 m ≠ 0#52 := by
      intro same
      have := congrArg BitVec.toNat same
      rw [fraction, show (0#52).toNat = 0 from rfl] at this
      omega
    simp only [if_neg leading, show BitVec.ofNat 11 0 ≠ -1#11 by decide, if_false, if_true,
      dif_neg notZero, UnpackedFloat.finite.injEq, true_and, fraction, Format.exponentBias]
    norm_num
    omega

/-- A number is packed from what is unpacked from it. -/
theorem pack_unpack (f : Float.Model) : Float.Model.pack f.unpack = f := by
  cases f with
  | mk bits valid =>
    simp only [Float.Model.pack, Float.Model.unpack, pack_unpack_of_valid valid]

/-! ## The parts of a number -/

/-- A sign is that of the negative numbers. -/
def isNegative : Sign → Bool
  | .negative => true
  | .positive => false

/-- A sign is negative if its bit is one. -/
theorem isNegative_ofBitVec (b : BitVec 1) : isNegative (Sign.ofBitVec b) = (b.toNat == 1) := by
  revert b
  decide

/-- The parts of what is unpacked from a number. -/
def partsOf : UnpackedFloat → Binary
  | .notANumber => .nan
  | .infinity s => .infinite (isNegative s)
  | .zero s => .finite (isNegative s) 0 (-1074)
  | .finite s m e _ => .finite (isNegative s) m e

/-- The parts of a number are those that are unpacked from it. -/
theorem binary_eq (x : Float) : binary x = partsOf x.toModel.unpack := by
  have sign : isNegative (signOf x.toModel.toBits.toBitVec) =
      (x.toBits.toNat / (2048 * leadingBit) == 1) := by
    rw [signOf, isNegative_ofBitVec, toNat_unpackSign]
    rfl
  have exponent : (@unpackExponent .binary64 x.toModel.toBits.toBitVec).toNat =
      x.toBits.toNat / leadingBit % 2048 := toNat_unpackExponent _
  have fraction : (@unpackMantissa .binary64 x.toModel.toBits.toBitVec).toNat =
      x.toBits.toNat % leadingBit := toNat_unpackMantissa _
  simp only [binary, Float.Model.unpack, ← sign, ← exponent, ← fraction]
  rcases unpack_cases x.toModel.toBits.toBitVec with ⟨top, empty, found⟩ | ⟨top, payload, found⟩ |
    ⟨zero, empty, found⟩ | ⟨zero, p, found⟩ | ⟨normal, finite, p, found⟩
  · simp [found, partsOf, top, empty]
  · simp [found, partsOf, top, payload]
  · simp [found, partsOf, zero, empty]
  · simp [found, partsOf, zero]
  · simp [found, partsOf, normal, finite, leadingBit]

end Gatehouse.Number
