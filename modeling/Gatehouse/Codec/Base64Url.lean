import Gatehouse.Codec.Sextet

/-!
# Base64url segments

Segments are written in the URL-safe alphabet without padding.  They are read
leniently: both alphabets are accepted, characters outside them are skipped, and
padding ends the segment where it completes a group of four.

Main results:

- `value?_symbol`: reading a written symbol gives its sextet back.
- `decode?_encode`: a written segment reads back as its bytes.
-/

namespace Gatehouse.Codec.Base64Url

open Gatehouse.Text

/-! ## The alphabet -/

/-- The URL-safe symbol of a sextet. -/
def symbol (n : Nat) : Char :=
  Char.ofNat <|
    if n < 26 then 0x41 + n
    else if n < 52 then 0x61 + (n - 26)
    else if n < 62 then 0x30 + (n - 52)
    else if n = 62 then 0x2d
    else 0x5f

/-- The sextet of a symbol of either alphabet. -/
def value? (b : UInt8) : Option Nat :=
  let n := b.toNat
  if 0x41 ≤ n ∧ n ≤ 0x5a then some (n - 0x41)
  else if 0x61 ≤ n ∧ n ≤ 0x7a then some (n - 0x61 + 26)
  else if 0x30 ≤ n ∧ n ≤ 0x39 then some (n - 0x30 + 52)
  else if n = 0x2d ∨ n = 0x2b then some 62
  else if n = 0x5f ∨ n = 0x2f then some 63
  else none

/-- Every six bits can be read back off their symbol. -/
theorem value?_symbol : ∀ s : Fin 64, value? (UInt8.ofNat (symbol s).toNat) = some s.val := by
  decide

/-! ## Writing -/

/-- The text of a segment. -/
def encodeList (bs : Bytes) : List Char :=
  (Sextet.ofBytes bs).map symbol

/-! ## Reading -/

/-- The sextets of a padded segment, or nothing when it ends inside a group.

`quad` counts the sextets of the current group and `pads` the padding characters
since the last of them. -/
def collect? : Nat → Nat → Bytes → Option (List Nat)
  | quad, _, [] => if quad = 0 then some [] else none
  | quad, pads, b :: rest =>
    if b = 0x3d then
      if 2 ≤ quad then
        if 4 ≤ quad + (pads + 1) then some [] else collect? quad (pads + 1) rest
      else collect? quad pads rest
    else
      match value? b with
      | none => collect? quad pads rest
      | some s => (collect? ((quad + 1) % 4) 0 rest).map (s :: ·)

/-- A segment filled up with padding to a multiple of four bytes. -/
def padded (bs : Bytes) : Bytes :=
  bs ++ List.replicate ((4 - bs.length % 4) % 4) 0x3d

/-- The bytes of a segment. -/
def decode? (segment : Bytes) : Option Bytes :=
  (collect? 0 0 (padded segment)).map Sextet.toBytes

/-! ## Both ways -/

/-- The bytes of a written segment. -/
def symbolBytes (ss : List Nat) : Bytes :=
  ss.map fun s => UInt8.ofNat (symbol s).toNat

/-- No symbol is the padding character. -/
theorem symbol_ne_pad : ∀ s : Fin 64, UInt8.ofNat (symbol s).toNat ≠ 0x3d := by
  decide

/-- Symbols are collected one by one, whatever follows them. -/
theorem collect?_symbolBytes_append (ss : List Nat) (h : ∀ s ∈ ss, s < 64) (rest : Bytes)
    (quad : Nat) (hq : quad < 4) :
    collect? quad 0 (symbolBytes ss ++ rest) =
      (collect? ((quad + ss.length) % 4) 0 rest).map (ss ++ ·) := by
  induction ss generalizing quad with
  | nil => simp [symbolBytes, Nat.mod_eq_of_lt hq]
  | cons s ss ih =>
    have hs : s < 64 := h s List.mem_cons_self
    have hv := value?_symbol ⟨s, hs⟩
    have hp := symbol_ne_pad ⟨s, hs⟩
    have ih' := ih (fun t ht => h t (List.mem_cons_of_mem _ ht)) ((quad + 1) % 4)
      (Nat.mod_lt _ (by decide))
    simp only [symbolBytes, List.map_cons, List.cons_append] at ih' ⊢
    rw [collect?, if_neg hp]
    simp only [hv]
    rw [ih', Option.map_map, List.length_cons,
      show ((quad + 1) % 4 + ss.length) % 4 = (quad + (ss.length + 1)) % 4 by omega]
    rfl

/-- Decoding the symbols of bytes recovers the bytes. -/
theorem decode?_encode (bs : Bytes) : decode? (symbolBytes (Sextet.ofBytes bs)) = some bs := by
  have hm := Sextet.length_ofBytes_mod bs
  have hl : (symbolBytes (Sextet.ofBytes bs)).length = (Sextet.ofBytes bs).length := by
    simp [symbolBytes]
  rw [decode?, padded, collect?_symbolBytes_append _ (Sextet.ofBytes_lt bs) _ 0 (by decide), hl,
    Nat.zero_add]
  have hr : (Sextet.ofBytes bs).length % 4 = 0 ∨ (Sextet.ofBytes bs).length % 4 = 2 ∨
      (Sextet.ofBytes bs).length % 4 = 3 := by omega
  rcases hr with hr | hr | hr <;>
    simp [hr, collect?, List.replicate, Sextet.toBytes_ofBytes]

end Gatehouse.Codec.Base64Url
