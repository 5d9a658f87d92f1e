import Gatehouse.Cipher.Blowfish
import Gatehouse.Codec.Sextet
import Gatehouse.Text.Digits

/-!
# Password digests

A stored digest is the text `$2v$cc$` with a variant letter `v` and a two-digit
cost, followed by 22 characters for the salt and 31 for the checksum.  Both are
written six bits to a character in an alphabet that starts with a point.

A secret becomes the key of the cipher as its bytes and one zero byte, repeated
from the start up to 72 bytes.

Main results:

- `sextet?_symbol`: reading a written symbol gives its sextet back.
- `length_cyclicKey`: the key of any secret has 72 bytes.
-/

namespace Gatehouse.Password

open Gatehouse.Text Gatehouse.Codec

/-! ## The alphabet -/

/-- The symbol of a sextet. -/
def symbol (n : Nat) : Char :=
  Char.ofNat <|
    if n < 2 then 0x2e + n
    else if n < 28 then 0x41 + (n - 2)
    else if n < 54 then 0x61 + (n - 28)
    else 0x30 + (n - 54)

/-- The sextet of a symbol. -/
def sextet? (c : Char) : Option Nat :=
  let n := c.toNat
  if 0x2e ≤ n ∧ n ≤ 0x2f then some (n - 0x2e)
  else if 0x41 ≤ n ∧ n ≤ 0x5a then some (n - 0x41 + 2)
  else if 0x61 ≤ n ∧ n ≤ 0x7a then some (n - 0x61 + 28)
  else if 0x30 ≤ n ∧ n ≤ 0x39 then some (n - 0x30 + 54)
  else none

/-- Every six bits can be read back off their symbol. -/
theorem sextet?_symbol : ∀ s : Fin 64, sextet? (symbol s) = some s.val := by
  decide

/-- Bytes in the alphabet of digests. -/
def encodeBytes (bs : Bytes) : List Char :=
  (Sextet.ofBytes bs).map symbol

/-- The bytes of symbols, if all of them belong to the alphabet. -/
def decodeSymbols? (cs : List Char) : Option Bytes :=
  (cs.mapM sextet?).map Sextet.toBytes

/-! ## Digests -/

/-- A digest by its parts. -/
structure Digest where
  variant : Char
  cost : Nat
  salt : Bytes
  checksum : Bytes
deriving DecidableEq, Repr

/-- The variant letters that are checked, all of them alike. -/
def variants : List Char := ['a', 'b', 'x', 'y']

/-- The least and the greatest cost. -/
def minCost : Nat := 4

/-- The greatest cost. -/
def maxCost : Nat := 31

namespace Digest

/-- The text of a digest. -/
def renderList (d : Digest) : List Char :=
  '$' :: '2' :: d.variant :: '$' :: (padLeft 2 '0' (decimalList d.cost) ++
    '$' :: (encodeBytes d.salt ++ encodeBytes d.checksum))

/-- The text of a digest, as a string. -/
def render (d : Digest) : String :=
  String.ofList d.renderList

/-- The parts of a digest text. -/
def parse? (s : String) : Option Digest :=
  match s.toList with
  | '$' :: '2' :: v :: '$' :: a :: b :: '$' :: rest =>
    if v ∈ variants ∧ a.isDigit = true ∧ b.isDigit = true ∧ rest.length = 53 then
      let cost := 10 * (a.toNat - 0x30) + (b.toNat - 0x30)
      if minCost ≤ cost ∧ cost ≤ maxCost then do
        let salt ← decodeSymbols? (rest.take 22)
        let checksum ← decodeSymbols? (rest.drop 22)
        return ⟨v, cost, salt, checksum⟩
      else none
    else none
  | _ => none

end Digest

/-! ## Secrets -/

/-- The key of a secret: its bytes and a zero byte, repeated up to 72 bytes. -/
def cyclicKey (secret : Bytes) : Bytes :=
  Cipher.Blowfish.cyclic 72 (secret ++ [0])

/-- The key of a secret has 72 bytes. -/
theorem length_cyclicKey (secret : Bytes) : (cyclicKey secret).length = 72 := by
  simp [cyclicKey, Cipher.Blowfish.cyclic]

/-- The checksum of a secret. -/
def checksumOf (cost : Nat) (salt secret : Bytes) : Bytes :=
  (Cipher.Blowfish.digest cost salt (cyclicKey secret)).take 23

/-- The digest of a secret. -/
def Digest.ofSecret (variant : Char) (cost : Nat) (salt secret : Bytes) : Digest :=
  ⟨variant, cost, salt, checksumOf cost salt secret⟩

/-- A digest text is what is written for the digest of a secret with the text's own variant,
cost and salt. -/
def verifies (secret : Bytes) (digest : String) : Bool :=
  match Digest.parse? digest with
  | none => false
  | some d => (Digest.ofSecret d.variant d.cost d.salt secret).render = digest

end Gatehouse.Password
