import Gatehouse.Digest.Sha256

/-!
# Keyed hashing

HMAC over SHA-256: a key of any length authenticates a message with thirty-two bytes.

Main results:

- `length_mac`: a code has thirty-two bytes.
-/

namespace Gatehouse.Digest

open Gatehouse.Text

/-- The key as one block: a long key is hashed first, a short one filled with zeros. -/
def keyBlock (key : Bytes) : Bytes :=
  let short := if 64 < key.length then Sha256.hash key else key
  short ++ List.replicate (64 - short.length) 0

/-- The authentication code of a message under a key. -/
def mac (key message : Bytes) : Bytes :=
  let block := keyBlock key
  Sha256.hash (block.map (· ^^^ 0x5c) ++ Sha256.hash (block.map (· ^^^ 0x36) ++ message))

/-- An authentication code has 32 bytes. -/
theorem length_mac (key message : Bytes) : (mac key message).length = 32 :=
  Sha256.length_hash _

end Gatehouse.Digest
