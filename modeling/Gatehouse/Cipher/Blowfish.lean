import Gatehouse.Cipher.PiDigits
import Gatehouse.Codec.Word

/-!
# Blowfish with a costly key schedule

Blowfish is a Feistel cipher of sixteen rounds on pairs of words, with eighteen
subkeys and four substitution boxes of 256 words.  Its schedule starts from the
digits of pi; keys and salts are mixed in by enciphering a running pair of words
over all of it.  Repeating that mixing `2 ^ cost` times makes a digest as slow as
wanted.

Main results:

- `digestWords`: the six words of the costly digest of a key with a salt.
- `length_encrypted`: enciphering keeps the number of words.
-/

namespace Gatehouse.Cipher.Blowfish

open Gatehouse.Text Gatehouse.Codec

/-! ## Schedules -/

/-- The subkeys and the four boxes one after another. -/
structure Schedule where
  subkeys : Array UInt32
  boxes : Array UInt32

/-- The words of pi that fill a schedule. -/
def initialWords : List UInt32 :=
  piWords 1042

/-- The schedule before any key. -/
def Schedule.initial : Schedule :=
  ⟨(initialWords.take 18).toArray, (initialWords.drop 18).toArray⟩

/-! ## Rounds -/

/-- The round function: one word of each box, chosen by the bytes of a word. -/
def mixWord (boxes : Array UInt32) (x : UInt32) : UInt32 :=
  let a := boxes.getD (x >>> 24).toNat 0
  let b := boxes.getD (256 + ((x >>> 16) &&& 0xff).toNat) 0
  let c := boxes.getD (512 + ((x >>> 8) &&& 0xff).toNat) 0
  let d := boxes.getD (768 + (x &&& 0xff).toNat) 0
  ((a + b) ^^^ c) + d

/-- A number of rounds from a given subkey on; each one swaps the halves. -/
def rounds (subkeys boxes : Array UInt32) : Nat → Nat → UInt32 → UInt32 → UInt32 × UInt32
  | 0, _, l, r => (l, r)
  | n + 1, i, l, r =>
    let l' := l ^^^ subkeys.getD i 0
    rounds subkeys boxes n (i + 1) (r ^^^ mixWord boxes l') l'

/-- Encipher a pair of words. -/
def encipher (subkeys boxes : Array UInt32) (l r : UInt32) : UInt32 × UInt32 :=
  let (x, y) := rounds subkeys boxes 16 0 l r
  (y ^^^ subkeys.getD 17 0, x ^^^ subkeys.getD 16 0)

/-! ## Mixing in keys -/

/-- Add the words of a key to the subkeys. -/
def addKey (key : Array UInt32) : Nat → Nat → Array UInt32 → Array UInt32
  | 0, _, subkeys => subkeys
  | n + 1, i, subkeys =>
    addKey key n (i + 1) (subkeys.set! i (subkeys.getD i 0 ^^^ key.getD i 0))

/-- Replace pairs of subkeys by the running pair, with the salt added before each step. -/
def fillSubkeys (salt boxes : Array UInt32) :
    Nat → Nat → UInt32 → UInt32 → Array UInt32 → UInt32 × UInt32 × Array UInt32
  | 0, _, l, r, subkeys => (l, r, subkeys)
  | n + 1, i, l, r, subkeys =>
    let (l', r') :=
      encipher subkeys boxes (l ^^^ salt.getD (i % 4) 0) (r ^^^ salt.getD ((i + 1) % 4) 0)
    fillSubkeys salt boxes n (i + 2) l' r' ((subkeys.set! i l').set! (i + 1) r')

/-- Replace pairs of box words by the running pair, with the salt going on from the subkeys. -/
def fillBoxes (salt subkeys : Array UInt32) :
    Nat → Nat → UInt32 → UInt32 → Array UInt32 → Array UInt32
  | 0, _, _, _, boxes => boxes
  | n + 1, i, l, r, boxes =>
    let (l', r') :=
      encipher subkeys boxes (l ^^^ salt.getD ((i + 2) % 4) 0) (r ^^^ salt.getD ((i + 3) % 4) 0)
    fillBoxes salt subkeys n (i + 2) l' r' ((boxes.set! i l').set! (i + 1) r')

/-- Mix a key and a salt into a schedule. -/
def Schedule.mix (s : Schedule) (salt key : Array UInt32) : Schedule :=
  match s with
  | ⟨subkeys, boxes⟩ =>
    let (l, r, subkeys') := fillSubkeys salt boxes 9 0 0 0 (addKey key 18 0 subkeys)
    ⟨subkeys', fillBoxes salt subkeys' 512 0 l r boxes⟩

/-- Mix the key and then the salt in, without a salt, as many times as given. -/
def Schedule.mixRepeatedly (key salt : Array UInt32) : Nat → Schedule → Schedule
  | 0, s => s
  | n + 1, s => mixRepeatedly key salt n ((s.mix #[] key).mix #[] salt)

/-! ## Digests -/

/-- A sequence repeated from its start to a given length. -/
def cyclic (length : Nat) (bs : Bytes) : Bytes :=
  (List.range length).map fun i => bs.getD (i % bs.length) 0

/-- The text whose enciphering is the digest. -/
def magicText : Bytes :=
  utf8 "OrpheanBeholderScryDoubt"

/-- Encipher a pair of words a number of times. -/
def encipherRepeatedly (subkeys boxes : Array UInt32) :
    Nat → UInt32 → UInt32 → UInt32 × UInt32
  | 0, l, r => (l, r)
  | n + 1, l, r =>
    let (l', r') := encipher subkeys boxes l r
    encipherRepeatedly subkeys boxes n l' r'

/-- Encipher each pair of words sixty-four times. -/
def encrypted (s : Schedule) : List UInt32 → List UInt32
  | l :: r :: rest =>
    let (l', r') := encipherRepeatedly s.subkeys s.boxes 64 l r
    l' :: r' :: encrypted s rest
  | ws => ws

/-- Encryption keeps the number of words. -/
theorem length_encrypted (s : Schedule) (ws : List UInt32) :
    (encrypted s ws).length = ws.length := by
  fun_induction encrypted s ws with
  | case1 l r rest l' r' h ih => simp [ih]
  | case2 ws h => rfl

/-- The words of the costly digest of a 72-byte key with a 16-byte salt. -/
def digestWords (cost : Nat) (salt key : Bytes) : List UInt32 :=
  let keyWords := (wordsOf key).toArray
  let saltWords := (wordsOf salt).toArray
  let saltKey := (wordsOf (cyclic 72 salt)).toArray
  let s := (Schedule.initial.mix saltWords keyWords).mixRepeatedly keyWords saltKey (Nat.pow 2 cost)
  encrypted s (wordsOf magicText)

/-- The bytes of the costly digest of a 72-byte key with a 16-byte salt. -/
def digest (cost : Nat) (salt key : Bytes) : Bytes :=
  (digestWords cost salt key).flatMap bytesOf

end Gatehouse.Cipher.Blowfish
