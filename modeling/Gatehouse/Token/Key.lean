import Gatehouse.Codec.Base64Url
import Gatehouse.Digest.Hmac
import Gatehouse.Failure.Basic
import Gatehouse.Json.Reader
import Gatehouse.Text.Split

/-!
# Signing keys

Tokens are signed with the bytes of the secret as it stands.  For verification
the secret is first read as a JSON text: a string or a number literal in it
stands for its own text, a list for each of its items, an object for a set of
keys or for one symmetric key.  A secret that is no JSON text stands for itself.

Text that looks like a certificate, a PEM block or an SSH key is refused both
for signing and for verification.

Main results:

- `candidates_of_not_json`: a secret that is no JSON text is its only candidate.
- `verify_plain`: under such a secret a signature verifies exactly when it is the
  authentication code.
-/

namespace Gatehouse.Token

open Gatehouse.Text

/-! ## Texts that are keys of another kind -/

/-- The labels of PEM blocks. -/
def pemLabels : List String := [
  "CERTIFICATE", "TRUSTED CERTIFICATE", "PRIVATE KEY", "PUBLIC KEY", "ENCRYPTED PRIVATE KEY",
  "OPENSSH PRIVATE KEY", "DSA PRIVATE KEY", "RSA PRIVATE KEY", "RSA PUBLIC KEY", "EC PRIVATE KEY",
  "DH PARAMETERS", "NEW CERTIFICATE REQUEST", "CERTIFICATE REQUEST", "SSH2 PUBLIC KEY",
  "SSH2 ENCRYPTED PRIVATE KEY", "X509 CRL"]

/-- The opening lines of PEM blocks; the fifth dash on either side may be a blank. -/
def pemMarks : List (List Char) :=
  pemLabels.flatMap fun label =>
    [('-', '-'), ('-', ' '), (' ', '-'), (' ', ' ')].map fun ends =>
      "----".toList ++ ends.1 :: ("BEGIN ".toList ++ label.toList ++ ends.2 :: "----".toList)

/-- The names of SSH key formats. -/
def sshFormats : List String := [
  "ssh-ed25519", "ssh-rsa", "ssh-dss", "ecdsa-sha2-nistp256", "ecdsa-sha2-nistp384",
  "ecdsa-sha2-nistp521"]

/-- ASCII white space. -/
def isAsciiSpace (c : Char) : Bool :=
  c == ' ' || (0x09 ≤ c.toNat && c.toNat ≤ 0x0d)

/-- The first word ends like the name of an SSH certificate and another word follows it on
the line. -/
def isSshCertificate (cs : List Char) : Bool :=
  let first := cs.takeWhile fun c => !isAsciiSpace c
  let rest := cs.dropWhile fun c => !isAsciiSpace c
  let gap := rest.takeWhile fun c => c == ' ' || c == '\t'
  let next := rest.dropWhile fun c => c == ' ' || c == '\t'
  "-cert-v01@openssh.com".toList.isSuffixOf first && !gap.isEmpty &&
    next.head?.any fun c => !isAsciiSpace c

/-- The text looks like a key that is no shared secret. -/
def looksForeign (s : String) : Bool :=
  let cs := s.toList
  pemMarks.any (occurs · cs) || sshFormats.any (fun f => occurs f.toList cs) ||
    isSshCertificate cs

/-! ## Candidates -/

/-- A value that a token may be verified with. -/
inductive Candidate
  /-- A shared secret by its text. -/
  | text (s : String)
  /-- A key described by an object. -/
  | described (fields : Keyed Json)
  /-- A value that is no key. -/
  | unusable
deriving Repr

/-- The candidate that a JSON value is; a number stands for its literal. -/
def Candidate.ofJson : Json → Candidate
  | .string s => .text s
  | .number (.integer literal) => .text literal
  | .number (.decimal literal) => .text literal
  | .object fields => .described fields
  | _ => .unusable

/-- The candidates of a set of keys: the items of a list, the names of an object, or the
characters of a text. -/
def keySet? : Json → Option (List Candidate)
  | .array items => some (items.map .ofJson)
  | .object fields => some (fields.map fun f => .text f.1)
  | v =>
    match Candidate.ofJson v with
    | .text s => some (s.toList.map fun c => .text (String.singleton c))
    | _ => none

/-- The values that a secret stands for when a token is verified. -/
def candidates (secret : String) : Except Fault (List Candidate) :=
  match Json.readUnbounded secret with
  | .error _ => .ok [.text secret]
  | .ok (.array items) => .ok (items.map .ofJson)
  | .ok (.object fields) =>
    match Keyed.lookup fields "keys" with
    | some v =>
      match keySet? v with
      | some cs => .ok cs
      | none => .error .typeMismatch
    | none =>
      if (Keyed.lookup fields "kty").isSome || fields.isEmpty then .ok [.described fields]
      else .ok (fields.map fun f => .ofJson f.2)
  | .ok v => .ok [.ofJson v]

/-- A secret that is no JSON text is its own and only candidate. -/
theorem candidates_of_not_json {secret : String} {e : Json.TextFault}
    (h : Json.readUnbounded secret = .error e) : candidates secret = .ok [.text secret] := by
  simp [candidates, h]

/-! ## Signing and verifying -/

/-- The key bytes of a candidate. -/
def Candidate.bytes : Candidate → Except Fault Bytes
  | .text s => if looksForeign s then .error .verificationKey else .ok (utf8 s)
  | .unusable => .error .verificationKey
  | .described fields =>
    if Json.isString (Keyed.lookup fields "kty") "oct" then
      match (Keyed.lookup fields "k").map Candidate.ofJson with
      | some (.text k) =>
        match Codec.Base64Url.decode? (utf8 k) with
        | some bs => .ok bs
        | none => .error .keyEncoding
      | _ => .error .missingMethod
    else .error .verificationKey

/-- The first candidate whose code matches decides; a bad one before it is a fault. -/
def verifyAny (message signature : Bytes) : List Candidate → Except Fault Bool
  | [] => .ok false
  | c :: rest =>
    match c.bytes with
    | .error e => .error e
    | .ok key =>
      if Digest.mac key message = signature then .ok true else verifyAny message signature rest

/-- A signature belongs to a message under a secret. -/
def verify (secret : String) (message signature : Bytes) : Except Fault Bool :=
  match candidates secret with
  | .error e => .error e
  | .ok cs => verifyAny message signature cs

/-- The signature of a message under a secret. -/
def sign (secret : String) (message : Bytes) : Except Fault Bytes :=
  if looksForeign secret then .error .signingKey else .ok (Digest.mac (utf8 secret) message)

/-- A plain secret verifies exactly the code that it computes. -/
theorem verify_plain {secret : String} {e : Json.TextFault}
    (hj : Json.readUnbounded secret = .error e) (hf : looksForeign secret = false)
    (message signature : Bytes) :
    verify secret message signature =
      .ok (decide (Digest.mac (utf8 secret) message = signature)) := by
  simp only [verify, candidates_of_not_json hj, verifyAny, Candidate.bytes, hf]
  by_cases h : Digest.mac (utf8 secret) message = signature <;> simp [h]

end Gatehouse.Token
