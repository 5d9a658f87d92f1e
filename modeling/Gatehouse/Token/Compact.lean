import Gatehouse.Codec.Base64Url
import Gatehouse.Failure.Basic
import Gatehouse.Json.Reader
import Gatehouse.Json.Writer
import Gatehouse.Text.Split

/-!
# Compact tokens

A token is three base64url segments with dots between them: a header, a payload,
and the signature of the first two as they are written.  Header and payload are
JSON objects.  Only the algorithm HS256 is accepted.

Main results:

- `Compact.read`: the parts of a token, or what is wrong with its structure.
- `signingText`: the text that is signed for a payload.
-/

namespace Gatehouse.Token

open Gatehouse.Text Gatehouse.Codec

/-! ## Segments -/

/-- The one algorithm of this service. -/
def algorithm : String := "HS256"

/-- The header of every issued token. -/
def header : Json :=
  .object [("alg", .string algorithm), ("typ", .string "JWT")]

/-- The segment of a JSON value. -/
def segment (v : Json) : List Char :=
  Base64Url.encodeList (utf8 v.render)

/-- The text that is signed for a payload. -/
def signingText (payload : Json) : List Char :=
  segment header ++ '.' :: segment payload

/-- The bytes of text that stands for itself in a token. -/
def textBytes (cs : List Char) : Bytes :=
  utf8 (String.ofList cs)

/-! ## Reading -/

/-- A token taken apart. -/
structure Compact where
  /-- The first two segments as they are written. -/
  signed : Bytes
  claims : Keyed Json
  signature : Bytes
deriving Repr

/-- The JSON object of a header segment. -/
def headerFields? (nesting : Nat) (segment : List Char) : Option (Keyed Json) := do
  let bytes ← Base64Url.decode? (textBytes segment)
  let s ← ofUtf8? bytes
  match Json.read nesting s with
  | .ok (.object fields) => some fields
  | _ => none

/-- The JSON object of a decoded payload. -/
def payloadFields (nesting : Nat) (payload : Bytes) : Except Failure (Keyed Json) :=
  match (ofUtf8? payload).map (Json.read nesting) with
  | some (.ok (.object fields)) => .ok fields
  | some (.ok _) => .error (.broken .payloadShape)
  | some (.error .tooDeep) => .error (.fault .nestedTooDeep)
  | _ => .error (.broken .payloadText)

/-- A token of three segments taken apart. -/
def Compact.ofSegments (nesting : Nat) (h p s : List Char) : Except Failure Compact :=
  match headerFields? nesting h, Base64Url.decode? (textBytes p),
    Base64Url.decode? (textBytes s) with
  | some fields, some payload, some signature =>
    match payloadFields nesting payload with
    | .error e => .error e
    | .ok claims =>
      let found := Keyed.lookup fields "alg"
      if Json.isString found algorithm then .ok ⟨textBytes (h ++ '.' :: p), claims, signature⟩
      else .error (.broken (.algorithm found))
  | _, _, _ => .error (.broken .header)

/-- The parts of a token, if its JSON texts nest no deeper than they are read; a missing text is no
token. -/
def Compact.read (nesting : Nat) : Option String → Except Failure Compact
  | none => .error (.broken .segments)
  | some t =>
    match pieces '.' t.toList with
    | [h, p, s] => ofSegments nesting h p s
    | _ => .error (.broken .segments)

end Gatehouse.Token
