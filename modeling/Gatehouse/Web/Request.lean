import Gatehouse.Text.Encoding
import Gatehouse.Text.Percent
import Gatehouse.Text.Split
import Gatehouse.Web.Authority
import Gatehouse.Web.Header

/-!
# Requests

A request has a method, a path, a query, headers and a body.  Its address is a text that is put
together from an authority, the path and the query, and then split again.  The path of the address
starts with a slash, and characters that would end the path are escaped in it.

Where the authority of the address comes from is a matter of whoever hands the request on, and
nothing is assumed of it.  Unless another one is given, it is the checked one: the host of the
headers, or else the server that the request came to, when the headers name no authority with a
number in range.

The parts of an address are what its text is split into: what stands before the first slash,
question mark or hash is the authority.  Tabs and line breaks are left out.

Main results:

- `Authority.checked_of_read?`: a proper host is named as it is.
-/

namespace Gatehouse.Web

open Gatehouse.Text

/-! ## Addresses -/

/-- The parts of an address after its scheme. -/
structure Address where
  authority : List Char
  path : List Char
  query : List Char
  fragment : List Char
deriving DecidableEq, Repr

/-- A part of an address with the character that introduces it, unless it is empty. -/
def introduced (mark : Char) (part : List Char) : List Char :=
  if part.isEmpty then [] else mark :: part

/-- The text of an address after its scheme. -/
def Address.text (a : Address) : List Char :=
  a.authority ++ a.path ++ introduced '?' a.query ++ introduced '#' a.fragment

/-- A character that is left out of the parts of an address. -/
def isDropped (c : Char) : Bool :=
  c == '\t' || c == '\n' || c == '\r'

/-- A part of an address without the characters that are left out. -/
def cleaned (part : List Char) : List Char :=
  part.filter fun c => !isDropped c

/-- A character with which an authority is over. -/
def endsAuthority (c : Char) : Bool :=
  c == '/' || c == '?' || c == '#'

/-- The parts of a text before and after the first occurrence of a character, the second one
empty if there is none. -/
def cutAt (mark : Char) (text : List Char) : List Char × List Char :=
  (cutFirst? mark text).getD (text, [])

/-- The parts of the text of an address after its scheme. -/
def Address.split (text : List Char) : Address :=
  let rest := (cleaned text).dropWhile fun c => !endsAuthority c
  let (rest, fragment) := cutAt '#' rest
  let (path, query) := cutAt '?' rest
  ⟨(cleaned text).takeWhile fun c => !endsAuthority c, path, query, fragment⟩

/-- A character that would not be taken for a part of a path. -/
def leavesPath (c : Char) : Bool :=
  c == '?' || c == '#' || c == '\\'

/-- A path as it stands in an address: with a slash in front, unless it is empty. -/
def pathText (path : String) : List Char :=
  let cs := (percentEncode (fun c => !leavesPath c) path).toList
  if cs.isEmpty || cs.head? == some '/' then cs else '/' :: cs

/-! ## Requests -/

/-- The authority of a host, if it is one with a number in range, and else the name of the
server. -/
def Authority.checked (host server : String) : List Char :=
  match Authority.read? host.toList with
  | some a => if a.isInRange then a.text else server.toList
  | none => server.toList

/-- A host with a number in range is named as it is. -/
theorem Authority.checked_of_read? {host server : String} {a : Authority}
    (h : Authority.read? host.toList = some a) (hp : a.isInRange = true) :
    Authority.checked host server = host.toList := by
  simp [Authority.checked, h, hp, Authority.text_of_read? h]

/-- A request. -/
structure Request where
  method : String
  path : String
  query : String
  headers : Headers
  body : Bytes
  /-- The name of the server that the request came to. -/
  server : String
  /-- The peer of the connection, if it is known. -/
  peer : Option Peer
  /-- The authority in the text of the address. -/
  authority : List Char := Authority.checked ((first? headers "host").getD "") server
deriving Repr

namespace Request

/-- The host that a request names. -/
def host (r : Request) : String :=
  (first? r.headers "host").getD ""

/-- The text of the address of a path and the query of a request, after the scheme. -/
def addressText (r : Request) (path : String) : List Char :=
  r.authority ++ pathText path ++ introduced '?' r.query.toList

/-- The address of a request. -/
def address (r : Request) : Address :=
  .split (r.addressText r.path)

/-- The path of the address of a request. -/
def shownPath (r : Request) : String :=
  String.ofList r.address.path

/-- The host of the peer, as it is written to the log. -/
def peerText (r : Request) : String :=
  match r.peer with
  | some p => p.host
  | none => unknownClient

end Request

end Gatehouse.Web
