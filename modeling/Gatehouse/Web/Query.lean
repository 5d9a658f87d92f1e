import Gatehouse.Keyed
import Gatehouse.Text.Percent
import Gatehouse.Text.Split

/-!
# Queries

The query of an address is a sequence of parameters with ampersands between them.
A plus sign stands for a blank, and percent escapes are replaced.  Of a repeated
parameter the last value counts.  A character outside ASCII belongs in an escape;
one that comes as it is counts as several, one for each of its bytes.

Main results:

- `parameter?`: the value of a parameter.
- `lastValue?_append`: a later value of a parameter replaces an earlier one.
-/

namespace Gatehouse.Web

open Gatehouse.Text

/-- The text of a name or a value in a query. -/
def queryText (cs : List Char) : String :=
  percentDecode (String.ofList (cs.map fun c => if c = '+' then ' ' else c))

/-- The name and the value of a parameter; without an equals sign the value is empty. -/
def readParameter (cs : List Char) : String × String :=
  let (name, value) := (cutFirst? '=' cs).getD (cs, [])
  (queryText name, queryText value)

/-- The parameters of a query, in order. -/
def parameters (query : String) : Keyed String :=
  ((pieces '&' (byteChars (utf8 query))).filter (· ≠ [])).map readParameter

/-- The last value of a name among parameters. -/
def lastValue? (ps : Keyed String) (name : String) : Option String :=
  Keyed.lookup ps.reverse name

/-- The last value of a name counts. -/
theorem lastValue?_append (ps : Keyed String) (name value : String) :
    lastValue? (ps ++ [(name, value)]) name = some value := by
  simp [lastValue?, Keyed.lookup]

/-- The value of a parameter of a query. -/
def parameter? (query name : String) : Option String :=
  lastValue? (parameters query) name

end Gatehouse.Web
