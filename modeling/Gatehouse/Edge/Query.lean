import Gatehouse.Text.Percent
import Gatehouse.Text.Split
import Gatehouse.Text.Utf8

/-!
# Queries

A query is pairs of names and values.  A plus sign stands for a space, and what is
percent-encoded is decoded; faulty bytes are replaced.
-/

namespace Gatehouse
namespace Query

/-- A part of a query, decoded. -/
def decode (text : List Char) : String :=
  let spaced := text.map fun c => if c = '+' then ' ' else c
  let encoded := (Text.utf8 (String.ofList spaced)).map fun b => Char.ofNat b.toNat
  Text.readUtf8 (Text.percentDecode encoded)

/-- A name with its value, which is empty without an equals sign. -/
def pair (text : List Char) : String × String :=
  match Text.splitOnceList '=' text with
  | some (name, value) => (decode name, decode value)
  | none => (decode text, "")

/-- The pairs of a query. -/
def pairs (query : String) : List (String × String) :=
  ((Text.splitList '&' query.toList).filter (!·.isEmpty)).map pair

/-- Whether a value has been looked up. -/
inductive Lookup where
  | found (value : Option String)
  /-- The name stands more than once. -/
  | repeated

/-- The value of a name that stands at most once. -/
def lookup (query : Option String) (name : String) : Lookup :=
  match ((query.map pairs).getD []).filter (·.1 == name) with
  | [] => .found none
  | [(_, value)] => .found (some value)
  | _ => .repeated

end Query
end Gatehouse
