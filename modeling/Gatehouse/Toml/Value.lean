import Gatehouse.Json.Value

/-!
# Values of a configuration document

A moment is kept as its text.  Seen from outside a value is a JSON value: a moment is an
object with one member, and what is no number is null.

Main results:

- Theorem {lit}`lookup?_append`: a name that is not there is looked up in what is added.
-/

namespace Gatehouse
namespace Toml

/-- A value of a document. -/
inductive Value where
  | string (s : String)
  | integer (n : Int)
  /-- A floating-point number, or nothing if it is none or infinite. -/
  | float (x : Option Double)
  | boolean (b : Bool)
  /-- A date, a time of day or both, as its text. -/
  | moment (text : String)
  | array (items : List Value)
  | table (members : List (String × Value))
deriving Repr, Inhabited

/-- The members of a table. -/
abbrev Members := List (String × Value)

/-- A member of a table. -/
def lookup? (members : Members) (name : String) : Option Value :=
  (members.find? fun m => m.1 == name).map (·.2)

/-- A name that is not there is looked up in what is added. -/
theorem lookup?_append {members more : Members} {name : String}
    (h : lookup? members name = none) : lookup? (members ++ more) name = lookup? more name := by
  simp only [lookup?, Option.map_eq_none_iff] at h
  simp [lookup?, List.find?_append, h]

namespace Value

/-- The key under which a moment stands. -/
def momentKey : String := "$__toml_private_datetime"

/-- A whole number as a JSON value. -/
def ofInteger (n : Int) : Json.Value :=
  if n < 0 then .number (.negative n.natAbs) else .number (.natural n.natAbs)

mutual

/-- A value as a JSON value. -/
def toJson : Value → Json.Value
  | .string s => .string s
  | .integer n => ofInteger n
  | .float (some x) => .number (.double x)
  | .float none => .null
  | .boolean b => .bool b
  | .moment text => .object [(momentKey, .string text)]
  | .array items => .array (itemsToJson items)
  | .table members => .object (membersToJson members)

/-- Values as JSON values. -/
def itemsToJson : List Value → List Json.Value
  | [] => []
  | item :: items => toJson item :: itemsToJson items

/-- The members of a table as those of an object. -/
def membersToJson : List (String × Value) → List (String × Json.Value)
  | [] => []
  | (key, value) :: members => (key, toJson value) :: membersToJson members

end

end Value
end Toml
end Gatehouse
