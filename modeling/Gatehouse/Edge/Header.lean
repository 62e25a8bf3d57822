import Gatehouse.Text.Ascii
import Gatehouse.Text.Percent

/-!
# Header fields

The header of a message is a list of fields in the order in which they came; a name may
occur more than once.  A value is a list of bytes, and has a text only if all of them
are visible ASCII, spaces or tabs.

Main results:

- Theorem {lit}`Headers.all_append`: the values of a name, field by field.
- Theorem {lit}`Headers.all_without`: removing a name removes all of its values.
-/

namespace Gatehouse

/-- A field of a header; its name is in lower case. -/
structure HeaderField where
  name : String
  value : List UInt8
deriving DecidableEq, Repr

/-- The header of a message. -/
abbrev Headers := List HeaderField

namespace HeaderField

/-- A field with this name, in whatever case, and this value. -/
def ofBytes (name : String) (value : List UInt8) : HeaderField := ⟨Text.lower name, value⟩

/-- A field with this name and text. -/
def ofText (name text : String) : HeaderField := ofBytes name (Text.utf8 text)

/-- The text of a value, if it is readable. -/
def readable? (value : List UInt8) : Option String :=
  let chars := value.map fun b => Char.ofNat b.toNat
  if chars.all Text.isReadable then some (String.ofList chars) else none

end HeaderField

namespace Headers

/-- The values of a name, in order. -/
def all (headers : Headers) (name : String) : List (List UInt8) :=
  (headers.filter fun f => f.name == name).map HeaderField.value

/-- The first value of a name. -/
def first? (headers : Headers) (name : String) : Option (List UInt8) :=
  (headers.all name).head?

/-- The text of the first value of a name, if it is readable. -/
def text? (headers : Headers) (name : String) : Option String :=
  (headers.first? name).bind HeaderField.readable?

/-- The header without the fields of a name. -/
def without (headers : Headers) (name : String) : Headers :=
  headers.filter fun f => f.name != name

/-- The header with a single field of a name. -/
def put (headers : Headers) (name : String) (value : List UInt8) : Headers :=
  headers.without name ++ [⟨name, value⟩]

/-- The values of a name, field by field. -/
theorem all_append (a b : Headers) (name : String) :
    all (a ++ b) name = all a name ++ all b name := by
  simp [all]

/-- Removing a name removes all of its values. -/
@[simp] theorem all_without (headers : Headers) (name : String) :
    (headers.without name).all name = [] := by
  simp [all, without, List.filter_filter]

/-- Removing a name keeps the values of every other one. -/
theorem all_without_of_ne (headers : Headers) {name other : String} (h : other ≠ name) :
    (headers.without name).all other = headers.all other := by
  simp only [all, without, List.filter_filter]
  congr 1
  apply List.filter_congr
  intro f _
  by_cases hf : f.name = other
  · simp [hf, h]
  · simp [hf]

/-- After a field is put, it is the only one of its name. -/
@[simp] theorem all_put (headers : Headers) (name : String) (value : List UInt8) :
    (headers.put name value).all name = [value] := by
  rw [put, all_append, all_without]
  simp [all]

/-- Putting a field keeps the values of every other name. -/
theorem all_put_of_ne (headers : Headers) {name other : String} (h : other ≠ name)
    (value : List UInt8) : (headers.put name value).all other = headers.all other := by
  rw [put, all_append, all_without_of_ne headers h]
  simp [all, Ne.symm h]

end Headers
end Gatehouse
