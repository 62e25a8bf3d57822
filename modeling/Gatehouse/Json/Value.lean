import Gatehouse.Number.Shortest
import Gatehouse.Text.Ordered

/-!
# JSON values and their text

A value is kept as it was read: the members of an object in the order of the text,
repeated keys included.  The canonical form sorts the members and keeps the last of
several with one key; free-form payloads are kept in that form.

The text of a value is compact: no blanks, control characters escaped, doubles in
the shortest form that reads back.

Main results:

- Theorem {lit}`Value.write_append`: writing in front of a text puts the value's own
  text there.

Current gaps:

- A key that a reader of JSON keeps to itself, for texts to be taken over as they stand, is
  a key like any other.
-/

namespace Gatehouse
namespace Json

/-- A number of a JSON text.  Whole numbers of 64 bits stay whole, everything else
is a double. -/
inductive Number where
  /-- A natural number below 2^64. -/
  | natural (n : Nat)
  /-- Minus a positive natural number up to 2^63. -/
  | negative (n : Nat)
  | double (x : Double)
deriving DecidableEq, Repr, Inhabited

/-- A JSON value as it was read. -/
inductive Value where
  | null
  | bool (b : Bool)
  | number (n : Number)
  | string (s : String)
  | array (items : List Value)
  | object (members : List (String × Value))
deriving Repr, Inhabited, BEq

/-! ## Text -/

/-- Doubles are positional from 1e-5 up to 1e16, and a positive exponent carries
its sign. -/
def Number.doubleStyle : DecimalStyle := ⟨-5, 16, true⟩

/-- The text of a number. -/
def Number.chars : Number → List Char
  | natural n => Text.decimalList n
  | negative n => '-' :: Text.decimalList n
  | double x => (x.write doubleStyle).toList

/-- The text of a character inside a string. -/
def escapeChar (c : Char) : List Char :=
  if c = '"' then ['\\', '"']
  else if c = '\\' then ['\\', '\\']
  else if c = '\n' then ['\\', 'n']
  else if c = '\r' then ['\\', 'r']
  else if c = '\t' then ['\\', 't']
  else if c.toNat = 0x08 then ['\\', 'b']
  else if c.toNat = 0x0C then ['\\', 'f']
  else if c.toNat < 0x20 then
    ['\\', 'u', '0', '0', Text.hexChar (c.toNat / 16), Text.hexChar (c.toNat % 16)]
  else [c]

/-- The text of the characters of a string up to and with the closing quote, in
front of a text. -/
def writeBody : List Char → List Char → List Char
  | [], rest => '"' :: rest
  | c :: cs, rest => escapeChar c ++ writeBody cs rest

/-- The text of a string, in front of a text. -/
def writeString (s : String) (rest : List Char) : List Char :=
  '"' :: writeBody s.toList rest

namespace Value

mutual

/-- The text of a value, in front of a text. -/
def write : Value → List Char → List Char
  | .null, rest => 'n' :: 'u' :: 'l' :: 'l' :: rest
  | .bool true, rest => 't' :: 'r' :: 'u' :: 'e' :: rest
  | .bool false, rest => 'f' :: 'a' :: 'l' :: 's' :: 'e' :: rest
  | .number n, rest => n.chars ++ rest
  | .string s, rest => writeString s rest
  | .array [], rest => '[' :: ']' :: rest
  | .array (item :: items), rest => '[' :: write item (writeItems items (']' :: rest))
  | .object [], rest => '{' :: '}' :: rest
  | .object ((key, value) :: members), rest =>
      '{' :: writeString key (':' :: write value (writeMembers members ('}' :: rest)))

/-- The text of further items of a list, each after a comma. -/
def writeItems : List Value → List Char → List Char
  | [], rest => rest
  | item :: items, rest => ',' :: write item (writeItems items rest)

/-- The text of further members of an object, each after a comma. -/
def writeMembers : List (String × Value) → List Char → List Char
  | [], rest => rest
  | (key, value) :: members, rest =>
      ',' :: writeString key (':' :: write value (writeMembers members rest))

end

/-- The compact text of a value. -/
def text (v : Value) : String :=
  String.ofList (v.write [])

/-! ## Canonical form -/

mutual

/-- The value with the members of every object sorted by key, the last of several
with one key kept. -/
def canonical : Value → Value
  | .array items => .array (canonicalItems items)
  | .object members => .object (Text.sortedMembers (canonicalMembers members))
  | v => v

/-- The items in canonical form. -/
def canonicalItems : List Value → List Value
  | [] => []
  | item :: items => canonical item :: canonicalItems items

/-- The members with their values in canonical form. -/
def canonicalMembers : List (String × Value) → List (String × Value)
  | [] => []
  | (key, value) :: members => (key, canonical value) :: canonicalMembers members

end

/-- A member of an object, the last one with the key. -/
def member? : Value → String → Option Value
  | .object members, key => (members.reverse.find? fun m => m.1 == key).map (·.2)
  | _, _ => none

end Value

/-! ## Writing in front of a text -/

theorem writeBody_append (cs rest more : List Char) :
    writeBody cs (rest ++ more) = writeBody cs rest ++ more := by
  induction cs with
  | nil => rfl
  | cons c cs ih => simp [writeBody, ih]

theorem writeString_append (s : String) (rest more : List Char) :
    writeString s (rest ++ more) = writeString s rest ++ more := by
  simp [writeString, writeBody_append]

namespace Value

mutual

/-- Writing in front of a text puts the value's own text there. -/
theorem write_append (v : Value) (rest more : List Char) :
    v.write (rest ++ more) = v.write rest ++ more := by
  match v with
  | .null | .bool true | .bool false => simp [write]
  | .number n => simp [write]
  | .string s => simp [write, writeString_append]
  | .array [] => simp [write]
  | .array (item :: items) =>
      simp only [write, List.cons_append]
      rw [← List.cons_append, writeItems_append items, write_append item]
  | .object [] => simp [write]
  | .object ((key, value) :: members) =>
      simp only [write, List.cons_append]
      rw [← List.cons_append, writeMembers_append members, write_append value,
        ← List.cons_append, writeString_append]

theorem writeItems_append (items : List Value) (rest more : List Char) :
    writeItems items (rest ++ more) = writeItems items rest ++ more := by
  match items with
  | [] => rfl
  | item :: items =>
      simp only [writeItems, List.cons_append]
      rw [writeItems_append items, write_append item]

theorem writeMembers_append (members : List (String × Value)) (rest more : List Char) :
    writeMembers members (rest ++ more) = writeMembers members rest ++ more := by
  match members with
  | [] => rfl
  | (key, value) :: members =>
      simp only [writeMembers, List.cons_append]
      rw [writeMembers_append members, write_append value, ← List.cons_append,
        writeString_append]

end

end Value
end Json
end Gatehouse
