import Gatehouse.Json.Scalar

/-!
# Lists, objects and free-form values

Containers may stand inside each other up to a limit; a value nobody asked for is
stepped over without one.

Main results:

- {lit}`Value.read`: reads a free-form value as it stands in the text.
-/

namespace Gatehouse
namespace Json

/-- Number of containers that may stand inside each other, plus one. -/
def nestingLimit : Nat := 128

/-! ## Between the brackets -/

/-- Looks for a further item of a list, behind the opening bracket or an item. -/
def hasItem (first : Bool) (c : Cursor) : Except Failure (Bool × Cursor) :=
  let c := c.skipSpace
  match c.rest with
  | [] => Failure.atNext .endInList c
  | ']' :: _ => .ok (false, c)
  | ch :: _ =>
      if first then .ok (true, c)
      else if ch = ',' then
        let c := c.advance.skipSpace
        match c.rest with
        | [] => Failure.atNext .endInValue c
        | ']' :: _ => Failure.atNext .trailingComma c
        | _ :: _ => .ok (true, c)
      else Failure.atNext .expectedListCommaOrEnd c

/-- Looks for a further member of an object, behind the opening bracket or a
member; a member starts with a quote. -/
def hasMember (first : Bool) (c : Cursor) : Except Failure (Bool × Cursor) :=
  let c := c.skipSpace
  match c.rest with
  | [] => Failure.atNext .endInObject c
  | '\x7d' :: _ => .ok (false, c)
  | ch :: _ =>
      if first then
        if ch = '"' then .ok (true, c) else Failure.atNext .keyMustBeText c
      else if ch = ',' then
        let c := c.advance.skipSpace
        match c.rest with
        | [] => Failure.atNext .endInValue c
        | '"' :: _ => .ok (true, c)
        | '\x7d' :: _ => Failure.atNext .trailingComma c
        | _ :: _ => Failure.atNext .keyMustBeText c
      else Failure.atNext .expectedObjectCommaOrEnd c

/-- Reads the colon between a key and its value. -/
def readColon (c : Cursor) : Except Failure Cursor :=
  let c := c.skipSpace
  match c.rest with
  | [] => Failure.atNext .endInObject c
  | ':' :: _ => .ok c.advance
  | _ :: _ => Failure.atNext .expectedColon c

/-- Reads the end of a list. -/
def closeList (c : Cursor) : Except Failure Cursor :=
  let c := c.skipSpace
  match c.rest with
  | [] => Failure.atNext .endInList c
  | ']' :: _ => .ok c.advance
  | ',' :: _ =>
      let c := c.advance.skipSpace
      if c.rest.head? = some ']' then Failure.atNext .trailingComma c
      else Failure.atNext .trailingCharacters c
  | _ :: _ => Failure.atNext .trailingCharacters c

/-- Reads the end of an object. -/
def closeObject (c : Cursor) : Except Failure Cursor :=
  let c := c.skipSpace
  match c.rest with
  | [] => Failure.atNext .endInObject c
  | '\x7d' :: _ => .ok c.advance
  | ',' :: _ => Failure.atNext .trailingComma c
  | _ :: _ => Failure.atNext .trailingCharacters c

/-- Reads a list at its opening bracket with a reader of what stands inside. -/
def inList {α : Type} (body : Reader α) : Reader α := fun c =>
  match body c.advance with
  | .error failure => .error (failure.settle ']')
  | .ok (a, c) =>
      match closeList c with
      | .error failure => .error failure
      | .ok c => .ok (a, c)

/-- Reads an object at its opening bracket with a reader of what stands inside. -/
def inObject {α : Type} (body : Reader α) : Reader α := fun c =>
  match body c.advance with
  | .error failure => .error (failure.settle '\x7d')
  | .ok (a, c) =>
      match closeObject c with
      | .error failure => .error failure
      | .ok c => .ok (a, c)

/-- Reads the items of a list, adding each to what has been read. -/
def foldItems {α : Type} (item : α → Reader α) : Nat → Bool → α → Reader α
  | 0, _, _, c => Failure.atNext .endInList c
  | fuel + 1, first, acc, c =>
      match hasItem first c with
      | .error failure => .error failure
      | .ok (false, c) => .ok (acc, c)
      | .ok (true, c) =>
          match item acc c with
          | .error failure => .error failure
          | .ok (acc, c) => foldItems item fuel false acc c

/-- Reads the members of an object, adding each to what has been read.  The member
reader starts at the opening quote of the key. -/
def foldMembers {α : Type} (member : α → Reader α) : Nat → Bool → α → Reader α
  | 0, _, _, c => Failure.atNext .endInObject c
  | fuel + 1, first, acc, c =>
      match hasMember first c with
      | .error failure => .error failure
      | .ok (false, c) => .ok (acc, c)
      | .ok (true, c) =>
          match member acc c with
          | .error failure => .error failure
          | .ok (acc, c) => foldMembers member fuel false acc c

/-- Reads the items of a list; each takes at least one character. -/
def readItems {α : Type} (item : α → Reader α) (acc : α) : Reader α := fun c =>
  foldItems item (c.rest.length + 1) true acc c

/-- Reads the members of an object; each takes at least one character. -/
def readMembers {α : Type} (member : α → Reader α) (acc : α) : Reader α := fun c =>
  foldMembers member (c.rest.length + 1) true acc c

/-! ## Free-form values -/

/-- Reads a key and the value behind its colon. -/
def readPair {α : Type} (value : Reader α) : Reader (String × α) := fun c => do
  let (key, c) ← readQuoted c
  let c ← readColon c
  let (a, c) ← value c
  return ((key, a), c)

/-- Reads a container, unless too many stand around it. -/
def nested {α : Type} (depth : Nat) (container : Reader α) : Reader α := fun c =>
  if depth = 0 then Failure.atNext .nestedTooDeep c else container c

namespace Value

/-- Reads a value inside fewer than so many containers. -/
def read : Nat → Reader Value
  | 0 => fun c => Failure.atNext .nestedTooDeep c
  | depth + 1 => fun c =>
      let c := c.skipSpace
      match c.rest with
      | [] => Failure.atNext .endInValue c
      | 'n' :: _ => do
          let ((), c) ← readWord ['u', 'l', 'l'] c.advance
          return (.null, c)
      | 't' :: _ => do
          let ((), c) ← readWord ['r', 'u', 'e'] c.advance
          return (.bool true, c)
      | 'f' :: _ => do
          let ((), c) ← readWord ['a', 'l', 's', 'e'] c.advance
          return (.bool false, c)
      | '"' :: _ => do
          let (s, c) ← readQuoted c
          return (.string s, c)
      | '[' :: _ =>
          nested depth (inList fun c => do
            let (items, c) ← readItems (fun items c => do
              let (item, c) ← read depth c
              return (item :: items, c)) [] c
            return (.array items.reverse, c)) c
      | '\x7b' :: _ =>
          nested depth (inObject fun c => do
            let (members, c) ← readMembers (fun members c => do
              let (member, c) ← readPair (read depth) c
              return (member :: members, c)) [] c
            return (.object members.reverse, c)) c
      | ch :: _ =>
          if ch = '-' ∨ ch.isDigit then do
            let (n, c) ← readNumber c
            return (.number n, c)
          else Failure.atNext .expectedValue c

end Value

/-- Steps over a value, with fuel for the characters that it may take. -/
def skipValueWith : Nat → Reader Unit
  | 0 => fun c => Failure.atNext .endInValue c
  | fuel + 1 => fun c =>
      let c := c.skipSpace
      match c.rest with
      | [] => Failure.atNext .endInValue c
      | 'n' :: _ => readWord ['u', 'l', 'l'] c.advance
      | 't' :: _ => readWord ['r', 'u', 'e'] c.advance
      | 'f' :: _ => readWord ['a', 'l', 's', 'e'] c.advance
      | '"' :: _ => skipQuoted c
      | '[' :: _ => inList (readItems (fun _ => skipValueWith fuel) ()) c
      | '\x7b' :: _ =>
          inObject (readMembers (fun _ c => do
            let ((), c) ← skipQuoted c
            let c ← readColon c
            skipValueWith fuel c) ()) c
      | ch :: _ =>
          if ch = '-' ∨ ch.isDigit then skipNumber c
          else Failure.atNext .expectedValue c

/-- Steps over a value that nobody asked for: it has to be well-formed, but may be
nested to any depth and hold any number. -/
def skipValue : Reader Unit := fun c => skipValueWith (c.rest.length + 1) c

/-- A whole text as a free-form value in canonical form. -/
def parse (text : List Char) : Except Fault Value :=
  (Reader.run (Value.read nestingLimit) text).map Value.canonical

end Json
end Gatehouse
