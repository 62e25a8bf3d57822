import Gatehouse.Json.Container

/-!
# Readers for typed values

A typed value is read directly from the text, so that the first fault of the text
or of the shape is the one reported.  A record may stand as an object with its
fields in any order or as a list of its fields in order; fields of other names are
stepped over.  A name of a fixed choice may stand alone or as the key of an object
with the value null.
-/

namespace Gatehouse
namespace Json

/-- Refuses the value at the cursor, which is of another kind than expected. -/
def refuseKind {α : Type} (expected : String) (c : Cursor) : Except Failure α :=
  let refuse (found : Found) (c : Cursor) : Except Failure α :=
    Failure.atHere (.mismatch (.invalidType found expected)) c
  match c.rest with
  | 'n' :: _ => do
      let ((), c) ← readWord ['u', 'l', 'l'] c.advance
      refuse .null c
  | 't' :: _ => do
      let ((), c) ← readWord ['r', 'u', 'e'] c.advance
      refuse (.boolean true) c
  | 'f' :: _ => do
      let ((), c) ← readWord ['a', 'l', 's', 'e'] c.advance
      refuse (.boolean false) c
  | '"' :: _ => do
      let (s, c) ← readQuoted c
      refuse (.text s) c
  | '[' :: _ => refuse .sequence c
  | '\x7b' :: _ => refuse .map c
  | ch :: _ =>
      if ch = '-' ∨ ch.isDigit then do
        let (n, c) ← readNumber c
        refuse (.number n) c
      else Failure.atNext .expectedValue c
  | [] => Failure.atNext .expectedValue c

/-- Reads a string. -/
def readText (expected : String) : Reader String := fun c =>
  let c := c.skipSpace
  match c.rest with
  | [] => Failure.atNext .endInValue c
  | '"' :: _ => readQuoted c
  | _ => refuseKind expected c

/-- What strings are called in messages. -/
def textKind : String := "a string"

/-- A natural number of at most so many bits, from a number of a text. -/
def Number.toNat (limit : Nat) (kind : String) : Number → Except Mismatch Nat
  | natural n =>
      if n < limit then .ok n else .error (.invalidValue (.number (natural n)) kind)
  | negative n => .error (.invalidValue (.number (negative n)) kind)
  | double x => .error (.invalidType (.number (double x)) kind)

/-- Natural numbers of 64 bits. -/
abbrev Word := Fin 18446744073709551616

/-- The lowest 64 bits of a natural number. -/
def Word.ofNat (n : Nat) : Word := ⟨n % 18446744073709551616, Nat.mod_lt n (by decide)⟩

/-- What natural numbers of 64 bits are called in messages. -/
def wordKind : String := "u64"

/-- A natural number of 64 bits, from a number of a text. -/
def Number.toWord (n : Number) : Except Mismatch Word :=
  match n with
  | .natural m =>
      if h : m < 18446744073709551616 then .ok ⟨m, h⟩
      else .error (.invalidValue (.number n) wordKind)
  | .negative _ => .error (.invalidValue (.number n) wordKind)
  | .double _ => .error (.invalidType (.number n) wordKind)

/-- Reads a natural number of 64 bits. -/
def readWord64 : Reader Word := fun c =>
  let c := c.skipSpace
  match c.rest with
  | [] => Failure.atNext .endInValue c
  | ch :: _ =>
      if ch = '-' ∨ ch.isDigit then do
        let (n, c) ← readNumber c
        match n.toWord with
        | .ok word => .ok (word, c)
        | .error m => Failure.atHere (.mismatch m) c
      else refuseKind wordKind c

/-- Reads a value or null. -/
def readOptional {α : Type} (value : Reader α) : Reader (Option α) := fun c =>
  let c := c.skipSpace
  match c.rest with
  | 'n' :: _ => do
      let ((), c) ← readWord ['u', 'l', 'l'] c.advance
      return (none, c)
  | _ => do
      let (a, c) ← value c
      return (some a, c)

/-! ## Choices of names -/

/-- Reads one of a choice of names at its place in the text. -/
def readName {α : Type} (ofName? : String → Option α) (names : List String) : Reader α :=
  fun c => do
    let (name, c) ← readText "variant identifier" c
    match ofName? name with
    | some a => .ok (a, c)
    | none => Failure.atHere (.mismatch (.unknownVariant name names)) c

/-- Reads null. -/
def readNull : Reader Unit := fun c =>
  let c := c.skipSpace
  match c.rest with
  | [] => Failure.atNext .endInValue c
  | 'n' :: _ => readWord ['u', 'l', 'l'] c.advance
  | _ => refuseKind "unit" c

/-- Reads one of a choice of names, alone or as the key of an object whose value is
null. -/
def readChoice {α : Type} (depth : Nat) (ofName? : String → Option α)
    (names : List String) : Reader α := fun c =>
  let c := c.skipSpace
  match c.rest with
  | [] => Failure.atNext .endInValue c
  | '"' :: _ => readName ofName? names c
  | '\x7b' :: _ =>
      nested depth (fun c => do
        let (a, c) ← readName ofName? names c.advance
        let c ← readColon c
        let ((), c) ← readNull c
        let c := c.skipSpace
        match c.rest with
        | [] => Failure.atHere .endInObject c
        | '\x7d' :: _ => .ok (a, c.advance)
        | _ :: _ => Failure.atHere .expectedValue c) c
  | _ => Failure.atNext .expectedValue c

/-! ## Lists and maps -/

/-- Reads a list of values inside fewer than so many containers. -/
def readList {α : Type} (item : Nat → Reader α) : Nat → Reader (List α)
  | 0 => fun c => Failure.atNext .nestedTooDeep c
  | depth + 1 => fun c =>
      let c := c.skipSpace
      match c.rest with
      | [] => Failure.atNext .endInValue c
      | '[' :: _ =>
          nested depth (inList fun c => do
            let (items, c) ← readItems (fun items c => do
              let (a, c) ← item depth c
              return (a :: items, c)) [] c
            return (items.reverse, c)) c
      | _ => refuseKind "a sequence" c

/-- Reads an object whose members all have values of one kind. -/
def readMap {α : Type} (value : Nat → Reader α) : Nat → Reader (List (String × α))
  | 0 => fun c => Failure.atNext .nestedTooDeep c
  | depth + 1 => fun c =>
      let c := c.skipSpace
      match c.rest with
      | [] => Failure.atNext .endInValue c
      | '\x7b' :: _ =>
          nested depth (inObject fun c => do
            let (members, c) ← readMembers (fun members c => do
              let (member, c) ← readPair (value depth) c
              return (member :: members, c)) [] c
            return (members.reverse, c)) c
      | _ => refuseKind "a map" c

/-! ## Records -/

/-- A field of a record that is read into a draft of it. -/
structure Field (δ : Type) where
  name : String
  /-- Whether the draft has the field already. -/
  given : δ → Bool
  /-- Reads the field into the draft, inside fewer than so many containers. -/
  read : Nat → δ → Reader δ
  /-- Whether the record cannot do without the field. -/
  required : Bool

namespace Field

/-- Reads a member of an object into the draft. -/
def readMember {δ : Type} (fields : List (Field δ)) (depth : Nat) (draft : δ) : Reader δ :=
  fun c => do
    let (key, c) ← readQuoted c
    match fields.find? fun field => field.name == key with
    | some field =>
        if field.given draft then .error (.pending (.duplicateField key) c)
        else
          let c ← readColon c
          field.read depth draft c
    | none =>
        let c ← readColon c
        let ((), c) ← skipValue c
        return (draft, c)

/-- Reads the fields of a record in order from the items of a list. -/
def readInOrder {δ : Type} (label : String) (depth count : Nat) :
    List (Field δ) → Nat → δ → Reader δ
  | [], _, draft, c => .ok (draft, c)
  | field :: more, index, draft, c =>
      match hasItem (index == 0) c with
      | .error failure => .error failure
      | .ok (true, c) =>
          match field.read depth draft c with
          | .error failure => .error failure
          | .ok (draft, c) => readInOrder label depth count more (index + 1) draft c
      | .ok (false, c) =>
          if field.required then
            .error (.pending (.invalidLength index
              (label ++ " with " ++ Text.decimal count ++ " elements")) c)
          else readInOrder label depth count more (index + 1) draft c

end Field

/-- Reads a record inside fewer than so many containers into a draft.  Every
required field of the draft is given afterwards. -/
def readRecord {δ : Type} (label : String) (fields : List (Field δ)) (draft : δ) :
    Nat → Reader δ
  | 0 => fun c => Failure.atNext .nestedTooDeep c
  | depth + 1 => fun c =>
      let c := c.skipSpace
      match c.rest with
      | [] => Failure.atNext .endInValue c
      | '[' :: _ =>
          nested depth (inList (Field.readInOrder label depth fields.length fields 0 draft)) c
      | '\x7b' :: _ =>
          nested depth (inObject fun c => do
            let (draft, c) ← readMembers (Field.readMember fields depth) draft c
            match fields.find? fun field => field.required && !field.given draft with
            | some field => .error (.pending (.missingField field.name) c)
            | none => .ok (draft, c)) c
      | _ => refuseKind label c

/-- Finishes a record from its draft. -/
def finishRecord {δ ρ : Type} (reader : Reader δ) (finish : δ → Option ρ) : Reader ρ :=
  fun c => do
    let (draft, c') ← reader c
    match finish draft with
    | some record => .ok (record, c')
    | none => Failure.atHere .expectedValue c'

end Json
end Gatehouse
