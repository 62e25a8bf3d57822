import Gatehouse.Json.Record

/-!
# Tagged messages

A message is an object one of whose members, the tag, names its variant, or a list
that starts with the tag.  The other members are read as free-form values first and
taken apart once the variant is known, so that faults in them have no position.
-/

namespace Gatehouse
namespace Json

/-- What stands beside the tag of a message. -/
inductive Content where
  /-- The elements of a list behind the tag. -/
  | sequence (items : List Value)
  /-- The other members of an object, in the order of the text. -/
  | map (members : List (String × Value))
deriving Repr, Inhabited

/-! ## Reading a tagged message -/

/-- Reads a member of a message: the tag, or one that is kept as it is. -/
def readTagOrMember {τ : Type} (tag : String) (readTag : Reader τ) (depth : Nat)
    (found : Option τ × List (String × Value)) : Reader (Option τ × List (String × Value)) :=
  fun c => do
    let (key, c) ← readQuoted c
    if key = tag then
      if found.1.isSome then .error (.pending (.duplicateField tag) c)
      else
        let c ← readColon c
        let (t, c) ← readTag c
        return ((some t, found.2), c)
    else
      let c ← readColon c
      let (v, c) ← Value.read depth c
      return ((found.1, (key, v) :: found.2), c)

/-- Reads the tag of a message and what stands beside it. -/
def readTagged {τ : Type} (tag label : String) (ofName? : String → Option τ)
    (names : List String) : Nat → Reader (τ × Content)
  | 0 => fun c => Failure.atNext .nestedTooDeep c
  | depth + 1 => fun c =>
      let c := c.skipSpace
      let readTag : Reader τ := readName ofName? names
      match c.rest with
      | [] => Failure.atNext .endInValue c
      | '[' :: _ =>
          nested depth (inList fun c => do
            let (more, c) ← hasItem true c
            if more then
              let (t, c) ← readTag c
              let (items, c) ← foldItems (fun items c => do
                let (item, c) ← Value.read depth c
                return (item :: items, c)) (c.rest.length + 1) false [] c
              return ((t, .sequence items.reverse), c)
            else .error (.pending (.missingField tag) c)) c
      | '\x7b' :: _ =>
          nested depth (inObject fun c => do
            let ((found, members), c) ←
              readMembers (readTagOrMember tag readTag depth) (none, []) c
            match found with
            | some t => return ((t, .map members.reverse), c)
            | none => .error (.pending (.missingField tag) c)) c
      | _ => refuseKind label c

/-! ## Taking the content apart -/

/-- What a value is called in messages. -/
def Value.found : Value → Found
  | .null => .null
  | .bool b => .boolean b
  | .number n => .number n
  | .string s => .text s
  | .array _ => .sequence
  | .object _ => .map

/-- A string. -/
def Value.toText : Value → Except Mismatch String
  | .string s => .ok s
  | v => .error (.invalidType v.found textKind)

/-- A natural number of 64 bits. -/
def Value.toWord : Value → Except Mismatch Word
  | .number n => n.toWord
  | v => .error (.invalidType v.found wordKind)

/-- A natural number below the limit. -/
def Value.toNat (limit : Nat) (kind : String) : Value → Except Mismatch Nat
  | .number n => n.toNat limit kind
  | v => .error (.invalidType v.found kind)

/-- A whole number of 64 bits with a sign. -/
def Value.toInt (kind : String) : Value → Except Mismatch Int
  | .number (.natural n) =>
      if n < Nat.pow 2 63 then .ok n else .error (.invalidValue (.number (.natural n)) kind)
  | .number (.negative n) => .ok (-(n : Int))
  | v => .error (.invalidType v.found kind)

/-- A value or null. -/
def Value.toOptional {α : Type} (inner : Value → Except Mismatch α) :
    Value → Except Mismatch (Option α)
  | .null => .ok none
  | v => (inner v).map some

/-- A field of a message that is taken from the content into a draft. -/
structure Slot (δ : Type) where
  name : String
  given : δ → Bool
  take : δ → Value → Except Mismatch δ
  required : Bool

namespace Slot

/-- Takes the slots in order from the elements of a list. -/
def inOrder {δ : Type} (label : String) (count : Nat) :
    List (Slot δ) → Nat → List Value → δ → Except Mismatch δ
  | [], _, [], draft => .ok draft
  | [], index, more, _ =>
      .error (.invalidLength (index + more.length)
        ((if index = 1 then "1 element" else Text.decimal index ++ " elements") ++
          " in sequence"))
  | slot :: slots, index, [], draft =>
      if slot.required then
        .error (.invalidLength index (label ++ " with " ++ Text.decimal count ++
          (if count = 1 then " element" else " elements")))
      else inOrder label count slots index [] draft
  | slot :: slots, index, v :: more, draft => do
      let draft ← slot.take draft v
      inOrder label count slots (index + 1) more draft

/-- Takes the slots from the members of an object; other members are ignored. -/
def byName {δ : Type} (slots : List (Slot δ)) :
    List (String × Value) → δ → Except Mismatch δ
  | [], draft =>
      match slots.find? fun slot => slot.required && !slot.given draft with
      | some slot => .error (.missingField slot.name)
      | none => .ok draft
  | (key, v) :: members, draft =>
      match slots.find? fun slot => slot.name == key with
      | some slot =>
          if slot.given draft then .error (.duplicateField key)
          else do
            let draft ← slot.take draft v
            byName slots members draft
      | none => byName slots members draft

end Slot

/-- Takes the content of a variant with the given slots into a draft. -/
def Content.fill {δ : Type} (label : String) (slots : List (Slot δ)) (draft : δ) :
    Content → Except Mismatch δ
  | sequence items => Slot.inOrder label slots.length slots 0 items draft
  | map members => Slot.byName slots members draft

/-- Takes the content of a variant without fields. -/
def Content.fillNothing : Content → Except Mismatch Unit
  | sequence [] => .ok ()
  | sequence items =>
      .error (.invalidLength items.length "0 elements in sequence")
  | map _ => .ok ()

end Json
end Gatehouse
