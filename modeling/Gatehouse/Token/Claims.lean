import Gatehouse.Json.Record
import Gatehouse.Text.Blank

/-!
# Token claims

The claims of an access token.  The groups and the audiences are read generously:
entries that are no strings are left out, a group claim that is no list counts as no
groups, and an audience may stand alone.
-/

namespace Gatehouse

/-- The claims of an access token. -/
structure Claims where
  /-- The subject. -/
  sub : String
  /-- The user principal name, if it differs from the subject. -/
  upn : Option String
  name : Option String
  groups : List String
  /-- Expiry in seconds since 1970. -/
  expiry : Json.Word
  issuedAt : Option Json.Word
  issuer : Option String
  audiences : List String
deriving DecidableEq, Repr, Inhabited

namespace Claims

/-- The principal that the token speaks for. -/
def principal (c : Claims) : String := c.upn.getD c.sub

/-- Whether the token is meant for an audience. -/
def hasAudience (c : Claims) (audience : String) : Bool :=
  c.audiences.contains audience

/-- The strings among some values. -/
def texts (items : List Json.Value) : List String :=
  items.filterMap fun
    | .string s => some s
    | _ => none

/-- The strings of a list, and none of anything else. -/
def textList : Json.Value → List String
  | .array items => texts items
  | _ => []

/-- The strings of a list, or a string alone. -/
def textOrList : Json.Value → List String
  | .string s => [s]
  | v => textList v

/-- The fields of the claims read so far. -/
structure Draft where
  sub : Option String := none
  upn : Option (Option String) := none
  name : Option (Option String) := none
  groups : Option (List String) := none
  expiry : Option Json.Word := none
  issuedAt : Option (Option Json.Word) := none
  issuer : Option (Option String) := none
  audiences : Option (List String) := none

/-- Reads a string or null. -/
def readOptionalText : Json.Reader (Option String) :=
  Json.readOptional (Json.readText Json.textKind)

/-- The fields of the claims. -/
def fields : List (Json.Field Draft) :=
  [ { name := "sub", given := fun d => d.sub.isSome, required := true,
      read := fun _ d c => do
        let (sub, c) ← Json.readText Json.textKind c
        return ({ d with sub := some sub }, c) },
    { name := "upn", given := fun d => d.upn.isSome, required := false,
      read := fun _ d c => do
        let (upn, c) ← readOptionalText c
        return ({ d with upn := some upn }, c) },
    { name := "name", given := fun d => d.name.isSome, required := false,
      read := fun _ d c => do
        let (name, c) ← readOptionalText c
        return ({ d with name := some name }, c) },
    { name := "ad_groups", given := fun d => d.groups.isSome, required := false,
      read := fun depth d c => do
        let (v, c) ← Json.Value.read depth c
        return ({ d with groups := some (textList v) }, c) },
    { name := "exp", given := fun d => d.expiry.isSome, required := true,
      read := fun _ d c => do
        let (expiry, c) ← Json.readWord64 c
        return ({ d with expiry := some expiry }, c) },
    { name := "iat", given := fun d => d.issuedAt.isSome, required := false,
      read := fun _ d c => do
        let (issuedAt, c) ← Json.readOptional Json.readWord64 c
        return ({ d with issuedAt := some issuedAt }, c) },
    { name := "iss", given := fun d => d.issuer.isSome, required := false,
      read := fun _ d c => do
        let (issuer, c) ← readOptionalText c
        return ({ d with issuer := some issuer }, c) },
    { name := "aud", given := fun d => d.audiences.isSome, required := false,
      read := fun depth d c => do
        let (v, c) ← Json.Value.read depth c
        return ({ d with audiences := some (textOrList v) }, c) } ]

/-- The claims of a draft with all required fields. -/
def ofDraft? (d : Draft) : Option Claims := do
  return { sub := ← d.sub, upn := d.upn.getD none, name := d.name.getD none,
           groups := d.groups.getD [], expiry := ← d.expiry,
           issuedAt := d.issuedAt.getD none, issuer := d.issuer.getD none,
           audiences := d.audiences.getD [] }

/-- Reads claims. -/
def read : Json.Reader Claims :=
  Json.finishRecord
    (Json.readRecord "struct Claims" fields { } Json.nestingLimit) ofDraft?

/-- The claims of a text. -/
def decode (text : List Char) : Except Json.Fault Claims :=
  Json.Reader.run read text

/-- An optional member of an object. -/
def optionalMember {α : Type} (key : String) (f : α → Json.Value) (a : Option α) :
    List (String × Json.Value) :=
  (a.map fun a => (key, f a)).toList

/-- The claims as a JSON object; absent claims are left out. -/
def toJson (c : Claims) : Json.Value :=
  .object ([("sub", .string c.sub)] ++ optionalMember "upn" .string c.upn ++
    optionalMember "name" .string c.name ++
    [("ad_groups", .array (c.groups.map .string)),
      ("exp", .number (.natural c.expiry.val))] ++
    optionalMember "iat" (fun n => .number (.natural n.val)) c.issuedAt ++
    optionalMember "iss" .string c.issuer ++
    (if c.audiences.isEmpty then []
     else [("aud", .array (c.audiences.map .string))]))

end Claims
end Gatehouse
