import Gatehouse.Json.Record
import Gatehouse.Role.Permission

/-!
# Roles, actions and grants as JSON

A role or an action stands by its name, a role set as the list of its roles; a set
read from a list of names holds everything that the names imply.
-/

namespace Gatehouse

/-- Reads a role. -/
def Role.read (depth : Nat) : Json.Reader Role :=
  Json.readChoice depth Role.ofName? (Role.all.map Role.name)

/-- Reads an action. -/
def Action.reader (depth : Nat) : Json.Reader Action :=
  Json.readChoice depth Action.ofName? (Action.all.map Action.name)

/-- A role set as a list of names. -/
def RoleSet.toJson (set : RoleSet) : Json.Value :=
  .array (set.members.map fun role => .string role.name)

/-- Reads a role set. -/
def RoleSet.read (depth : Nat) : Json.Reader RoleSet := fun c => do
  let (roles, c) ← Json.readList Role.read depth c
  return (RoleSet.ofList roles, c)

/-- The role set of a text. -/
def RoleSet.decode (text : String) : Except Json.Fault RoleSet :=
  Json.Reader.run (RoleSet.read Json.nestingLimit) text.toList

namespace Grant

/-- A grant as a JSON object. -/
def toJson (g : Grant) : Json.Value :=
  .object [("upn", .string g.upn), ("operationCode", .string g.operation),
    ("role", .string g.role.name)]

/-- The fields of a grant read so far. -/
structure Draft where
  upn : Option String
  operation : Option String
  role : Option Role

/-- The fields of a grant. -/
def fields : List (Json.Field Draft) :=
  [ { name := "upn", given := fun d => d.upn.isSome, required := true,
      read := fun _ d c => do
        let (upn, c) ← Json.readText Json.textKind c
        return ({ d with upn := some upn }, c) },
    { name := "operationCode", given := fun d => d.operation.isSome, required := true,
      read := fun _ d c => do
        let (operation, c) ← Json.readText Json.textKind c
        return ({ d with operation := some operation }, c) },
    { name := "role", given := fun d => d.role.isSome, required := true,
      read := fun depth d c => do
        let (role, c) ← Role.read depth c
        return ({ d with role := some role }, c) } ]

/-- The grant of a draft with all fields. -/
def ofDraft? (d : Draft) : Option Grant := do
  return ⟨← d.upn, ← d.operation, ← d.role⟩

/-- Reads a grant. -/
def read (depth : Nat) : Json.Reader Grant :=
  Json.finishRecord (Json.readRecord "struct Grant" fields ⟨none, none, none⟩ depth) ofDraft?

end Grant
end Gatehouse
