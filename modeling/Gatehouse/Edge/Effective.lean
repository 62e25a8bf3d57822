import Gatehouse.Edge.MediaType
import Gatehouse.Edge.Message
import Gatehouse.Edge.Refusal
import Gatehouse.Role.Format

/-!
# The effective roles of a caller

A service that guards an operation asks here for the roles of its caller: what the
groups give and what the grants add.  When it names an action, the answer is a refusal
unless the roles permit it.

Main results:

- Theorem {lit}`EffectiveCall.answer_ok`: an answer holds the effective roles.

Current gaps:

- The wording of the answers to requests that are not understood is the library's own.
-/

namespace Gatehouse

/-- Why a request is not understood. -/
inductive Misfit where
  /-- Nobody has been identified. -/
  | noIdentity
  /-- The body is not said to be JSON. -/
  | notJson
  | tooLarge
  /-- The body is no JSON text. -/
  | badForm
  /-- The body has the wrong shape. -/
  | badShape
  /-- The query cannot be read. -/
  | badQuery
  /-- The request is none for a socket. -/
  | noUpgrade
  /-- A socket is asked for with another method. -/
  | upgradeMethod
  /-- There is no connection that could become a socket. -/
  | notUpgradable
deriving DecidableEq, Repr

namespace Misfit

/-- The status of the answer. -/
def status : Misfit → Nat
  | noIdentity => 500
  | notJson => 415
  | tooLarge => 413
  | badForm | badQuery | noUpgrade => 400
  | badShape => 422
  | upgradeMethod => 405
  | notUpgradable => 426

/-- The wording of the answer. -/
def message : Misfit → String
  | noIdentity => "nobody has been identified"
  | notJson => "the body is not said to be JSON"
  | tooLarge => "the body is too large"
  | badForm => "the body is no JSON text"
  | badShape => "the body has the wrong shape"
  | badQuery => "the query cannot be read"
  | noUpgrade => "the request does not ask for a socket"
  | upgradeMethod => "a socket is asked for with GET"
  | notUpgradable => "the connection cannot become a socket"

/-- The answer. -/
def response (m : Misfit) : Response := .ofText m.status Response.plainType m.message

end Misfit

/-- A question for the effective roles of the caller. -/
structure EffectiveCall where
  operation : String
  grants : List Grant
  action : Option Action
deriving DecidableEq, Repr

namespace EffectiveCall

/-- The fields of a question read so far. -/
structure Draft where
  operation : Option String := none
  grants : Option (List Grant) := none
  action : Option (Option Action) := none

/-- The fields of a question. -/
def fields : List (Json.Field Draft) :=
  [ { name := "operationCode", given := fun d => d.operation.isSome, required := true,
      read := fun _ d c => do
        let (operation, c) ← Json.readText Json.textKind c
        return ({ d with operation := some operation }, c) },
    { name := "grants", given := fun d => d.grants.isSome, required := false,
      read := fun depth d c => do
        let (grants, c) ← Json.readList Grant.read depth c
        return ({ d with grants := some grants }, c) },
    { name := "action", given := fun d => d.action.isSome, required := false,
      read := fun depth d c => do
        let (action, c) ← Json.readOptional (Action.reader depth) c
        return ({ d with action := some action }, c) } ]

/-- The question of a draft with an operation. -/
def ofDraft? (d : Draft) : Option EffectiveCall := do
  return ⟨← d.operation, d.grants.getD [], d.action.getD none⟩

/-- Reads a question. -/
def read : Json.Reader EffectiveCall :=
  Json.finishRecord
    (Json.readRecord "struct EffectiveRequest" fields { } Json.nestingLimit) ofDraft?

/-- The largest body of a question, in bytes. -/
def largestBody : Nat := 2 * 1024 * 1024

/-- The question of a request. -/
def ofRequest (r : Request) : Except Misfit EffectiveCall :=
  if !((r.headers.text? "content-type").bind MediaType.parse?).any MediaType.isJson then
    .error .notJson
  else if largestBody < r.body.size then .error .tooLarge
  else
    match Json.Reader.run read (Json.ofBytes r.body.toList) with
    | .ok call => .ok call
    | .error fault =>
        if fault.cause.category = .shape then .error .badShape else .error .badForm

/-- The roles of the caller on the operation, if they permit the action. -/
def answer (call : EffectiveCall) (rule : Permissions) (caller : Identity) :
    Except PermissionDenied RoleSet :=
  let roles := rule.effective caller call.operation call.grants
  match call.action with
  | some action => (roles.require action).map fun () => roles
  | none => .ok roles

/-- The answer as JSON. -/
def toJson (call : EffectiveCall) (caller : Identity) (roles : RoleSet) : Json.Value :=
  .object [("upn", .string caller.upn), ("operationCode", .string call.operation),
    ("roles", roles.toJson),
    ("highest", match roles.highest with
      | some role => .string role.name
      | none => .null)]

/-- An answer holds the effective roles. -/
theorem answer_ok {call : EffectiveCall} {rule : Permissions} {caller : Identity}
    {roles : RoleSet} (h : call.answer rule caller = .ok roles) :
    roles = rule.effective caller call.operation call.grants := by
  unfold answer at h
  split at h
  · simp only [Except.map] at h
    split at h <;> simp_all
  · simp_all

end EffectiveCall
end Gatehouse
