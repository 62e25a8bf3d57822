import Gatehouse.Role.Basic

/-!
# Role sets and actions

A role set is closed downwards: a role is only ever added together with the roles
that it implies.  An action is permitted when a role that grants it is held.

Main results:

- Theorem {lit}`mem_escalate`: escalating to a role adds exactly the roles at or
  below it.
- Theorem {lit}`mem_union`: the union holds what either side holds.
-/

namespace Gatehouse

/-- A set of roles, least privileged first, each at most once. -/
structure RoleSet where
  /-- The roles held, in order. -/
  members : List Role
deriving DecidableEq, Repr, Inhabited

namespace RoleSet

instance : Membership Role RoleSet := ⟨fun set role => role ∈ set.members⟩

instance (role : Role) (set : RoleSet) : Decidable (role ∈ set) :=
  inferInstanceAs (Decidable (role ∈ set.members))

/-- The set of the roles for which the test holds. -/
def ofTest (test : Role → Bool) : RoleSet :=
  ⟨Role.all.filter test⟩

/-- The set without roles. -/
def empty : RoleSet := ⟨[]⟩

/-- The roles at or below a role. -/
def closure (role : Role) : RoleSet :=
  ofTest fun r => decide (r ≤ role)

/-- The roles held by either set. -/
def union (a b : RoleSet) : RoleSet :=
  ofTest fun r => decide (r ∈ a) || decide (r ∈ b)

/-- Adds a role and every role that it implies. -/
def escalate (set : RoleSet) (role : Role) : RoleSet :=
  set.union (closure role)

/-- The set of some roles and all that they imply. -/
def ofList (roles : List Role) : RoleSet :=
  roles.foldl escalate empty

/-- Whether any of the roles is held. -/
def intersects (set : RoleSet) (roles : List Role) : Bool :=
  roles.any fun role => decide (role ∈ set)

/-- The most privileged role held. -/
def highest (set : RoleSet) : Option Role :=
  set.members.getLast?

/-- Number of roles held. -/
def size (set : RoleSet) : Nat :=
  set.members.length

/-- The names of the roles, joined by commas. -/
def display (set : RoleSet) : String :=
  ",".intercalate (set.members.map Role.name)

theorem mem_def {role : Role} {set : RoleSet} : role ∈ set ↔ role ∈ set.members := Iff.rfl

@[simp] theorem not_mem_empty (role : Role) : role ∉ empty := by
  simp [mem_def, empty]

@[simp] theorem mem_ofTest {role : Role} {test : Role → Bool} :
    role ∈ ofTest test ↔ test role = true := by
  simp [mem_def, ofTest]

/-- The closure of a role holds the roles at or below it. -/
@[simp] theorem mem_closure {r role : Role} : r ∈ closure role ↔ r ≤ role := by
  simp [closure]

/-- The union holds what either side holds. -/
@[simp] theorem mem_union {role : Role} {a b : RoleSet} :
    role ∈ a.union b ↔ role ∈ a ∨ role ∈ b := by
  simp [union]

/-- Escalating to a role adds exactly the roles at or below it. -/
@[simp] theorem mem_escalate {r role : Role} {set : RoleSet} :
    r ∈ set.escalate role ↔ r ∈ set ∨ r ≤ role := by
  simp only [escalate, mem_union, mem_closure]

/-- Collecting roles keeps what they imply and nothing else. -/
@[simp] theorem mem_ofList {r : Role} {roles : List Role} :
    r ∈ ofList roles ↔ ∃ role ∈ roles, r ≤ role := by
  suffices h : ∀ set : RoleSet,
      r ∈ roles.foldl escalate set ↔ r ∈ set ∨ ∃ role ∈ roles, r ≤ role by
    have := h empty
    simpa only [ofList, not_mem_empty, false_or] using this
  induction roles with
  | nil => simp
  | cons head rest ih =>
      intro set
      simp only [List.foldl_cons, ih, mem_escalate, List.mem_cons, or_and_right,
        exists_or, exists_eq_left, or_assoc]

end RoleSet

/-- A capability that handlers check before they act. -/
inductive Action where
  | read
  | write
  | assign
  | admin
deriving DecidableEq, Repr, Inhabited

namespace Action

/-- All actions. -/
def all : List Action := [read, write, assign, admin]

/-- The name of an action in frames and messages. -/
def name : Action → String
  | read => "READ"
  | write => "WRITE"
  | assign => "ASSIGN"
  | admin => "ADMIN"

/-- The action whose name is exactly this text. -/
def ofName? (text : String) : Option Action :=
  all.find? fun action => action.name == text

/-- The roles that grant an action. -/
def grantedBy : Action → List Role
  | read => [.viewer, .editor, .imo, .admin]
  | write => [.editor, .imo, .admin]
  | assign => [.imo, .admin]
  | admin => [.admin]

/-- The least privileged role that grants an action. -/
def least : Action → Role
  | read => .viewer
  | write => .editor
  | assign => .imo
  | admin => .admin

/-- The granting roles are those at or above the least one. -/
theorem mem_grantedBy {action : Action} {role : Role} :
    role ∈ action.grantedBy ↔ action.least ≤ role := by
  cases action <;> cases role <;> decide

end Action

/-- A refused action with the roles of which one is required. -/
structure PermissionDenied where
  action : Action
  required : List Role
deriving DecidableEq, Repr

/-- What is reported about a refused action. -/
def PermissionDenied.message (e : PermissionDenied) : String :=
  "forbidden: " ++ e.action.name ++ " requires one of [" ++
    ", ".intercalate (e.required.map Role.title) ++ "]"

namespace RoleSet

/-- Whether the roles permit an action. -/
def can (set : RoleSet) (action : Action) : Bool :=
  set.intersects action.grantedBy

/-- Refuses an action that the roles do not permit. -/
def require (set : RoleSet) (action : Action) : Except PermissionDenied Unit :=
  if set.can action then .ok () else .error ⟨action, action.grantedBy⟩

/-- An action is permitted when a role at or above its least role is held. -/
theorem can_iff {set : RoleSet} {action : Action} :
    set.can action = true ↔ ∃ role ∈ set, action.least ≤ role := by
  simp only [can, intersects, List.any_eq_true, decide_eq_true_eq, Action.mem_grantedBy]
  exact ⟨fun ⟨role, h, hset⟩ => ⟨role, hset, h⟩, fun ⟨role, hset, h⟩ => ⟨role, h, hset⟩⟩

end RoleSet
end Gatehouse
