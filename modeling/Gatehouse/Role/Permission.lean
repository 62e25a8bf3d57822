import Gatehouse.Role.Set
import Gatehouse.Text.Ordered
import Gatehouse.Text.Split

/-!
# Effective permissions

Directory groups give a baseline on one operation, application grants add finer
roles on top.  Grants only ever add.

Main results:

- Theorem {lit}`Permissions.mem_effective`: what the effective roles hold, in terms
  of groups and grants.
-/

namespace Gatehouse

/-- An authenticated caller, for one request or one connection. -/
structure Identity where
  /-- The user principal name. -/
  upn : String
  displayName : Option String
  /-- Directory groups, sorted and distinct. -/
  groups : List String
  /-- The roles that the group mapping gives. -/
  roles : RoleSet
deriving DecidableEq, Repr

/-- Whether the caller is a member of a group. -/
def Identity.inGroup (identity : Identity) (group : String) : Bool :=
  identity.groups.contains group

/-- A role that the application gives to one user on one operation. -/
structure Grant where
  upn : String
  operation : String
  role : Role
deriving DecidableEq, Repr

/-- The rule by which groups give read access: a group named by the operation, an
underscore and one of the suffixes. -/
structure Permissions where
  /-- The suffixes that give read access, never empty. -/
  suffixes : List String
deriving DecidableEq, Repr

namespace Permissions

/-- The suffixes that give read access when none are configured. -/
def defaultSuffixes : List String := ["READ", "VIEW", "ALL"]

/-- The rule with the given suffixes; blank ones are ignored, and without any the
defaults hold. -/
def ofSuffixes (suffixes : List String) : Permissions :=
  match (suffixes.map Text.trim).filter (· ≠ "") with
  | [] => ⟨defaultSuffixes⟩
  | given => ⟨given⟩

/-- The rule with the suffixes of a comma-separated list. -/
def ofCsv (csv : String) : Permissions :=
  ofSuffixes (Text.splitOn ',' csv)

/-- The rule with the default suffixes. -/
def standard : Permissions := ofSuffixes defaultSuffixes

/-- The group whose members may read an operation, for one suffix. -/
def readGroup (operation suffix : String) : String :=
  operation ++ "_" ++ suffix

/-- Whether one of the caller's groups gives read access to the operation. -/
def hasReadGroup (rule : Permissions) (identity : Identity) (operation : String) : Bool :=
  rule.suffixes.any fun suffix => identity.inGroup (readGroup operation suffix)

/-- Whether a grant concerns the caller on the operation.  Principal names compare
up to ASCII case. -/
def applies (identity : Identity) (operation : String) (grant : Grant) : Bool :=
  grant.operation == operation && Text.equalIgnoringCase grant.upn identity.upn

/-- The roles of the caller on an operation. -/
def effective (rule : Permissions) (identity : Identity) (operation : String)
    (grants : List Grant) : RoleSet :=
  let floor :=
    if rule.hasReadGroup identity operation then RoleSet.empty.escalate .viewer
    else RoleSet.empty
  (grants.filter (applies identity operation)).foldl
    (fun roles grant => roles.escalate grant.role) floor

/-- The effective roles are the viewer role of a read group and the roles at or
below those of the grants that apply. -/
theorem mem_effective {rule : Permissions} {identity : Identity} {operation : String}
    {grants : List Grant} {role : Role} :
    role ∈ rule.effective identity operation grants ↔
      (role = .viewer ∧ rule.hasReadGroup identity operation = true) ∨
        ∃ grant ∈ grants, applies identity operation grant = true ∧ role ≤ grant.role := by
  have fold : ∀ (gs : List Grant) (set : RoleSet),
      role ∈ gs.foldl (fun roles grant => roles.escalate grant.role) set ↔
        role ∈ set ∨ ∃ grant ∈ gs, role ≤ grant.role := by
    intro gs
    induction gs with
    | nil => simp
    | cons head rest ih =>
        intro set
        simp only [List.foldl_cons, ih, RoleSet.mem_escalate, List.mem_cons, or_and_right,
          exists_or, exists_eq_left, or_assoc]
  have floor : role ≤ Role.viewer ↔ role = .viewer := by cases role <;> decide
  simp only [effective, fold, List.mem_filter, and_assoc]
  by_cases h : rule.hasReadGroup identity operation = true <;>
    simp only [h, if_true, if_false, Bool.false_eq_true, RoleSet.mem_escalate,
      RoleSet.not_mem_empty, false_or, floor, and_true, and_false]

end Permissions
end Gatehouse
