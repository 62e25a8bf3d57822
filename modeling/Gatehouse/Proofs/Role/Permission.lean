import Gatehouse.Role.Permission

/-!
# What a caller may do on an operation

The effective roles of a caller on an operation come from two sources: the directory groups,
of which one per suffix admits to reading, and the grants of the application, of which those
count that name the operation exactly and the caller up to case.  A grant brings its role and
every role below it, and an action is permitted from its least role upwards.

Main results:

- Theorem {lit}`RoleSet.InOrder.eq_of_mem_iff`: role sets with the same roles are the same.
- Theorem {lit}`Permissions.effective_exact`: what the effective roles hold and permit, and how
  they depend on the list of grants.
-/

namespace Gatehouse

/-! ## Role sets with the same roles -/

namespace RoleSet

/-- Whether a set lists its roles in order, each once. -/
def InOrder (set : RoleSet) : Prop := set = ofTest fun role => decide (role ∈ set)

theorem inOrder_ofTest (test : Role → Bool) : (ofTest test).InOrder := by
  unfold InOrder
  congr 1
  funext role
  rw [Bool.eq_iff_iff, decide_eq_true_iff, mem_ofTest]

theorem inOrder_empty : empty.InOrder :=
  rfl

/-- Adding roles to a set lists them in order. -/
theorem InOrder.foldl_escalate {α : Type} {set : RoleSet} (hset : set.InOrder) (xs : List α)
    (role : α → Role) : (xs.foldl (fun roles x => roles.escalate (role x)) set).InOrder := by
  induction xs generalizing set with
  | nil => exact hset
  | cons x rest ih => exact ih (inOrder_ofTest _)

theorem inOrder_ofList (roles : List Role) : (ofList roles).InOrder :=
  inOrder_empty.foldl_escalate roles id

/-- Sets that list the same roles in order are the same. -/
theorem InOrder.eq_of_mem_iff {a b : RoleSet} (ha : a.InOrder) (hb : b.InOrder)
    (h : ∀ role, role ∈ a ↔ role ∈ b) : a = b := by
  have htest : (fun role => decide (role ∈ a)) = fun role => decide (role ∈ b) := by
    funext role
    exact decide_eq_decide.2 (h role)
  rw [InOrder] at ha hb
  rw [ha, hb, htest]

end RoleSet

/-! ## Actions -/

/-- The least role of an action grants it, and is below every other that does. -/
theorem Action.least_isLeast (action : Action) :
    action.least ∈ action.grantedBy ∧ ∀ role ∈ action.grantedBy, action.least ≤ role :=
  ⟨mem_grantedBy.2 (Nat.le_refl _), fun _ hgranted => mem_grantedBy.1 hgranted⟩

/-- Reading is the only action that the viewer role permits. -/
theorem Action.least_le_viewer {action : Action} : action.least ≤ .viewer ↔ action = .read := by
  cases action <;> decide

/-! ## Groups and grants -/

/-- Whether a grant is for the caller on the operation: it names the operation exactly, and the
caller up to the case of the ASCII letters. -/
def Grant.IsFor (grant : Grant) (identity : Identity) (operation : String) : Prop :=
  grant.operation = operation ∧ Text.lower grant.upn = Text.lower identity.upn

namespace Permissions

/-- Whether the caller belongs to a group that the operation and a suffix name. -/
def Admits (rule : Permissions) (identity : Identity) (operation : String) : Prop :=
  ∃ suffix ∈ rule.suffixes, operation ++ "_" ++ suffix ∈ identity.groups

variable {rule : Permissions} {identity : Identity} {operation : String} {grants more : List Grant}

theorem applies_iff {grant : Grant} :
    applies identity operation grant = true ↔ grant.IsFor identity operation := by
  simp [applies, Grant.IsFor, Text.equalIgnoringCase]

theorem hasReadGroup_iff :
    rule.hasReadGroup identity operation = true ↔ rule.Admits identity operation := by
  simp [hasReadGroup, Admits, readGroup, Identity.inGroup]

/-- The effective roles, in terms of groups and grants. -/
theorem mem_effective_iff {role : Role} :
    role ∈ rule.effective identity operation grants ↔
      (role = .viewer ∧ rule.Admits identity operation) ∨
        ∃ grant ∈ grants, grant.IsFor identity operation ∧ role ≤ grant.role := by
  simp only [mem_effective, hasReadGroup_iff, applies_iff]

/-- What the effective roles permit. -/
theorem can_effective_iff {action : Action} :
    (rule.effective identity operation grants).can action = true ↔
      (∃ grant ∈ grants, grant.IsFor identity operation ∧ action.least ≤ grant.role) ∨
        (action = .read ∧ rule.Admits identity operation) := by
  rw [RoleSet.can_iff]
  constructor
  · rintro ⟨role, hrole, hleast⟩
    rcases mem_effective_iff.1 hrole with ⟨rfl, hadmits⟩ | ⟨grant, hgrant, hfor, hrole⟩
    · exact .inr ⟨Action.least_le_viewer.1 hleast, hadmits⟩
    · exact .inl ⟨grant, hgrant, hfor, Nat.le_trans hleast hrole⟩
  · rintro (⟨grant, hgrant, hfor, hleast⟩ | ⟨rfl, hadmits⟩)
    · exact ⟨action.least, mem_effective_iff.2 (.inr ⟨grant, hgrant, hfor, hleast⟩),
        Nat.le_refl _⟩
    · exact ⟨.viewer, mem_effective_iff.2 (.inl ⟨rfl, hadmits⟩), Nat.le_refl _⟩

/-- More grants give at least the same roles. -/
theorem mem_effective_of_subset (hmore : grants ⊆ more) {role : Role}
    (hrole : role ∈ rule.effective identity operation grants) :
    role ∈ rule.effective identity operation more := by
  rcases mem_effective_iff.1 hrole with hread | ⟨grant, hgrant, hfor, hle⟩
  · exact mem_effective_iff.2 (.inl hread)
  · exact mem_effective_iff.2 (.inr ⟨grant, hmore hgrant, hfor, hle⟩)

theorem effective_inOrder : (rule.effective identity operation grants).InOrder := by
  unfold effective
  refine RoleSet.InOrder.foldl_escalate ?_ _ Grant.role
  split
  · exact RoleSet.inOrder_ofTest _
  · exact RoleSet.inOrder_empty

/-- A caller holds a role on an operation exactly if it is the viewer role and the caller
belongs to a group that the operation and a configured suffix name, or if some grant is for the
caller on the operation and its role is at or above.  So an action is permitted exactly if the
role of such a grant is at or above the least role that grants the action, or if the action is to
read and the caller belongs to such a group.  A list with all the grants and perhaps more, in
whatever place, takes away no role and no permission, and the same grants in another order or
given repeatedly make no difference at all. -/
theorem effective_exact (rule : Permissions) (identity : Identity) (operation : String)
    (grants : List Grant) :
    (∀ role, role ∈ rule.effective identity operation grants ↔
      (role = .viewer ∧ rule.Admits identity operation) ∨
        ∃ grant ∈ grants, grant.IsFor identity operation ∧ role ≤ grant.role) ∧
    (∀ action, (rule.effective identity operation grants).can action = true ↔
      (∃ grant ∈ grants, grant.IsFor identity operation ∧ action.least ≤ grant.role) ∨
        (action = .read ∧ rule.Admits identity operation)) ∧
    (∀ action : Action,
      action.least ∈ action.grantedBy ∧ ∀ role ∈ action.grantedBy, action.least ≤ role) ∧
    (∀ more, grants ⊆ more →
      (∀ role ∈ rule.effective identity operation grants,
        role ∈ rule.effective identity operation more) ∧
      ∀ action, (rule.effective identity operation grants).can action = true →
        (rule.effective identity operation more).can action = true) ∧
    ∀ same, (∀ grant, grant ∈ grants ↔ grant ∈ same) →
      rule.effective identity operation same = rule.effective identity operation grants := by
  refine ⟨fun _ => mem_effective_iff, fun _ => can_effective_iff, Action.least_isLeast,
    fun more hmore => ⟨?_, ?_⟩, fun same hsame => ?_⟩
  · exact fun role hrole => mem_effective_of_subset hmore hrole
  · intro action hcan
    rcases RoleSet.can_iff.1 hcan with ⟨role, hrole, hleast⟩
    exact RoleSet.can_iff.2 ⟨role, mem_effective_of_subset hmore hrole, hleast⟩
  · refine effective_inOrder.eq_of_mem_iff effective_inOrder fun role => ⟨?_, ?_⟩
    · exact mem_effective_of_subset fun grant => (hsame grant).2
    · exact mem_effective_of_subset fun grant => (hsame grant).1

/-! ### A grant and a group -/

/-- A member of a reading group whose principal name is written in another case in the grant
holds what the grant gives, also if the grant is repeated among others. -/
theorem effective_exact_of_grant :
    let identity : Identity := ⟨"Ada@Example.com", none, ["OP1_VIEW"], .empty⟩
    let grant : Grant := ⟨"ada@example.com", "OP1", .imo⟩
    let other : Grant := ⟨"ada@example.com", "OP2", .admin⟩
    (standard.effective identity "OP1" [grant]).can .assign = true ∧
      (standard.effective identity "OP1" [other, grant]).can .assign = true ∧
      (standard.effective identity "OP1" []).can .read = true ∧
      standard.effective identity "OP1" [grant, other, grant] =
        standard.effective identity "OP1" [other, grant] := by
  intro identity grant other
  rcases standard.effective_exact identity "OP1" [grant] with ⟨-, hcan, -, hmore, -⟩
  rcases standard.effective_exact identity "OP1" [] with ⟨-, hread, -, -, -⟩
  rcases standard.effective_exact identity "OP1" [other, grant] with ⟨-, -, -, -, hsame⟩
  have hassign := (hcan .assign).2 (.inl ⟨grant, List.mem_cons_self, ⟨rfl, by decide⟩, by decide⟩)
  refine ⟨hassign, (hmore [other, grant] (by simp)).2 .assign hassign, ?_, hsame _ ?_⟩
  · exact (hread .read).2 (.inr ⟨rfl, "VIEW", by decide, by decide⟩)
  · intro some
    simp only [List.mem_cons, List.not_mem_nil, or_false]
    grind

end Permissions
end Gatehouse
