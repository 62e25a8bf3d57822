import Gatehouse.Proofs.Json.Freeform
import Gatehouse.Proofs.Role.Permission
import Gatehouse.Role.Format

/-!
# Role sets stay closed

A role set begins empty, as a collection of roles, or as a list of names that was read, and takes
further roles one by one or those of another set.  Whatever the order, it holds all roles up to
the highest one that was ever added and no others.

Main results:

- Theorem {lit}`RoleSet.Built.eq_upTo`: a set is determined by the highest role ever added.
- Theorem {lit}`RoleSet.decode_of_names`: every list of names of roles is read.
- Theorem {lit}`RoleSet.stays_closed`: what follows for membership, text and actions.
-/

namespace Gatehouse

/-! ## The highest of some roles -/

namespace Role

/-- Whether a role is the highest of some roles; if it is none, there are no roles. -/
def Highest (roles : List Role) : Option Role → Prop
  | none => roles = []
  | some top => top ∈ roles ∧ ∀ role ∈ roles, role ≤ top

/-- Some roles have a highest one. -/
theorem exists_highest (roles : List Role) : ∃ top, Highest roles top := by
  induction roles with
  | nil => exact ⟨none, rfl⟩
  | cons role rest ih =>
      rcases ih with ⟨top, htop⟩
      cases top with
      | none =>
          refine ⟨some role, List.mem_cons_self, ?_⟩
          rw [htop]
          intro r hr
          rw [List.mem_singleton.1 hr]
          exact Nat.le_refl _
      | some top =>
          rcases htop with ⟨hmem, habove⟩
          by_cases hle : role ≤ top
          · exact ⟨some top, List.mem_cons_of_mem _ hmem, List.forall_mem_cons.2 ⟨hle, habove⟩⟩
          · have hbelow : top ≤ role := Nat.le_of_lt (Nat.lt_of_not_le hle)
            refine ⟨some role, List.mem_cons_self, List.forall_mem_cons.2 ⟨Nat.le_refl _, ?_⟩⟩
            intro r hr
            exact Nat.le_trans (habove r hr) hbelow

/-- The name of a role names no other one. -/
theorem name_injective : Function.Injective name := by
  intro a b hname
  have hsame : some a = some b := by rw [← ofName?_name a, hname, ofName?_name]
  exact Option.some.inj hsame

end Role

namespace RoleSet

variable {added more : List Role} {set other : RoleSet} {role : Role} {top : Option Role}

/-- The roles up to a role, or no roles. -/
def upTo : Option Role → RoleSet
  | none => empty
  | some top => closure top

theorem inOrder_upTo (top : Option Role) : (upTo top).InOrder := by
  cases top with
  | none => exact inOrder_empty
  | some top => exact inOrder_ofTest _

@[simp] theorem highest_upTo (top : Option Role) : (upTo top).highest = top := by
  cases top with
  | none => rfl
  | some top => cases top <;> rfl

theorem mem_upTo_iff : role ∈ upTo top ↔ ∃ held, top = some held ∧ role ≤ held := by
  cases top with
  | none => simp [upTo]
  | some top => simp [upTo]

/-- The roles up to the highest of some roles are those up to any of them. -/
theorem mem_upTo_of_highest (h : Role.Highest added top) :
    role ∈ upTo top ↔ ∃ r ∈ added, role ≤ r := by
  rw [mem_upTo_iff]
  cases top with
  | none =>
      rw [Role.Highest] at h
      simp [h]
  | some top =>
      rcases h with ⟨hmem, habove⟩
      constructor
      · rintro ⟨held, hheld, hle⟩
        rw [Option.some.injEq] at hheld
        exact ⟨top, hmem, hheld ▸ hle⟩
      · rintro ⟨r, hr, hle⟩
        exact ⟨top, rfl, Nat.le_trans hle (habove r hr)⟩

/-! ## Sets that are built -/

/-- The roles of a text: a list of roles as it stands. -/
def listed (text : String) : Except Json.Fault (List Role) :=
  (Json.readList Role.read Json.nestingLimit).run text.toList

/-- How a role set comes about, and the roles that were added on the way. -/
inductive Built : List Role → RoleSet → Prop where
  | new : Built [] empty
  | collect (roles : List Role) : Built roles (ofList roles)
  | decode {text : String} {roles : List Role} {set : RoleSet} (hlisted : listed text = .ok roles)
      (hset : decode text = .ok set) : Built roles set
  | escalate {added : List Role} {set : RoleSet} (h : Built added set) (role : Role) :
      Built (role :: added) (set.escalate role)
  | extend {added more : List Role} {set other : RoleSet} (h : Built added set)
      (hother : Built more other) : Built (added ++ more) (set.union other)

/-- A text holds the set of the roles that it lists. -/
theorem decode_eq_map (text : String) : decode text = (listed text).map ofList :=
  Json.run_map ofList _ _

/-- A set holds the roles up to any that was added, in order. -/
theorem Built.covers (h : Built added set) :
    set.InOrder ∧ ∀ role, role ∈ set ↔ ∃ r ∈ added, role ≤ r := by
  induction h with
  | new => exact ⟨inOrder_empty, fun role => by simp⟩
  | collect roles => exact ⟨inOrder_ofList roles, fun role => mem_ofList⟩
  | @decode text roles set hlisted hset =>
      rw [decode_eq_map, hlisted] at hset
      rw [← Except.ok.inj hset]
      exact ⟨inOrder_ofList roles, fun role => mem_ofList⟩
  | escalate _ added ih =>
      refine ⟨inOrder_ofTest _, fun role => ?_⟩
      rw [mem_escalate, ih.2]
      simp only [List.mem_cons, exists_eq_or_imp, or_comm]
  | extend _ _ ih ih' =>
      refine ⟨inOrder_ofTest _, fun role => ?_⟩
      rw [mem_union, ih.2, ih'.2]
      simp only [List.mem_append, or_and_right, exists_or]

/-- A set holds all roles up to the highest one that was ever added. -/
theorem Built.eq_upTo (h : Built added set) (htop : Role.Highest added top) : set = upTo top := by
  rcases h.covers with ⟨hset, hmem⟩
  apply hset.eq_of_mem_iff (inOrder_upTo top)
  intro role
  rw [hmem, mem_upTo_of_highest htop]

/-- The roles up to one permit the actions whose least role is at most that one. -/
theorem can_upTo_iff {action : Action} :
    (upTo top).can action = true ↔ ∃ held, top = some held ∧ action.least ≤ held := by
  rw [can_iff]
  constructor
  · rintro ⟨role, hrole, hleast⟩
    rcases mem_upTo_iff.1 hrole with ⟨held, rfl, hle⟩
    exact ⟨held, rfl, Nat.le_trans hleast hle⟩
  · rintro ⟨held, rfl, hleast⟩
    exact ⟨held, mem_upTo_iff.2 ⟨held, rfl, Nat.le_refl _⟩, hleast⟩

/-! ## Sets as texts -/

/-- The list of the names of some roles. -/
def names (roles : List Role) : Json.Value :=
  .array (roles.map fun role => .string role.name)

/-- A value whose canonical form is the list of the names of some roles is that list. -/
theorem eq_names_of_canonical {v : Json.Value} {roles : List Role}
    (h : v.canonical = names roles) : v = names roles := by
  have hstring : ∀ {v : Json.Value} {s : String}, v.canonical = .string s → v = .string s := by
    intro v s h
    cases v with
    | array items => rw [Json.Value.canonical_array] at h; exact nomatch h
    | object members => rw [Json.Value.canonical_object] at h; exact nomatch h
    | null | bool b | number n | string s => exact h
  cases v with
  | array items =>
      rw [Json.Value.canonical_array, names, Json.Value.array.injEq] at h
      rw [names, Json.Value.array.injEq]
      induction items generalizing roles with
      | nil => exact (List.map_eq_nil_iff.1 h.symm) ▸ rfl
      | cons item items ih =>
          cases roles with
          | nil => exact nomatch h
          | cons role roles =>
              rw [List.map_cons, List.map_cons, List.cons.injEq] at h
              rw [List.map_cons, hstring h.1, ih h.2]
  | object members => rw [Json.Value.canonical_object] at h; exact nomatch h
  | null | bool b | number n | string s => exact nomatch h

/-- Every text that holds a list of names of roles is read, whatever their order. -/
theorem decode_of_names {text : String} {roles : List Role}
    (h : Json.parse text.toList = .ok (names roles)) : decode text = .ok (ofList roles) := by
  have hread : (Json.Value.read Json.nestingLimit).run text.toList = .ok (names roles) := by
    unfold Json.parse at h
    cases hrun : (Json.Value.read Json.nestingLimit).run text.toList with
    | error fault => simp [hrun, Except.map] at h
    | ok v =>
        rw [hrun] at h
        rw [eq_names_of_canonical (Except.ok.inj h)]
  rcases Json.run_eq_ok_iff.1 hread with ⟨c, hvalue, hend⟩
  have hkind : Function.Injective fun role : Role => Json.Value.string role.name :=
    fun _ _ hsame => Role.name_injective (Json.Value.string.inj hsame)
  have hlist : Json.readList Role.read Json.nestingLimit _ = .ok (roles, c) :=
    Json.readList_of_read hkind
      (fun hname => Json.readChoice_of_read (Role.ofName?_name _) hname _) hvalue
  have hlisted : listed text = .ok roles := Json.run_eq_ok_iff.2 ⟨c, hlist, hend⟩
  rw [decode_eq_map, hlisted]
  rfl

/-- The names of roles are strings: no containers, no numbers. -/
theorem parse_names (roles : List Role) :
    Json.parse (names roles).text.toList = .ok (names roles) := by
  have hdepth : (names roles).depth < Json.nestingLimit := by
    refine Json.Value.depth_array_lt_iff (d := 126).2 fun item hitem => ?_
    rcases List.mem_map.1 hitem with ⟨role, -, rfl⟩
    exact Nat.zero_lt_succ _
  have hnumbers : ∀ n ∈ (names roles).numbers, n.Fits ∧ n.IsWhole := by
    intro n hn
    rcases Json.Value.mem_numbers_array.1 hn with ⟨item, hitem, hn⟩
    rcases List.mem_map.1 hitem with ⟨role, -, rfl⟩
    exact absurd hn List.not_mem_nil
  rw [Json.parse_text hdepth hnumbers, names, Json.Value.canonical_array, List.map_map]
  rfl

/-- The roles up to a role, each in its place, are those up to any of them. -/
theorem ofList_members_upTo (top : Option Role) : ofList (upTo top).members = upTo top := by
  cases top with
  | none => rfl
  | some top => cases top <;> rfl

/-- The text of a closed set holds the set. -/
theorem decode_toJson_upTo (top : Option Role) :
    decode (upTo top).toJson.text = .ok (upTo top) := by
  have hread : decode (upTo top).toJson.text = .ok (ofList (upTo top).members) :=
    decode_of_names (parse_names _)
  rw [hread, ofList_members_upTo]

/-- Let a role set have come about in any way: empty, as a collection of roles, from a text that
lists roles, by adding a role to such a set or another such set to it, and so on.  Then it is the
set of all roles up to the highest one that was ever added, and empty if there was none.  So its
highest role is that one, it holds a role exactly if its highest role is at or above, its text
holds the same set, and it permits an action exactly if its highest role is at or above the least
one that grants the action.  Every text that lists names of roles, in whatever order, with gaps or
repeatedly, can be read. -/
theorem stays_closed :
    (∀ added set, Built added set → ∃ top, Role.Highest added top ∧ set = upTo top ∧
      set.highest = top ∧
      (∀ role, role ∈ set ↔ ∃ held, set.highest = some held ∧ role ≤ held) ∧
      decode set.toJson.text = .ok set ∧
      ∀ action : Action,
        (action.least ∈ action.grantedBy ∧ ∀ role ∈ action.grantedBy, action.least ≤ role) ∧
        (set.can action = true ↔ ∃ held, set.highest = some held ∧ action.least ≤ held)) ∧
    ∀ text roles, Json.parse text.toList = .ok (names roles) →
      decode text = .ok (ofList roles) ∧ Built roles (ofList roles) := by
  refine ⟨fun added set hset => ?_, fun text roles htext => ?_⟩
  · rcases Role.exists_highest added with ⟨top, htop⟩
    have hclosed : set = upTo top := hset.eq_upTo htop
    subst hclosed
    rw [highest_upTo]
    exact ⟨top, htop, rfl, rfl, fun role => mem_upTo_iff, decode_toJson_upTo top,
      fun action => ⟨action.least_isLeast, can_upTo_iff⟩⟩
  · exact ⟨decode_of_names htext, .collect roles⟩

/-! ### A list with gaps -/

/-- A list that leaves out a role and repeats another. -/
def gaps : String := "[\"IMO\",\"VIEWER\",\"IMO\"]"

/-- A list with gaps is read, and a set to which it was added holds all roles up to `IMO`: they
may assign but not administer. -/
theorem stays_closed_of_gaps :
    ∃ set other, decode gaps = .ok other ∧ set = ((empty.escalate .editor).union other) ∧
      Built [.editor, .imo, .viewer, .imo] set ∧
      set = upTo (some .imo) ∧ set.members = [.viewer, .editor, .imo] ∧
      decode set.toJson.text = .ok set ∧
      set.can .assign = true ∧ set.can .admin = false := by
  have htext : (names [.imo, .viewer, .imo]).text = gaps := by decide +kernel
  have hparse : Json.parse gaps.toList = .ok (names [.imo, .viewer, .imo]) :=
    htext ▸ parse_names _
  rcases stays_closed.2 gaps _ hparse with ⟨hread, hother⟩
  have hset := (Built.new.escalate .editor).extend hother
  rcases stays_closed.1 _ _ hset with ⟨-, -, -, -, -, hback, -⟩
  exact ⟨_, _, hread, rfl, hset, by decide, by decide, hback, by decide, by decide⟩

end RoleSet
end Gatehouse
