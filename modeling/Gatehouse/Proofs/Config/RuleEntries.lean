import Mathlib.Data.List.Forall2
import Gatehouse.Config.RuleTable

/-!
# The entries of a role mapping

An entry of a mapping gives its pattern a single role or a list of roles.  The rules of a mapping
are read if all its entries are of one of these forms, and then there is a rule for each of them.

Main results:

- Theorem {lit}`roleNames?_eq_some_iff`: the roles of an entry.
- Theorem {lit}`tableRules?_eq_some_iff`: the rules of a mapping.
-/

namespace Gatehouse
namespace Config

/-- The roles of an entry of a mapping: a single role, or a list of roles. -/
inductive Lists : Json.Value → List String → Prop where
  | single (role : String) : Lists (.string role) [role]
  | list (roles : List String) : Lists (.array (roles.map .string)) roles

/-- Whether every entry of a mapping gives its pattern the roles of a rule. -/
def Entries (members : List (String × Json.Value)) (rules : List (String × List String)) : Prop :=
  List.Forall₂ (fun entry rule => entry.1 = rule.1 ∧ Lists entry.2 rule.2) members rules

/-- A list is turned into another one item by item. -/
theorem mapM_eq_some_iff {α β : Type} {f : α → Option β} {as : List α} {bs : List β} :
    as.mapM f = some bs ↔ List.Forall₂ (fun a b => f a = some b) as bs := by
  induction as generalizing bs with
  | nil => cases bs <;> simp
  | cons a as ih =>
      rw [List.mapM_cons]
      cases ha : f a with
      | none => cases bs <;> simp [ha]
      | some b => cases has : as.mapM f <;> cases bs <;> simp [← ih, has, ha]

theorem name?_eq_some_iff {v : Json.Value} {name : String} :
    name? v = some name ↔ v = .string name := by
  cases v <;> simp [name?]

/-- The roles of an entry are read exactly if it lists them. -/
theorem roleNames?_eq_some_iff {v : Json.Value} {names : List String} :
    roleNames? v = some names ↔ Lists v names := by
  have hitems {items : List Json.Value} :
      items.mapM name? = some names ↔ items = names.map .string := by
    simp only [mapM_eq_some_iff, name?_eq_some_iff]
    rw [← List.forall₂_eq_eq_eq, List.forall₂_map_right_iff]
  constructor
  · intro h
    cases v with
    | string name =>
        rw [← Option.some.inj h]
        exact .single name
    | array items =>
        rw [hitems.1 h]
        exact .list names
    | _ => contradiction
  · intro h
    cases h with
    | single role => rfl
    | list roles => exact hitems.2 rfl

/-- Rules are read from the entries of a mapping exactly if every entry gives a rule. -/
theorem tableRules?_eq_some_iff {members : List (String × Json.Value)} {rules : RoleRules} :
    tableRules? members = some rules ↔
      ∃ given, Entries members given ∧ RoleRules.ofMembers given = rules := by
  have hentry {entry : String × Json.Value} {rule : String × List String} :
      (roleNames? entry.2).map (fun names => (entry.1, names)) = some rule ↔
        entry.1 = rule.1 ∧ Lists entry.2 rule.2 := by
    rw [Option.map_eq_some_iff, ← roleNames?_eq_some_iff]
    constructor
    · rintro ⟨names, hnames, rfl⟩
      exact ⟨rfl, hnames⟩
    · rintro ⟨hpattern, hnames⟩
      exact ⟨_, hnames, Prod.ext hpattern rfl⟩
  rw [tableRules?, Option.map_eq_some_iff]
  simp only [mapM_eq_some_iff, hentry]
  rfl

end Config
end Gatehouse
