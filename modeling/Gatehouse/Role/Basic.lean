import Gatehouse.Text.Ascii
import Gatehouse.Text.Blank

/-!
# Roles

Four application roles in a total order of privilege.  A role implies every role
below it.

Main results:

- Theorem {lit}`parse_name`: the name of a role reads back as the role.
-/

namespace Gatehouse

/-- An application role, from least to most privileged. -/
inductive Role where
  /-- Read-only access. -/
  | viewer
  /-- May create and change records. -/
  | editor
  /-- Incident management officer, may assign work. -/
  | imo
  /-- Full administrative access. -/
  | admin
deriving DecidableEq, Repr, Inhabited

namespace Role

/-- Height of a role in the order of privilege. -/
def rank : Role → Nat
  | viewer => 0
  | editor => 1
  | imo => 2
  | admin => 3

/-- A role is at most another one when it is not more privileged. -/
instance : LE Role := ⟨fun a b => a.rank ≤ b.rank⟩

instance (a b : Role) : Decidable (a ≤ b) := inferInstanceAs (Decidable (a.rank ≤ b.rank))

/-- All roles, least privileged first. -/
def all : List Role := [viewer, editor, imo, admin]

/-- The name of a role in configuration, tokens and frames. -/
def name : Role → String
  | viewer => "VIEWER"
  | editor => "EDITOR"
  | imo => "IMO"
  | admin => "ADMIN"

/-- The name of a role in messages to people. -/
def title : Role → String
  | viewer => "Viewer"
  | editor => "Editor"
  | imo => "Imo"
  | admin => "Admin"

/-- A name that is no role, as it was given. -/
structure Unknown where
  /-- The given text, not trimmed. -/
  text : String
deriving DecidableEq, Repr

/-- What is reported about a name that is no role. -/
def Unknown.message (e : Unknown) : String :=
  "unknown role `" ++ e.text ++ "`"

/-- The role whose name is exactly this text. -/
def ofName? (text : String) : Option Role :=
  all.find? fun role => role.name == text

/-- Reads the name of a role, ignoring blanks around it and ASCII case. -/
def parse (text : String) : Except Unknown Role :=
  match ofName? (Text.upper (Text.trim text)) with
  | some role => .ok role
  | none => .error ⟨text⟩

/-- Every role is in the list of all roles. -/
@[simp] theorem mem_all (role : Role) : role ∈ all := by
  cases role <;> decide

theorem le_iff_rank_le {a b : Role} : a ≤ b ↔ a.rank ≤ b.rank := Iff.rfl

/-- Roles of equal rank are equal. -/
theorem eq_of_rank_eq {a b : Role} (h : a.rank = b.rank) : a = b := by
  cases a <;> cases b <;> simp_all [rank]

/-- The name of a role names it. -/
theorem ofName?_name (role : Role) : ofName? role.name = some role := by
  cases role <;> rfl

/-- The name of a role reads back as the role. -/
theorem parse_name (role : Role) : parse role.name = .ok role := by
  cases role <;> rfl

end Role
end Gatehouse
