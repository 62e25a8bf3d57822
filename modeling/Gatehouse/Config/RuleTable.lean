import Gatehouse.Json.Container
import Gatehouse.Role.Mapping

/-!
# Role rules in a configuration

The rules of the role mapping are a table of patterns with lists of roles, or with a
single role, or a text that holds such a table as JSON.  Anything else means that there
are no rules.
-/

namespace Gatehouse
namespace Config

/-- The name that a value holds. -/
def name? : Json.Value → Option String
  | .string name => some name
  | _ => none

/-- The roles of a rule: a list of names or a single one. -/
def roleNames? : Json.Value → Option (List String)
  | .string name => some [name]
  | .array names => names.mapM name?
  | _ => none

/-- The rules in the members of a table. -/
def tableRules? (members : List (String × Json.Value)) : Option RoleRules :=
  (members.mapM fun rule => (roleNames? rule.2).map fun names => (rule.1, names)).map
    RoleRules.ofMembers

/-- The rules of a value. -/
def ruleTable? : Json.Value → Option RoleRules
  | .object members => tableRules? members
  | .string text =>
      match Json.parse text.toList with
      | .ok (.object members) => tableRules? members
      | _ => none
  | _ => none

/-- The rules of a value, none if it is not of the right form. -/
def ruleTable (v : Json.Value) : RoleRules := (ruleTable? v).getD []

end Config
end Gatehouse
