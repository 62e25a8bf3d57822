import Gatehouse.Json.Record
import Gatehouse.Pattern.Extent
import Gatehouse.Role.Set
import Gatehouse.Text.Blank
import Gatehouse.Text.Ordered

/-!
# Roles from directory groups

A role mapping is a list of rules, in the order of their patterns.  A rule gives its
roles to everyone with a group that its pattern matches.  What patterns are and what
they match is a parameter.

Main results:

- Theorem {lit}`RoleMapping.mem_resolve`: a role comes from a group that a rule matches.

Current gaps:

- What is wrong with a pattern that is not well formed is not told.
-/

namespace Gatehouse

/-- A language of patterns. -/
structure Matcher (P : Type) where
  /-- The pattern of a text, if it is one. -/
  compile : String → Option P
  /-- Whether a pattern matches some stretch of a text. -/
  accepts : P → String → Bool

/-- The language of regular expressions. -/
def Matcher.regular : Matcher Pattern := ⟨Pattern.compile?, Pattern.accepts⟩

/-- The rules of a mapping as they are configured: patterns with the names of roles,
increasing in the patterns. -/
abbrev RoleRules := List (String × List String)

namespace RoleRules

/-- The rules given as members in any order; of equal patterns the last one counts. -/
def ofMembers (members : List (String × List String)) : RoleRules :=
  Text.sortedMembers members

/-- Reads rules: an object whose members are lists of names. -/
def read : Json.Reader (List (String × List String)) :=
  Json.readMap (Json.readList fun _ => Json.readText Json.textKind) Json.nestingLimit

/-- The rules that a JSON text holds. -/
def decode (text : String) : Except Json.Fault RoleRules :=
  (Json.Reader.run read text.toList).map ofMembers

end RoleRules

/-- Why rules are refused. -/
inductive MappingFault where
  /-- A pattern is not well formed. -/
  | pattern (text : String)
  /-- The rule of a pattern names an unknown role. -/
  | role (pattern : String) (unknown : Role.Unknown)
deriving DecidableEq, Repr

/-- The wording of a fault. -/
def MappingFault.message : MappingFault → String
  | pattern text => "invalid role pattern \u0060" ++ text ++ "\u0060"
  | role text unknown =>
      "role pattern \u0060" ++ text ++ "\u0060 maps to " ++ unknown.message

/-- A rule with its compiled pattern. -/
structure RoleRule (P : Type) where
  text : String
  pattern : P
  roles : RoleSet

/-- A list of rules. -/
structure RoleMapping (P : Type) where
  rules : List (RoleRule P)

namespace RoleMapping

variable {P : Type}

/-- No rules. -/
def empty : RoleMapping P := ⟨[]⟩

/-- Compiles a rule: first its pattern, then its roles. -/
def compileRule (m : Matcher P) (rule : String × List String) :
    Except MappingFault (RoleRule P) :=
  match m.compile rule.1 with
  | none => .error (.pattern rule.1)
  | some pattern =>
      match rule.2.mapM Role.parse with
      | .error unknown => .error (.role rule.1 unknown)
      | .ok roles => .ok ⟨rule.1, pattern, RoleSet.ofList roles⟩

/-- Compiles all rules, or tells the first fault. -/
def tryCompile (m : Matcher P) (rules : RoleRules) : Except MappingFault (RoleMapping P) :=
  (rules.mapM (compileRule m)).map RoleMapping.mk

/-- Compiles all rules; if one is faulty there are none. -/
def compile (m : Matcher P) (rules : RoleRules) : RoleMapping P :=
  (tryCompile m rules).toOption.getD empty

/-- The mapping of a JSON text; a blank or faulty text has no rules. -/
def ofText (m : Matcher P) (text : String) : RoleMapping P :=
  if (Text.trim text).isEmpty then empty
  else
    match RoleRules.decode text with
    | .ok rules => compile m rules
    | .error _ => empty


/-- The roles of someone with these groups. -/
def resolve (m : Matcher P) (mapping : RoleMapping P) (groups : List String) : RoleSet :=
  groups.foldl (fun roles group =>
    mapping.rules.foldl (fun roles rule =>
      if m.accepts rule.pattern group then roles.union rule.roles else roles) roles)
    RoleSet.empty

theorem mem_foldl_covering {r : Role} (m : Matcher P) (group : String)
    (rules : List (RoleRule P)) (roles : RoleSet) :
    r ∈ rules.foldl (fun roles rule =>
        if m.accepts rule.pattern group then roles.union rule.roles else roles) roles ↔
      r ∈ roles ∨ ∃ rule ∈ rules, m.accepts rule.pattern group = true ∧ r ∈ rule.roles := by
  induction rules generalizing roles with
  | nil => simp
  | cons rule rest ih =>
      rw [List.foldl_cons, ih]
      by_cases h : m.accepts rule.pattern group = true <;>
        simp [h, List.mem_cons, or_and_right, exists_or, or_assoc]

/-- A role is given exactly if some group matches a rule that gives it. -/
theorem mem_resolve {r : Role} {m : Matcher P} {mapping : RoleMapping P}
    {groups : List String} :
    r ∈ mapping.resolve m groups ↔
      ∃ group ∈ groups, ∃ rule ∈ mapping.rules,
        m.accepts rule.pattern group = true ∧ r ∈ rule.roles := by
  suffices h : ∀ roles : RoleSet,
      r ∈ groups.foldl (fun roles group =>
          mapping.rules.foldl (fun roles rule =>
            if m.accepts rule.pattern group then roles.union rule.roles else roles) roles)
          roles ↔
        r ∈ roles ∨ ∃ group ∈ groups, ∃ rule ∈ mapping.rules,
          m.accepts rule.pattern group = true ∧ r ∈ rule.roles by
    simpa [resolve] using h RoleSet.empty
  induction groups with
  | nil => simp
  | cons group rest ih =>
      intro roles
      rw [List.foldl_cons, ih, mem_foldl_covering]
      simp [List.mem_cons, or_and_right, exists_or, or_assoc]

end RoleMapping
end Gatehouse
