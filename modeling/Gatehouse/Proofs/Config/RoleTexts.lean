import Gatehouse.Config.Document
import Gatehouse.Config.Environment
import Gatehouse.Proofs.Config.References
import Gatehouse.Proofs.Config.RuleEntries
import Gatehouse.Proofs.Json.Freeform
import Gatehouse.Proofs.Role.Compilation
import Gatehouse.Proofs.Toml.LineBefore

/-!
# The role mapping of the settings is that of its text

A role mapping comes as a text, from a variable or from a document, where it is read as a value
of any kind and then taken as a table of rules.  A text that holds rules gives the mapping that
is read from the text with its rules at once, whatever the other settings are.

Main results:

- Theorem {lit}`ruleTable_of_decode`: the rules of a text, read as a value of any kind.
- Theorem {lit}`ofVariables_mapping`: the role mapping from a variable.
- Theorem {lit}`ofDocument_line`: the role mapping from a document.
- Theorem {lit}`readers_agree`: both are the mapping of the text.
-/

namespace Gatehouse
namespace Config

/-! ## Rules as values of any kind -/

/-- A list of names as a value. -/
def namesValue (names : List String) : Json.Value := .array (names.map .string)

/-- Rules as the members of an object. -/
def rulesValue (members : List (String × List String)) : List (String × Json.Value) :=
  members.map fun rule => (rule.1, namesValue rule.2)

/-- The rules in the members of an object of lists. -/
theorem tableRules?_rulesValue (members : List (String × List String)) :
    tableRules? (rulesValue members) = some (RoleRules.ofMembers members) := by
  have hentries : Entries (rulesValue members) members := by
    rw [Entries, rulesValue, List.forall₂_map_left_iff, List.forall₂_same]
    exact fun rule _ => ⟨rfl, .list rule.2⟩
  exact tableRules?_eq_some_iff.2 ⟨members, hentries, rfl⟩

/-- The canonical form of an object of lists of names has the rules in their order. -/
theorem canonical_rulesValue (members : List (String × List String)) :
    (Json.Value.object (rulesValue members)).canonical =
      .object (rulesValue (RoleRules.ofMembers members)) := by
  have hnames : ∀ names : List String, (namesValue names).canonical = namesValue names := by
    intro names
    rw [namesValue, Json.Value.canonical_array, List.map_map]
    rfl
  have hvalues : (rulesValue members).map (fun m => (m.1, m.2.canonical)) = rulesValue members := by
    rw [rulesValue, List.map_map]
    refine List.map_congr_left fun rule _ => ?_
    exact congrArg (Prod.mk rule.1) (hnames rule.2)
  rw [Json.Value.canonical_object, hvalues, rulesValue, Text.sortedMembers_map namesValue members]
  rfl

/-- A text that holds rules is read as the object of these rules. -/
theorem parse_of_decode {text : String} {rules : RoleRules}
    (h : RoleRules.decode text = .ok rules) :
    Json.parse text.toList = .ok (.object (rulesValue rules)) := by
  rcases RoleRules.decode_eq_ok_iff.1 h with ⟨members, hread, rfl⟩
  have hstands : Json.StandsFor (fun ms => .object (rulesValue ms)) RoleRules.read
      (Json.Value.read Json.nestingLimit) :=
    Json.standsFor_readMap (Json.standsFor_readList (Json.standsFor_readText _ 125))
  rw [Json.parse, hstands.run hread]
  exact congrArg Except.ok (canonical_rulesValue members)

/-- The rules of a text are those of its value. -/
theorem ruleTable_of_decode {text : String} {rules : RoleRules}
    (h : RoleRules.decode text = .ok rules) : ruleTable (.string text) = rules := by
  have htable : ruleTable? (.string text) = some (RoleRules.ofMembers rules) := by
    rw [ruleTable?, parse_of_decode h]
    exact tableRules?_rulesValue rules
  rw [ruleTable, htable, RoleRules.ofMembers,
    Text.sortedMembers_eq_self (RoleRules.ascending_of_decode h)]
  rfl

/-! ## The mapping and the other settings -/

/-- Settings with other rules. -/
def withRules (rules : RoleRules) (s : Settings) : Settings := { s with roleRules := rules }

/-- Whether the gate can start does not depend on the rules. -/
theorem checked_withRules (rules : RoleRules) (s : Settings) :
    (withRules rules s).checked = s.checked.map (withRules rules) := by
  change s.check.map (fun () => withRules rules s) = (s.check.map fun () => s).map (withRules rules)
  cases s.check <;> rfl

/-- Settings with other rules have the mapping of these. -/
theorem map_roleMapping_withRules {ε : Type} (rules : RoleRules) (loaded : Except ε Settings) :
    (loaded.map (withRules rules)).map Settings.roleMapping =
      loaded.map fun _ => RoleMapping.compile Matcher.regular rules := by
  cases loaded <;> rfl

/-! ## Variables -/

/-- Variables without one of them. -/
def without (name : String) (lookup : String → Option String) : String → Option String :=
  fun other => if other = name then none else lookup other

variable {lookup : String → Option String} {name text : String} {rules : RoleRules}

theorem nonBlank_without {other : String} (h : other ≠ name) :
    nonBlank (without name lookup) other = nonBlank lookup other := by
  rw [nonBlank, without, if_neg h]
  rfl

theorem number?_without {other : String} (h : other ≠ name) (bound : Nat) :
    number? (without name lookup) bound other = number? lookup bound other := by
  rw [number?, nonBlank_without h]
  rfl

/-- The rules are read from their own variable, and nothing else is. -/
theorem read_mapping (htext : nonBlank lookup "ROLE_MAPPING" = some text) :
    read lookup =
      (read (without "ROLE_MAPPING" lookup)).map (withRules (ruleTable (.string text))) := by
  have hbind : bindAddress (without "ROLE_MAPPING" lookup) = bindAddress lookup := by
    unfold bindAddress
    rw [nonBlank_without (by decide), number?_without (by decide)]
  unfold read
  simp only [hbind, number?_without (by decide : "MAX_QUEUE" ≠ "ROLE_MAPPING"),
    number?_without (by decide : "HEARTBEAT_SECS" ≠ "ROLE_MAPPING"),
    number?_without (by decide : "FEED_BACKOFF_MAX_SECS" ≠ "ROLE_MAPPING"),
    nonBlank_without (by decide : "PUBLIC_KEY" ≠ "ROLE_MAPPING"),
    nonBlank_without (by decide : "RBAC_READ_SUFFIXES" ≠ "ROLE_MAPPING"),
    nonBlank_without (by decide : "UPSTREAM_FEED_URL" ≠ "ROLE_MAPPING"),
    nonBlank_without (by decide : "API_TARGET" ≠ "ROLE_MAPPING"),
    nonBlank_without (by decide : "SNAPSHOT_URL" ≠ "ROLE_MAPPING"),
    nonBlank_without (by decide : "JWT_ISSUER" ≠ "ROLE_MAPPING"),
    nonBlank_without (by decide : "JWT_AUDIENCE" ≠ "ROLE_MAPPING"),
    nonBlank_without (by decide : "AUTH_ALLOWLIST" ≠ "ROLE_MAPPING"), htext]
  cases bindAddress lookup with
  | error fault => rfl
  | ok bind =>
      cases number? lookup _ "MAX_QUEUE" with
      | error fault => rfl
      | ok queue =>
          cases number? lookup _ "HEARTBEAT_SECS" with
          | error fault => rfl
          | ok heartbeat => cases number? lookup _ "FEED_BACKOFF_MAX_SECS" <;> rfl

/-- A text that holds rules is no blank variable. -/
theorem nonBlank_of_decode (hname : lookup name = some text)
    (h : RoleRules.decode text = .ok rules) : nonBlank lookup name = some text := by
  have hblank : Text.isBlankText text = false := by
    rw [Bool.eq_false_iff, Text.isBlankText, Ne, List.all_eq_true, ← Text.isEmpty_trim_iff,
      RoleRules.not_blank_of_decode h]
    exact Bool.false_ne_true
  rw [nonBlank, hname, Option.filter_some, hblank]
  rfl

/-- A variable with rules gives their mapping, and leaves the other settings and their faults
alone. -/
theorem ofVariables_mapping (hvariable : lookup "ROLE_MAPPING" = some text)
    (h : RoleRules.decode text = .ok rules) :
    ofVariables lookup = (ofVariables (without "ROLE_MAPPING" lookup)).map (withRules rules) := by
  have hread := read_mapping (nonBlank_of_decode hvariable h)
  rw [ruleTable_of_decode h] at hread
  rw [ofVariables, ofVariables, hread]
  cases read (without "ROLE_MAPPING" lookup) with
  | error fault => rfl
  | ok s => exact checked_withRules rules s

/-! ## Documents -/

/-- The members of a document without its role mapping. -/
def otherMembers (members : Toml.Members) : Toml.Members :=
  members.filter fun m => m.1 != "role_mapping"

/-- The settings in the members of a document, checked. -/
def checkedMembers (members : Toml.Members) : Except ConfigFault Settings :=
  match ofMembers members with
  | some settings => settings.checked
  | none => .error .document

variable {members : Toml.Members}

/-- The other names are found among the other members. -/
theorem lookup?_otherMembers (h : name ≠ "role_mapping") :
    Toml.lookup? (otherMembers members) name = Toml.lookup? members name := by
  rw [Toml.lookup?, Toml.lookup?, otherMembers, List.find?_filter]
  congr 2
  funext m
  by_cases hname : m.1 = name
  · simp [hname, h]
  · simp [hname]

/-- There is no role mapping among the other members. -/
theorem lookup?_otherMembers_self : Toml.lookup? (otherMembers members) "role_mapping" = none := by
  rw [Toml.lookup?, otherMembers, List.find?_filter, Option.map_eq_none_iff, List.find?_eq_none]
  simp

/-- The settings depend on what is found under their names alone. -/
theorem ofMembers_congr {more : Toml.Members}
    (h : ∀ name, Toml.lookup? members name = Toml.lookup? more name) :
    ofMembers members = ofMembers more := by
  unfold ofMembers settingOr
  simp only [h]

/-- A role mapping gives its rules, and leaves the other settings alone. -/
theorem ofMembers_mapping {v : Toml.Value} (h : Toml.lookup? members "role_mapping" = some v) :
    ofMembers members = (ofMembers (otherMembers members)).map (withRules (rulesOf v)) := by
  have hlast : ofMembers members = ofMembers (otherMembers members ++ [("role_mapping", v)]) := by
    refine ofMembers_congr fun name => ?_
    by_cases hname : name = "role_mapping"
    · rw [hname, h, Toml.lookup?_append lookup?_otherMembers_self]
      rfl
    · have hother : [("role_mapping", v)].find? (fun m => m.1 == name) = none := by
        simp [Ne.symm hname]
      rw [← lookup?_otherMembers hname, Toml.lookup?, Toml.lookup?, List.find?_append, hother,
        Option.or_none]
  rw [hlast]
  exact ofMembers_append_mapping v lookup?_otherMembers_self

/-- A role mapping among the members gives its rules, and leaves the other settings and their faults
alone. -/
theorem checkedMembers_value {v : Toml.Value}
    (h : Toml.lookup? members "role_mapping" = some v) :
    checkedMembers members =
      (checkedMembers (otherMembers members)).map (withRules (rulesOf v)) := by
  rw [checkedMembers, checkedMembers, ofMembers_mapping h]
  cases ofMembers (otherMembers members) with
  | none => rfl
  | some s => exact checked_withRules (rulesOf v) s

/-- A text with rules among the members gives their mapping, and leaves the other settings and
their faults alone. -/
theorem checkedMembers_mapping (h : Toml.lookup? members "role_mapping" = some (.string text))
    (hrules : RoleRules.decode text = .ok rules) :
    checkedMembers members = (checkedMembers (otherMembers members)).map (withRules rules) := by
  have hvalue : rulesOf (.string text) = rules := ruleTable_of_decode hrules
  rw [checkedMembers_value h, hvalue]

/-- The settings of a document are those in its members. -/
theorem ofDocument_eq {document : String}
    (h : Toml.parse? (expandVariables lookup document) = some members) :
    ofDocument lookup document = checkedMembers members := by
  rw [ofDocument, h]
  rfl

/-! ## A line with a text -/

/-- The key of the role mapping is a bare key. -/
theorem isBareKey_roleMapping : Toml.IsBareKey "role_mapping" := by
  have hbare : "role_mapping".toList.all Toml.isBare = true := by decide
  exact ⟨by decide, List.all_eq_true.1 hbare⟩

/-- A line with a string that refers to nothing stays in front of the rest of a document. -/
theorem expandVariables_line {token rest : String} (htoken : Toml.Spells token text)
    (htext : ¬Toml.Refers text.toList) :
    expandVariables lookup (Toml.lineBefore "role_mapping" token rest) =
      Toml.lineBefore "role_mapping" token (expandVariables lookup rest) := by
  have hkey : Closed ("role_mapping" ++ " = ").toList := closed_of_not_mem (by decide)
  have hplain : ¬Toml.Refers ("role_mapping" ++ " = ").toList := fun hrefers =>
    absurd (hrefers.subset List.mem_cons_self) (by decide)
  have hsame : expandVariables lookup ("role_mapping" ++ " = ") = "role_mapping" ++ " = " :=
    expandVariables_of_not_refers hplain
  rw [Toml.lineBefore, expandVariables_token hkey htoken htext, hsame]
  rfl

/-- A line with a text in front of a document without a role mapping gives the mapping of the
text, and leaves the other settings and their faults alone. -/
theorem ofDocument_line {token rest : String} (htoken : Toml.Spells token text)
    (htext : ¬Toml.Refers text.toList) (hrules : RoleRules.decode text = .ok rules)
    (hmark : (expandVariables lookup rest).toList.head? ≠ some '\uFEFF')
    (hrest : Toml.parse? (expandVariables lookup rest) = some members)
    (hunused : "role_mapping" ∉ members.map Prod.fst) :
    ofDocument lookup (Toml.lineBefore "role_mapping" token rest) =
      (ofDocument lookup rest).map (withRules rules) := by
  have hline := Toml.parse?_lineBefore isBareKey_roleMapping htoken.endsLine hmark hrest hunused
  rw [← expandVariables_line htoken htext] at hline
  have hothers : otherMembers (("role_mapping", .string text) :: members) = members := by
    rw [otherMembers, List.filter_cons_of_neg (by simp), List.filter_eq_self]
    intro m hm
    rw [bne_iff_ne]
    rintro hsame
    exact hunused (hsame ▸ List.mem_map_of_mem hm)
  rw [ofDocument_eq hline, ofDocument_eq hrest, checkedMembers_mapping rfl hrules, hothers]

/-- Let a text hold rules, with patterns and roles in whatever order and number.  A variable with
this text gives the settings that the other variables give, or their fault, with the mapping of
the text.  So does a document whose role mapping is a string with this text.  If the text refers
to no variable, then no string that spells it does, whatever quotes and escapes it is spelled
with: it comes unchanged through the expansion of references wherever it ends a line behind
complete references, and in a line in front of a document it gives the settings that the document
gives, or their fault, with the mapping of the text. -/
theorem readers_agree (h : RoleRules.decode text = .ok rules) :
    (∀ lookup, lookup "ROLE_MAPPING" = some text →
      (ofVariables lookup).map Settings.roleMapping =
        (ofVariables (without "ROLE_MAPPING" lookup)).map
          fun _ => RoleMapping.ofText Matcher.regular text) ∧
    (∀ lookup document members, Toml.parse? (expandVariables lookup document) = some members →
      Toml.lookup? members "role_mapping" = some (.string text) →
      (ofDocument lookup document).map Settings.roleMapping =
        (checkedMembers (otherMembers members)).map
          fun _ => RoleMapping.ofText Matcher.regular text) ∧
    (∃ token, Toml.Spells token text) ∧
    (¬Toml.Refers text.toList → ∀ lookup token, Toml.Spells token text →
      (∀ front back, Closed front.toList →
        expandVariables lookup (front ++ token ++ "\n" ++ back) =
          expandVariables lookup front ++ token ++ "\n" ++ expandVariables lookup back) ∧
      ∀ rest members, Toml.parse? (expandVariables lookup rest) = some members →
        "role_mapping" ∉ members.map Prod.fst →
        (expandVariables lookup rest).toList.head? ≠ some '\uFEFF' →
        (ofDocument lookup (Toml.lineBefore "role_mapping" token rest)).map Settings.roleMapping =
          (ofDocument lookup rest).map fun _ => RoleMapping.ofText Matcher.regular text) := by
  have htext : RoleMapping.ofText Matcher.regular text =
      RoleMapping.compile Matcher.regular rules := RoleMapping.ofText_of_decode h
  rw [htext]
  refine ⟨?_, ?_, ⟨_, Toml.spells_spelled text⟩, ?_⟩
  · intro lookup hvariable
    rw [ofVariables_mapping hvariable h, map_roleMapping_withRules]
  · intro lookup document members hparse hmapping
    rw [ofDocument_eq hparse, checkedMembers_mapping hmapping h, map_roleMapping_withRules]
  · intro hplain lookup token htoken
    refine ⟨fun front back hfront => expandVariables_token hfront htoken hplain, ?_⟩
    intro rest members hrest hunused hmark
    rw [ofDocument_line htoken hplain h hmark hrest hunused, map_roleMapping_withRules]

/-! ### A pattern that is given twice -/

/-- Rules for two patterns: one has no roles, the other one is given twice. -/
def repeated : String := "\x7b\"OPS\": [\"VIEWER\"], \"IMO\": [], \"OPS\": [\"IMO\"]\x7d"

/-- Variables with a key and these rules. -/
def repeatedVariables : String → Option String
  | "PUBLIC_KEY" => some "k"
  | "ROLE_MAPPING" => some repeated
  | _ => none

/-- The pattern that is given twice has the roles of the last time, and the gate starts with the
mapping of the text, from a variable and from a document. -/
theorem readers_agree_of_repeated :
    RoleRules.decode repeated = .ok [("IMO", []), ("OPS", ["IMO"])] ∧
    (ofVariables repeatedVariables).map Settings.roleMapping =
      .ok (RoleMapping.ofText Matcher.regular repeated) ∧
    (ofDocument repeatedVariables (Toml.lineBefore "role_mapping" (Toml.spelled repeated)
        "public_key = \"k\"\n")).map Settings.roleMapping =
      .ok (RoleMapping.ofText Matcher.regular repeated) := by
  have hrules : RoleRules.decode repeated = .ok [("IMO", []), ("OPS", ["IMO"])] :=
    Json.toOption_eq_some_iff.1 (by decide +kernel)
  have hplain : ¬Toml.Refers repeated.toList := fun hrefers =>
    absurd (hrefers.subset List.mem_cons_self) (by decide)
  have hkey : (Toml.parse? (expandVariables repeatedVariables "public_key = \"k\"\n")).map
      (List.map Prod.fst) = some ["public_key"] := by decide +kernel
  rcases Option.map_eq_some_iff.1 hkey with ⟨members, hmembers, hkeys⟩
  have hunused : "role_mapping" ∉ members.map Prod.fst := by
    rw [hkeys]
    decide
  have hstarts :
      (ofVariables (without "ROLE_MAPPING" repeatedVariables)).toOption.isSome = true := by
    decide +kernel
  have hstarts' :
      (ofDocument repeatedVariables "public_key = \"k\"\n").toOption.isSome = true := by
    decide +kernel
  rcases Option.isSome_iff_exists.1 hstarts with ⟨s, hs⟩
  rcases Option.isSome_iff_exists.1 hstarts' with ⟨s', hs'⟩
  rcases readers_agree hrules with ⟨hvariable, -, -, hstring⟩
  refine ⟨hrules, ?_, ?_⟩
  · rw [hvariable _ rfl, Json.toOption_eq_some_iff.1 hs]
    rfl
  · have hline := (hstring hplain repeatedVariables _ (Toml.spells_spelled repeated)).2 _ members
      hmembers hunused (by decide +kernel)
    rw [hline, Json.toOption_eq_some_iff.1 hs']
    rfl

end Config
end Gatehouse
