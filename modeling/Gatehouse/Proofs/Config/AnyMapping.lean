import Gatehouse.Proofs.Config.RoleTexts

/-!
# A role mapping of any kind

A document may have any value as its role mapping.  The mapping is taken as a whole or not at all,
and the other settings do not depend on it.  A moment is the exception: from outside it looks like
a table with one member, so it becomes a rule, with a pattern that no document has written.

Main results:

- Theorem {lit}`ruleTable?_toJson_eq_some_iff`: which values have rules, and which ones these are.
- Theorem {lit}`ofDocument_of_adds`: the settings of a document with a role mapping.
- Theorem {lit}`takes_whole_iff`: the mapping is taken as a whole or not at all, except for moments.
-/

namespace Gatehouse
namespace Config

open Toml (Value Members lookup?)

/-! ## Rules of a value -/

/-- Whether a value is a mapping with these rules: a table, or a string that holds an object as
JSON, with an entry of the right form for every rule. -/
inductive Converts : Value → RoleRules → Prop where
  | table {members : Members} {rules : List (String × List String)}
      (h : Entries (Value.membersToJson members) rules) :
      Converts (.table members) (RoleRules.ofMembers rules)
  | text {text : String} {members : List (String × Json.Value)}
      {rules : List (String × List String)}
      (hparse : Json.parse text.toList = .ok (.object members))
      (h : Entries members rules) : Converts (.string text) (RoleRules.ofMembers rules)

/-- Whether rules are those of a value as a whole, or none if it is not of the right form. -/
def Whole (v : Value) (rules : RoleRules) : Prop :=
  Converts v rules ∨ rules = [] ∧ ∀ rules, ¬Converts v rules

/-! ## Which values have rules -/

/-- A value has rules exactly if it is a mapping with them, or a moment. -/
theorem ruleTable?_toJson_eq_some_iff {v : Value} {rules : RoleRules} :
    ruleTable? v.toJson = some rules ↔
      Converts v rules ∨ ∃ moment, v = .moment moment ∧ [(Value.momentKey, [moment])] = rules := by
  constructor
  · intro h
    cases v with
    | string text =>
        rw [Value.toJson, ruleTable?] at h
        split at h
        · rename_i members hparse
          rcases tableRules?_eq_some_iff.1 h with ⟨given, hgiven, rfl⟩
          exact .inl (.text hparse hgiven)
        · contradiction
    | table members =>
        rcases tableRules?_eq_some_iff.1 h with ⟨given, hgiven, rfl⟩
        exact .inl (.table hgiven)
    | moment text => exact .inr ⟨text, rfl, Option.some.inj h⟩
    | integer n =>
        have hnumber : ruleTable? (Value.ofInteger n) = none := by
          unfold Value.ofInteger
          split <;> rfl
        rw [Value.toJson, hnumber] at h
        contradiction
    | float x => cases x <;> contradiction
    | boolean b => contradiction
    | array items => contradiction
  · rintro (h | ⟨moment, rfl, rfl⟩)
    · cases h with
      | table h => exact tableRules?_eq_some_iff.2 ⟨_, h, rfl⟩
      | text hparse h =>
          rw [Value.toJson, ruleTable?, hparse]
          exact tableRules?_eq_some_iff.2 ⟨_, h, rfl⟩
    · rfl

theorem rulesOf_moment (moment : String) :
    rulesOf (.moment moment) = [(Value.momentKey, [moment])] := rfl

/-- The rules of a value are its rules as a whole or none, unless the value is a moment. -/
theorem whole_rulesOf_iff {v : Value} :
    Whole v (rulesOf v) ↔ ∀ moment, v ≠ .moment moment := by
  constructor
  · rintro hwhole moment rfl
    rcases hwhole with h | ⟨hnone, -⟩
    · exact nomatch h
    · rw [rulesOf_moment] at hnone
      contradiction
  · intro hmoment
    have hrules {rules : RoleRules} : ruleTable? v.toJson = some rules ↔ Converts v rules := by
      refine ruleTable?_toJson_eq_some_iff.trans (or_iff_left ?_)
      rintro ⟨moment, hv, -⟩
      exact hmoment moment hv
    rw [rulesOf, ruleTable]
    cases hread : ruleTable? v.toJson with
    | some rules => exact .inl (hrules.1 hread)
    | none =>
        refine .inr ⟨rfl, fun rules hconverts => ?_⟩
        rw [hrules.2 hconverts] at hread
        contradiction

/-! ## Documents -/

variable {lookup : String → Option String} {text text' : String} {v : Value} {s : Settings}

/-- A document with a role mapping gives the settings that it gives without, or their fault, with
the rules of the mapping. -/
theorem ofDocument_of_adds {members : Members} (hplain : ¬Toml.Refers text.toList)
    (hplain' : ¬Toml.Refers text'.toList) (hparse : Toml.parse? text = some members)
    (hunused : ¬Toml.Uses text "role_mapping") (hadds : Toml.Adds "role_mapping" v text text') :
    ofDocument lookup text' = (ofDocument lookup text).map (withRules (rulesOf v)) := by
  rcases hadds members hparse with ⟨members', hparse', hvalue, hsame⟩
  have hothers : ofMembers (otherMembers members') = ofMembers members := by
    refine ofMembers_congr fun name => ?_
    by_cases hname : name = "role_mapping"
    · have hnone : lookup? members "role_mapping" = none :=
        Toml.lookup?_eq_none fun hmem => hunused ⟨members, hparse, hmem⟩
      rw [hname, lookup?_otherMembers_self, hnone]
    · rw [lookup?_otherMembers hname, hsame name hname]
  have hdocument : ofDocument lookup text = checkedMembers members :=
    ofDocument_eq ((congrArg Toml.parse? (expandVariables_of_not_refers hplain)).trans hparse)
  have hdocument' : ofDocument lookup text' = checkedMembers members' :=
    ofDocument_eq ((congrArg Toml.parse? (expandVariables_of_not_refers hplain')).trans hparse')
  rw [hdocument, hdocument', checkedMembers_value hvalue, checkedMembers, checkedMembers, hothers]

/-- A document without references that gives settings is read. -/
theorem exists_members_of_ofDocument (hplain : ¬Toml.Refers text.toList)
    (h : ofDocument lookup text = .ok s) : ∃ members, Toml.parse? text = some members := by
  rw [ofDocument, expandVariables_of_not_refers hplain] at h
  cases hparse : Toml.parse? text with
  | some members => exact ⟨members, rfl⟩
  | none =>
      rw [hparse] at h
      contradiction

/-- Let a document without references and without a role mapping give settings.  Let another
document without references add a value of whatever kind as the role mapping, wherever and however
it is written.  This one gives the same settings but for the rules.  They are the rules of the value
as a whole, or none if some entry or the value itself is not of the right form, exactly if the value
is no moment: of a moment there is one rule, with the text of the moment as its role.  A line with
the value in front of the document, behind its byte order mark, is such another document. -/
theorem takes_whole_iff (hplain : ¬Toml.Refers text.toList)
    (hunused : ¬Toml.Uses text "role_mapping") (hstarts : ofDocument lookup text = .ok s) :
    (∀ v text', Toml.Adds "role_mapping" v text text' → ¬Toml.Refers text'.toList →
      ∃ rules, ofDocument lookup text' = .ok (withRules rules s) ∧
        (Whole v rules ↔ ∀ moment, v ≠ .moment moment) ∧
        ∀ moment, v = .moment moment → rules = [(Value.momentKey, [moment])]) ∧
    ∀ v token, Toml.value? token = some v → ¬Toml.Refers token.toList →
      Toml.Adds "role_mapping" v text (Toml.withLine "role_mapping" token text) ∧
        ¬Toml.Refers (Toml.withLine "role_mapping" token text).toList := by
  refine ⟨fun v text' hadds hplain' => ?_, fun v token htoken htoken' => ⟨?_, ?_⟩⟩
  · rcases exists_members_of_ofDocument hplain hstarts with ⟨members, hparse⟩
    have hdocument : ofDocument lookup text' =
        (ofDocument lookup text).map (withRules (rulesOf v)) :=
      ofDocument_of_adds hplain hplain' hparse hunused hadds
    rw [hstarts] at hdocument
    refine ⟨rulesOf v, hdocument, whole_rulesOf_iff, ?_⟩
    rintro moment rfl
    exact rulesOf_moment moment
  · exact Toml.adds_withLine isBareKey_roleMapping htoken hunused
  · exact Toml.not_refers_withLine isBareKey_roleMapping htoken' hplain

/-! ### A date as role mapping -/

/-- A document with a key. -/
def keyed : String := "public_key = \"k\"\n"

/-- The document with a date as its role mapping. -/
def dated : String := Toml.withLine "role_mapping" "1979-05-27" keyed

/-- The rules of the date. -/
def dateRules : RoleRules := [("$__toml_private_datetime", ["1979-05-27"])]

theorem not_refers_keyed : ¬Toml.Refers keyed.toList := fun hrefers =>
  absurd (hrefers.subset List.mem_cons_self) (by decide)

theorem not_refers_date : ¬Toml.Refers "1979-05-27".toList := fun hrefers =>
  absurd (hrefers.subset List.mem_cons_self) (by decide)

theorem value?_date : Toml.value? "1979-05-27" = some (.moment "1979-05-27") :=
  Toml.value?_of_readDate (by decide +kernel)

theorem not_uses_keyed : ¬Toml.Uses keyed "role_mapping" := by
  have hkeys : (Toml.parse? keyed).map (List.map Prod.fst) = some ["public_key"] := by
    decide +kernel
  rintro ⟨members, hparse, hmem⟩
  rw [hparse] at hkeys
  rw [Option.some.inj hkeys] at hmem
  exact absurd hmem (by decide)

/-- The document is one that the gate starts with. -/
theorem starts_keyed : ∃ s, ofDocument (fun _ => none) keyed = .ok s := by
  have hstarts : (ofDocument (fun _ => none) keyed).toOption.isSome = true := by decide +kernel
  rcases Option.isSome_iff_exists.1 hstarts with ⟨s, hs⟩
  exact ⟨s, Json.toOption_eq_some_iff.1 hs⟩

/-- The date is no mapping, and becomes the role of a rule all the same. -/
theorem takes_whole_iff_of_date :
    ¬Toml.Refers keyed.toList ∧ ¬Toml.Uses keyed "role_mapping" ∧
    ∃ s, ofDocument (fun _ => none) keyed = .ok s ∧
      ofDocument (fun _ => none) dated = .ok (withRules dateRules s) ∧
      ¬Whole (.moment "1979-05-27") dateRules := by
  rcases starts_keyed with ⟨s, hs⟩
  rcases takes_whole_iff not_refers_keyed not_uses_keyed hs with ⟨hadded, hline⟩
  rcases hline _ _ value?_date not_refers_date with ⟨hadds, hplain⟩
  rcases hadded _ _ hadds hplain with ⟨rules, hdocument, hwhole, hmoment⟩
  rw [hmoment _ rfl] at hdocument hwhole
  exact ⟨not_refers_keyed, not_uses_keyed, s, hs, hdocument, fun h => hwhole.1 h _ rfl⟩

/-- A role mapping is not always taken as a whole or not at all. -/
theorem not_always_whole :
    ¬∀ (lookup : String → Option String) (text text' : String) (s : Settings) (v : Value),
      ¬Toml.Refers text.toList → ¬Toml.Refers text'.toList → ¬Toml.Uses text "role_mapping" →
      ofDocument lookup text = .ok s → Toml.Adds "role_mapping" v text text' →
      ∃ rules, ofDocument lookup text' = .ok (withRules rules s) ∧ Whole v rules := by
  intro hwhole
  rcases starts_keyed with ⟨s, hs⟩
  have hplain := Toml.not_refers_withLine isBareKey_roleMapping not_refers_date not_refers_keyed
  have hadds := Toml.adds_withLine isBareKey_roleMapping value?_date not_uses_keyed
  rcases hwhole _ _ _ s _ not_refers_keyed hplain not_uses_keyed hs hadds with
    ⟨rules, hdocument, hrules⟩
  have hread : (ofDocument (fun _ => none) dated).toOption.map Settings.roleRules =
      some dateRules := by decide +kernel
  rw [dated, hdocument] at hread
  rcases hrules with hconverts | ⟨hnone, -⟩
  · exact nomatch hconverts
  · rw [hnone] at hread
    exact nomatch hread

end Config
end Gatehouse
