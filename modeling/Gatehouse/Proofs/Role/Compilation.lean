import Gatehouse.Proofs.Json.Canonical
import Gatehouse.Proofs.Json.Progress
import Gatehouse.Proofs.Role.Resolution
import Gatehouse.Proofs.Text.Trimming

/-!
# All rules or none

Rules compile one after the other, each with its pattern before the names of its roles, and
the first fault ends the work.  So a mapping has a rule for every rule that was configured, or
none at all.

Main results:

- Theorem {lit}`compileRule_eq_ok_iff` and theorem {lit}`compileRule_eq_error_iff`: what comes
  of one rule.
- Theorem {lit}`tryCompile_eq_ok_iff` and theorem {lit}`tryCompile_eq_error_iff`: what comes of
  all rules.
- Theorem {lit}`RoleMapping.all_or_none`: a mapping holds all rules or none.
-/

namespace Gatehouse

/-! ## Names of roles -/

namespace Role

variable {text : String} {role : Role} {unknown : Unknown}

/-- Whether a text names a role, up to blanks around the name and to the case of letters. -/
def Named (text : String) (role : Role) : Prop := Text.upper (Text.trim text) = role.name

instance (text : String) (role : Role) : Decidable (Named text role) :=
  inferInstanceAs (Decidable (_ = _))

/-- The role with a certain name is found under it alone. -/
theorem ofName?_eq_some_iff : ofName? text = some role ↔ text = role.name := by
  constructor
  · intro h
    unfold ofName? at h
    have hfound := List.find?_some h
    exact (beq_iff_eq.1 hfound).symm
  · rintro rfl
    exact ofName?_name role

/-- A text reads as the role that it names. -/
theorem parse_eq_ok_iff : parse text = .ok role ↔ Named text role := by
  unfold parse Named
  rw [← ofName?_eq_some_iff]
  cases ofName? (Text.upper (Text.trim text)) <;> simp

/-- A text that names no role is unknown, as it stands. -/
theorem parse_eq_error_iff :
    parse text = .error unknown ↔ (∀ role, ¬ Named text role) ∧ unknown = ⟨text⟩ := by
  simp only [← parse_eq_ok_iff]
  unfold parse
  cases ofName? (Text.upper (Text.trim text)) with
  | none => simp [eq_comm]
  | some role => simp

end Role

/-! ## Texts that hold rules -/

namespace RoleRules

variable {text : String} {rules : RoleRules}

/-- The rules of a text are the members that are read from it. -/
theorem decode_eq_ok_iff :
    decode text = .ok rules ↔
      ∃ members, Json.Reader.run read text.toList = .ok members ∧ ofMembers members = rules := by
  unfold decode
  cases Json.Reader.run read text.toList <;> simp [Except.map]

/-- The rules of a text are in increasing order of their patterns. -/
theorem ascending_of_decode (h : decode text = .ok rules) : Text.Ascending rules := by
  rcases decode_eq_ok_iff.1 h with ⟨members, -, rfl⟩
  exact Text.ascending_sortedMembers members

/-- A text that holds rules is not blank: they stand between braces. -/
theorem not_blank_of_decode (h : decode text = .ok rules) :
    (Text.trim text).isEmpty = false := by
  have hbrace : '\x7b' ∈ text.toList := by
    rcases decode_eq_ok_iff.1 h with ⟨members, hread, -⟩
    rcases Json.read_of_run hread with ⟨c, hmap⟩
    rcases Json.readMap_start hmap with ⟨rest, hrest⟩
    have hsuffix : (Json.Cursor.start text.toList).skipSpace.rest <:+ text.toList :=
      Json.Cursor.skipWhile_suffix _ _ _ _
    rw [hrest] at hsuffix
    exact hsuffix.subset List.mem_cons_self
  -- trimming takes more characters than the reader skips, but no brace
  rw [Bool.eq_false_iff]
  intro hblank
  exact absurd (Text.isEmpty_trim_iff.1 hblank _ hbrace) (by decide)

end RoleRules

/-! ## One rule -/

namespace RoleMapping

variable {P : Type} {m : Matcher P} {rule : String × List String} {rules : RoleRules}
  {compiled : RoleRule P} {mapping : RoleMapping P} {fault : MappingFault}

/-- Whether a rule is sound: its pattern is one, and its names are those of roles. -/
structure Sound (m : Matcher P) (rule : String × List String) : Prop where
  pattern : ∃ pattern, m.compile rule.1 = some pattern
  names : ∀ name ∈ rule.2, ∃ role, Role.Named name role

/-- Whether a compiled rule is the one of a sound rule: it has its pattern, and the roles that
it names with all below them. -/
structure Compiles (m : Matcher P) (rule : String × List String) (compiled : RoleRule P) :
    Prop where
  text : compiled.text = rule.1
  pattern : m.compile rule.1 = some compiled.pattern
  names : ∀ name ∈ rule.2, ∃ role, Role.Named name role
  inOrder : compiled.roles.InOrder
  mem_roles : ∀ r, r ∈ compiled.roles ↔ ∃ name ∈ rule.2, ∃ role, Role.Named name role ∧ r ≤ role

/-- What is wrong with a rule: its pattern, or, if that is one, the first of its names that
names no role. -/
inductive Offends (m : Matcher P) (rule : String × List String) : MappingFault → Prop where
  | pattern (hpattern : m.compile rule.1 = none) : Offends m rule (.pattern rule.1)
  | role {pattern : P} {front rest : List String} {name : String}
      (hpattern : m.compile rule.1 = some pattern) (hnames : rule.2 = front ++ name :: rest)
      (hfront : ∀ other ∈ front, ∃ role, Role.Named other role)
      (hname : ∀ role, ¬ Role.Named name role) : Offends m rule (.role rule.1 ⟨name⟩)

/-- A rule with a fault is not sound. -/
theorem Offends.not_sound (h : Offends m rule fault) : ¬ Sound m rule := by
  rintro ⟨⟨pattern, hcompiled⟩, hroles⟩
  cases h with
  | pattern hpattern =>
      rw [hpattern] at hcompiled
      exact nomatch hcompiled
  | role hpattern hnames hfront hname =>
      have hmem : _ ∈ rule.2 := hnames ▸ List.mem_append_right _ List.mem_cons_self
      rcases hroles _ hmem with ⟨role, hrole⟩
      exact hname role hrole

/-- A rule that compiles is sound. -/
theorem Compiles.sound (h : Compiles m rule compiled) : Sound m rule :=
  ⟨⟨compiled.pattern, h.pattern⟩, h.names⟩

/-- A rule whose pattern and names can be read compiles. -/
theorem compileRule_of_parts {pattern : P} {roles : List Role}
    (hpattern : m.compile rule.1 = some pattern) (hroles : rule.2.mapM Role.parse = .ok roles) :
    compileRule m rule = .ok ⟨rule.1, pattern, RoleSet.ofList roles⟩ := by
  simp only [compileRule, hpattern, hroles]

/-- What a rule compiles to. -/
theorem compileRule_eq_ok_iff : compileRule m rule = .ok compiled ↔ Compiles m rule compiled := by
  constructor
  · intro h
    unfold compileRule at h
    cases hpattern : m.compile rule.1 with
    | none => simp [hpattern] at h
    | some pattern =>
        cases hroles : rule.2.mapM Role.parse with
        | error unknown => simp [hpattern, hroles] at h
        | ok roles =>
            have hcompiled : ⟨rule.1, pattern, RoleSet.ofList roles⟩ = compiled := by
              simpa [hpattern, hroles] using h
            subst hcompiled
            refine ⟨rfl, hpattern, ?_, RoleSet.inOrder_ofList roles, ?_⟩
            · intro name hname
              rcases exists_of_mapM_eq_ok hroles hname with ⟨role, -, hparse⟩
              exact ⟨role, Role.parse_eq_ok_iff.1 hparse⟩
            · intro r
              simp only [mem_ofList_of_mapM hroles, Role.parse_eq_ok_iff]
  · intro h
    have hparse : ∀ name ∈ rule.2, ∃ role, Role.parse name = .ok role := by
      simpa only [Role.parse_eq_ok_iff] using h.names
    rcases exists_mapM_eq_ok hparse with ⟨roles, hroles⟩
    have hset : RoleSet.ofList roles = compiled.roles := by
      apply (RoleSet.inOrder_ofList roles).eq_of_mem_iff h.inOrder
      intro r
      simp only [mem_ofList_of_mapM hroles, Role.parse_eq_ok_iff, h.mem_roles]
    rw [compileRule_of_parts h.pattern hroles, hset, ← h.text]

/-- The first name that names no role is the one at which the reading of names ends. -/
theorem mapM_parse_eq_error_iff {names : List String} {unknown : Role.Unknown} :
    names.mapM Role.parse = .error unknown ↔
      ∃ front name rest, names = front ++ name :: rest ∧
        (∀ other ∈ front, ∃ role, Role.Named other role) ∧
        (∀ role, ¬ Role.Named name role) ∧ unknown = ⟨name⟩ := by
  rw [mapM_eq_error_iff]
  simp only [Role.parse_eq_ok_iff, Role.parse_eq_error_iff]

/-- Why a rule does not compile. -/
theorem compileRule_eq_error_iff : compileRule m rule = .error fault ↔ Offends m rule fault := by
  constructor
  · intro h
    unfold compileRule at h
    cases hpattern : m.compile rule.1 with
    | none =>
        have hfault : .pattern rule.1 = fault := by simpa [hpattern] using h
        rw [← hfault]
        exact .pattern hpattern
    | some pattern =>
        cases hroles : rule.2.mapM Role.parse with
        | ok roles => simp [hpattern, hroles] at h
        | error unknown =>
            have hfault : .role rule.1 unknown = fault := by simpa [hpattern, hroles] using h
            rcases mapM_parse_eq_error_iff.1 hroles with
              ⟨front, name, rest, hnames, hfront, hname, rfl⟩
            rw [← hfault]
            exact .role hpattern hnames hfront hname
  · intro h
    cases h with
    | pattern hpattern => simp only [compileRule, hpattern]
    | role hpattern hnames hfront hname =>
        have hroles := mapM_parse_eq_error_iff.2 ⟨_, _, _, hnames, hfront, hname, rfl⟩
        simp only [compileRule, hpattern, hroles]

/-- The rules that compile are the sound ones. -/
theorem exists_compileRule_iff :
    (∃ compiled, compileRule m rule = .ok compiled) ↔ Sound m rule := by
  simp only [compileRule_eq_ok_iff]
  constructor
  · rintro ⟨compiled, h⟩
    exact h.sound
  · intro h
    cases hcompiled : compileRule m rule with
    | ok compiled => exact ⟨compiled, compileRule_eq_ok_iff.1 hcompiled⟩
    | error fault => exact absurd h (compileRule_eq_error_iff.1 hcompiled).not_sound

/-! ## All rules -/

/-- Whether a fault is that of the first rule that is not sound. -/
def FirstFault (m : Matcher P) (rules : RoleRules) (fault : MappingFault) : Prop :=
  ∃ front rule rest, rules = front ++ rule :: rest ∧ (∀ other ∈ front, Sound m other) ∧
    Offends m rule fault

/-- Rules compile to the compiled forms of each of them, in their order. -/
theorem tryCompile_eq_ok_iff :
    tryCompile m rules = .ok mapping ↔ List.Forall₂ (Compiles m) rules mapping.rules := by
  have heach : List.Forall₂ (Compiles m) rules mapping.rules ↔
      rules.mapM (compileRule m) = .ok mapping.rules := by
    simp only [mapM_eq_ok_iff, compileRule_eq_ok_iff]
  rw [heach]
  constructor
  · exact mapM_of_tryCompile
  · intro h
    simp [tryCompile, h, Except.map]

/-- Rules do not compile because of the first of them that does not. -/
theorem tryCompile_eq_error_iff :
    tryCompile m rules = .error fault ↔ FirstFault m rules fault := by
  have hfirst : rules.mapM (compileRule m) = .error fault ↔ FirstFault m rules fault := by
    simp only [mapM_eq_error_iff, exists_compileRule_iff, compileRule_eq_error_iff, FirstFault]
  rw [← hfirst, tryCompile]
  cases rules.mapM (compileRule m) <;> simp [Except.map]

/-- Rules compile exactly if each of them is sound. -/
theorem exists_tryCompile_iff :
    (∃ mapping, tryCompile m rules = .ok mapping) ↔ ∀ rule ∈ rules, Sound m rule := by
  constructor
  · rintro ⟨mapping, hmapping⟩ rule hrule
    rcases exists_of_mapM_eq_ok (mapM_of_tryCompile hmapping) hrule with ⟨compiled, -, hcompiled⟩
    exact exists_compileRule_iff.1 ⟨compiled, hcompiled⟩
  · intro h
    cases hmapping : tryCompile m rules with
    | ok mapping => exact ⟨mapping, rfl⟩
    | error fault =>
        rcases tryCompile_eq_error_iff.1 hmapping with ⟨front, rule, rest, hsplit, -, hfault⟩
        have hmem : rule ∈ rules := hsplit ▸ List.mem_append_right _ List.mem_cons_self
        exact absurd (h rule hmem) hfault.not_sound

/-- The compiled rules have the patterns of the rules, in their order. -/
theorem texts_of_forall₂ {compiled : List (RoleRule P)}
    (h : List.Forall₂ (Compiles m) rules compiled) :
    compiled.map RoleRule.text = rules.map Prod.fst := by
  induction h with
  | nil => rfl
  | cons hfirst _ ih => rw [List.map_cons, List.map_cons, hfirst.text, ih]

/-- Rules that are used whether they compile or not are all there, or none is. -/
theorem compile_cases (m : Matcher P) (rules : RoleRules) :
    List.Forall₂ (Compiles m) rules (compile m rules).rules ∨
      (∃ fault, FirstFault m rules fault) ∧ compile m rules = empty := by
  unfold compile
  cases hmapping : tryCompile m rules with
  | ok mapping => exact .inl (tryCompile_eq_ok_iff.1 hmapping)
  | error fault => exact .inr ⟨⟨fault, tryCompile_eq_error_iff.1 hmapping⟩, rfl⟩

/-- A text that holds rules stands for what they compile to. -/
theorem ofText_of_decode {text : String} (h : RoleRules.decode text = .ok rules) :
    ofText m text = compile m rules := by
  rw [ofText, RoleRules.not_blank_of_decode h, h]
  rfl

/-- A text without rules stands for no rules. -/
theorem ofText_of_not_decode {text : String} (h : ∀ rules, RoleRules.decode text ≠ .ok rules) :
    ofText m text = empty := by
  unfold ofText
  cases hdecoded : RoleRules.decode text with
  | ok rules => exact absurd hdecoded (h rules)
  | error fault => simp

/-- Let patterns be of any language.  Rules compile exactly if each of them is sound.  Then there
is one compiled rule after the other, each with the pattern of its rule and with the roles that
the rule names and all below them; if the rules are in increasing order of their patterns, so are
the compiled ones.  Otherwise the fault is that of the first rule that is not sound: its pattern,
or else the first of its names that names no role.  Rules that are used whether they compile or
not, and rules that a text holds, in increasing order of their patterns, are all there or, if one
of them is not sound, none is; and a text that holds no rules stands for none. -/
theorem all_or_none (m : Matcher P) :
    (∀ rules : RoleRules,
      ((∃ mapping, tryCompile m rules = .ok mapping) ↔ ∀ rule ∈ rules, Sound m rule) ∧
      (∀ mapping, tryCompile m rules = .ok mapping ↔
        List.Forall₂ (Compiles m) rules mapping.rules) ∧
      (∀ mapping, tryCompile m rules = .ok mapping → Text.Ascending rules →
        (mapping.rules.map RoleRule.text).Pairwise (· < ·)) ∧
      (∀ fault, tryCompile m rules = .error fault ↔ FirstFault m rules fault) ∧
      (List.Forall₂ (Compiles m) rules (compile m rules).rules ∨
        (∃ fault, FirstFault m rules fault) ∧ compile m rules = empty)) ∧
    ∀ text,
      (∃ rules, RoleRules.decode text = .ok rules ∧ Text.Ascending rules ∧
        (List.Forall₂ (Compiles m) rules (ofText m text).rules ∨
          (∃ fault, FirstFault m rules fault) ∧ ofText m text = empty)) ∨
      (∀ rules, RoleRules.decode text ≠ .ok rules) ∧ ofText m text = empty := by
  refine ⟨fun rules => ⟨exists_tryCompile_iff, fun _ => tryCompile_eq_ok_iff, ?_,
    fun _ => tryCompile_eq_error_iff, compile_cases m rules⟩, fun text => ?_⟩
  · intro mapping hmapping hascending
    rw [texts_of_forall₂ (tryCompile_eq_ok_iff.1 hmapping)]
    exact List.pairwise_map.2 hascending
  · cases hdecoded : RoleRules.decode text with
    | ok rules =>
        refine .inl ⟨rules, rfl, RoleRules.ascending_of_decode hdecoded, ?_⟩
        rw [ofText_of_decode hdecoded]
        exact compile_cases m rules
    | error fault =>
        have hnone : ∀ rules, RoleRules.decode text ≠ .ok rules := by simp [hdecoded]
        exact .inr ⟨by simp, ofText_of_not_decode hnone⟩

/-! ### A rule in bad company -/

/-- A sound rule is lost with a rule that names an unknown role, and the fault is that of this
rule and not of a later one whose pattern is none. -/
theorem all_or_none_of_unknown_role :
    let rules : RoleRules := [("IMO", [" imo"]), ("OPS", ["VIEWER", "boss"]), ("[", [])]
    Sound Matcher.regular ("IMO", [" imo"]) ∧
      tryCompile Matcher.regular rules = .error (.role "OPS" ⟨"boss"⟩) ∧
      compile Matcher.regular rules = empty := by
  intro rules
  have himo : (Matcher.regular.compile "IMO").isSome = true := by decide +kernel
  have hops : (Matcher.regular.compile "OPS").isSome = true := by decide +kernel
  have hsound : Sound Matcher.regular ("IMO", [" imo"]) := by
    refine ⟨Option.isSome_iff_exists.1 himo, ?_⟩
    intro name hname
    rw [List.mem_singleton.1 hname]
    exact ⟨.imo, by decide⟩
  have hviewer : ∀ other ∈ ["VIEWER"], ∃ role, Role.Named other role := by
    intro other hother
    rw [List.mem_singleton.1 hother]
    exact ⟨.viewer, by decide⟩
  have hboss : ∀ role, ¬ Role.Named "boss" role := by
    intro role
    cases role <;> decide
  rcases Option.isSome_iff_exists.1 hops with ⟨pattern, hpattern⟩
  have hfirst : FirstFault Matcher.regular rules (.role "OPS" ⟨"boss"⟩) :=
    ⟨[("IMO", [" imo"])], ("OPS", ["VIEWER", "boss"]), [("[", [])], rfl,
      by simpa using hsound, .role hpattern rfl hviewer hboss⟩
  rcases (all_or_none Matcher.regular).1 rules with ⟨-, hok, -, herror, hused⟩
  have hfault := (herror _).2 hfirst
  refine ⟨hsound, hfault, hused.elim (fun hall => ?_) And.right⟩
  rw [(hok _).2 hall] at hfault
  exact nomatch hfault

end RoleMapping
end Gatehouse
