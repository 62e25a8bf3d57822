import Mathlib.Data.List.Forall2
import Gatehouse.Proofs.Role.Permission
import Gatehouse.Role.Mapping
import Gatehouse.Token.Verifier

/-!
# Which roles the groups of a caller give

A rule gives the roles that it lists, and every role below them, to each group that its pattern
matches.  The roles of some groups are all that any rule gives to any of them.  So they depend
only on which groups and which rules there are: order and repetition make no difference, and
groups taken together have the roles that they have apart.

Main results:

- Theorem {lit}`Text.pairwise_sortedDistinct`: the groups of a caller are increasing, so that
  each is there once.
- Theorem {lit}`mapM_eq_ok_iff`: a list is worked through exactly if each of its members is.
- Theorem {lit}`RoleMapping.resolve_exact`: which roles some groups have, and what they depend
  on.
-/

namespace Gatehouse

/-! ## Sorted texts -/

namespace Text

/-- Inserting a text keeps a list strictly increasing. -/
theorem pairwise_insertSorted {s : String} {texts : List String}
    (h : texts.Pairwise (· < ·)) : (insertSorted s texts).Pairwise (· < ·) := by
  induction texts with
  | nil => exact List.pairwise_singleton _ _
  | cons first rest ih =>
      have habove : ∀ t ∈ rest, first < t := (List.pairwise_cons.1 h).1
      have hrest : rest.Pairwise (· < ·) := (List.pairwise_cons.1 h).2
      unfold insertSorted
      by_cases hsame : s = first
      · rw [if_pos hsame]
        exact h
      · rw [if_neg hsame]
        by_cases hbelow : s < first
        · rw [if_pos hbelow]
          refine List.pairwise_cons.2 ⟨?_, h⟩
          intro t ht
          rcases List.mem_cons.1 ht with rfl | ht
          · exact hbelow
          · exact String.lt_trans hbelow (habove t ht)
        · rw [if_neg hbelow]
          have hle : first ≤ s := String.not_lt.1 hbelow
          have hfirst : first < s := Std.lt_of_le_of_ne hle (Ne.symm hsame)
          refine List.pairwise_cons.2 ⟨?_, ih hrest⟩
          intro t ht
          rcases mem_insertSorted.1 ht with rfl | ht
          · exact hfirst
          · exact habove t ht

/-- The distinct texts of a list are strictly increasing. -/
theorem pairwise_sortedDistinct (texts : List String) :
    (sortedDistinct texts).Pairwise (· < ·) := by
  unfold sortedDistinct
  refine List.foldlRecOn texts _ List.Pairwise.nil ?_
  intro sorted hsorted s _
  exact pairwise_insertSorted hsorted

end Text

/-! ## Lists that are worked through -/

section

variable {α β ε : Type} {f : α → Except ε β} {xs : List α} {ys : List β} {e : ε}

/-- Working through a list gives one result after the other, as long as each of its members has
one. -/
theorem mapM_eq_ok_iff :
    xs.mapM f = .ok ys ↔ List.Forall₂ (fun x y => f x = .ok y) xs ys := by
  induction xs generalizing ys with
  | nil =>
      rw [List.mapM_nil, List.forall₂_nil_left_iff]
      constructor
      · rintro ⟨⟩
        rfl
      · rintro rfl
        rfl
  | cons x xs ih =>
      rw [List.mapM_cons]
      constructor
      · intro h
        cases hx : f x with
        | error e => simp [hx, bind, Except.bind] at h
        | ok y =>
            cases hxs : xs.mapM f with
            | error e => simp [hx, hxs, bind, Except.bind] at h
            | ok rest =>
                have hys : y :: rest = ys := by
                  simpa [hx, hxs, bind, Except.bind, pure, Except.pure] using h
                rw [← hys]
                exact .cons hx (ih.1 hxs)
      · intro h
        cases h with
        | cons hx hrest => simp [hx, ih.2 hrest, bind, Except.bind, pure, Except.pure]

/-- The first member of a list with a certain property is its head, or the head is passed over. -/
theorem exists_first_cons_iff {P Q : α → Prop} {x : α} :
    (∃ front y rest, x :: xs = front ++ y :: rest ∧ (∀ z ∈ front, P z) ∧ Q y) ↔
      Q x ∨ P x ∧ ∃ front y rest, xs = front ++ y :: rest ∧ (∀ z ∈ front, P z) ∧ Q y := by
  constructor
  · rintro ⟨front, y, rest, hsplit, hfront, hy⟩
    cases front with
    | nil =>
        rw [List.nil_append, List.cons.injEq] at hsplit
        exact .inl (hsplit.1 ▸ hy)
    | cons first front =>
        rw [List.cons_append, List.cons.injEq] at hsplit
        rcases List.forall_mem_cons.1 hfront with ⟨hfirst, hfront⟩
        exact .inr ⟨hsplit.1 ▸ hfirst, front, y, rest, hsplit.2, hfront, hy⟩
  · rintro (hx | ⟨hx, front, y, rest, rfl, hfront, hy⟩)
    · exact ⟨[], x, xs, rfl, fun _ h => absurd h List.not_mem_nil, hx⟩
    · exact ⟨x :: front, y, rest, rfl, List.forall_mem_cons.2 ⟨hx, hfront⟩, hy⟩

/-- Working through a list fails with the fault of the first member that has no result. -/
theorem mapM_eq_error_iff :
    xs.mapM f = .error e ↔
      ∃ front x rest, xs = front ++ x :: rest ∧ (∀ y ∈ front, ∃ z, f y = .ok z) ∧
        f x = .error e := by
  induction xs with
  | nil => simp [pure, Except.pure]
  | cons x xs ih =>
      rw [List.mapM_cons, exists_first_cons_iff, ← ih]
      cases hx : f x with
      | error fault => simp [bind, Except.bind]
      | ok y => cases hxs : xs.mapM f <;> simp [bind, Except.bind, pure, Except.pure]

/-- A list can be worked through if each of its members has a result. -/
theorem exists_mapM_eq_ok (h : ∀ x ∈ xs, ∃ y, f x = .ok y) : ∃ ys, xs.mapM f = .ok ys := by
  induction xs with
  | nil => exact ⟨[], rfl⟩
  | cons x xs ih =>
      rcases h x List.mem_cons_self with ⟨y, hy⟩
      rcases ih fun x hx => h x (List.mem_cons_of_mem _ hx) with ⟨ys, hys⟩
      exact ⟨y :: ys, mapM_eq_ok_iff.2 (.cons hy (mapM_eq_ok_iff.1 hys))⟩

/-- The results are those of the members of the list. -/
theorem mem_of_mapM_eq_ok (h : xs.mapM f = .ok ys) {y : β} :
    y ∈ ys ↔ ∃ x ∈ xs, f x = .ok y := by
  have hpairs : List.Forall₂ (fun x y => f x = .ok y) xs ys := mapM_eq_ok_iff.1 h
  clear h
  induction hpairs with
  | nil => simp
  | @cons x other xs ys hx _ ih =>
      have hother : y = other ↔ f x = .ok y := by
        rw [hx, Except.ok.injEq]
        exact eq_comm
      rw [List.mem_cons, List.exists_mem_cons_iff]
      exact or_congr hother ih

/-- Each member of a list that is worked through has a result. -/
theorem exists_of_mapM_eq_ok (h : xs.mapM f = .ok ys) {x : α} (hx : x ∈ xs) :
    ∃ y ∈ ys, f x = .ok y := by
  have hpairs : List.Forall₂ (fun x y => f x = .ok y) xs ys := mapM_eq_ok_iff.1 h
  clear h
  induction hpairs with
  | nil => simp at hx
  | @cons first y xs ys hfirst _ ih =>
      rcases List.mem_cons.1 hx with rfl | hrest
      · exact ⟨y, List.mem_cons_self, hfirst⟩
      · rcases ih hrest with ⟨other, hother, hresult⟩
        exact ⟨other, List.mem_cons_of_mem _ hother, hresult⟩

end

/-! ## What a rule gives -/

namespace RoleMapping

variable {P : Type} {m : Matcher P} {rule : String × List String} {rules same : RoleRules}
  {mapping : RoleMapping P} {group : String} {groups : List String} {r : Role}

/-- Whether a rule gives a role to a group: its pattern matches the group, and one of its names
is that of a role at or above. -/
def Gives (m : Matcher P) (rule : String × List String) (group : String) (r : Role) : Prop :=
  (∃ pattern, m.compile rule.1 = some pattern ∧ m.accepts pattern group = true) ∧
    ∃ name ∈ rule.2, ∃ role, Role.parse name = .ok role ∧ r ≤ role

/-- The roles of some names are those that they are read as, with all below them. -/
theorem mem_ofList_of_mapM {names : List String} {roles : List Role}
    (h : names.mapM Role.parse = .ok roles) :
    r ∈ RoleSet.ofList roles ↔ ∃ name ∈ names, ∃ role, Role.parse name = .ok role ∧ r ≤ role := by
  rw [RoleSet.mem_ofList]
  constructor
  · rintro ⟨role, hrole, hle⟩
    rcases (mem_of_mapM_eq_ok h).1 hrole with ⟨name, hname, hparse⟩
    exact ⟨name, hname, role, hparse, hle⟩
  · rintro ⟨name, hname, role, hparse, hle⟩
    exact ⟨role, (mem_of_mapM_eq_ok h).2 ⟨name, hname, hparse⟩, hle⟩

/-- A rule that compiles gives what its compiled form does. -/
theorem gives_iff_of_compileRule {compiled : RoleRule P}
    (h : compileRule m rule = .ok compiled) :
    Gives m rule group r ↔ m.accepts compiled.pattern group = true ∧ r ∈ compiled.roles := by
  unfold compileRule at h
  cases hpattern : m.compile rule.1 with
  | none => simp [hpattern] at h
  | some pattern =>
      cases hroles : rule.2.mapM Role.parse with
      | error unknown => simp [hpattern, hroles] at h
      | ok roles =>
          have hcompiled : ⟨rule.1, pattern, RoleSet.ofList roles⟩ = compiled := by
            simpa [hpattern, hroles] using h
          rw [← hcompiled, Gives, mem_ofList_of_mapM hroles, hpattern]
          simp

/-- Rules compile to the compiled forms of each of them. -/
theorem mapM_of_tryCompile (h : tryCompile m rules = .ok mapping) :
    rules.mapM (compileRule m) = .ok mapping.rules := by
  unfold tryCompile at h
  cases hrules : rules.mapM (compileRule m) with
  | error fault => simp [hrules, Except.map] at h
  | ok compiled =>
      have hmapping : ⟨compiled⟩ = mapping := by simpa [hrules, Except.map] using h
      rw [← hmapping]

/-- Rules that are among others which compile do so as well. -/
theorem exists_tryCompile_of_subset (h : tryCompile m rules = .ok mapping)
    (hsubset : same ⊆ rules) : ∃ mapping', tryCompile m same = .ok mapping' := by
  have hrules : rules.mapM (compileRule m) = .ok mapping.rules := mapM_of_tryCompile h
  have heach : ∀ rule ∈ same, ∃ compiled, compileRule m rule = .ok compiled := by
    intro rule hrule
    rcases exists_of_mapM_eq_ok hrules (hsubset hrule) with ⟨compiled, -, hcompiled⟩
    exact ⟨compiled, hcompiled⟩
  rcases exists_mapM_eq_ok heach with ⟨compiled, hcompiled⟩
  exact ⟨⟨compiled⟩, by simp [tryCompile, hcompiled, Except.map]⟩

/-! ## What some groups have -/

/-- Some groups have the roles that some rule gives to one of them. -/
theorem mem_resolve_iff_gives (h : tryCompile m rules = .ok mapping) :
    r ∈ mapping.resolve m groups ↔ ∃ group ∈ groups, ∃ rule ∈ rules, Gives m rule group r := by
  have hrules : rules.mapM (compileRule m) = .ok mapping.rules := mapM_of_tryCompile h
  rw [mem_resolve]
  constructor
  · rintro ⟨group, hgroup, compiled, hmem, hgives⟩
    rcases (mem_of_mapM_eq_ok hrules).1 hmem with ⟨rule, hrule, hcompiled⟩
    exact ⟨group, hgroup, rule, hrule, (gives_iff_of_compileRule hcompiled).2 hgives⟩
  · rintro ⟨group, hgroup, rule, hrule, hgives⟩
    rcases exists_of_mapM_eq_ok hrules hrule with ⟨compiled, hmem, hcompiled⟩
    exact ⟨group, hgroup, compiled, hmem, (gives_iff_of_compileRule hcompiled).1 hgives⟩

/-- The roles of some groups are in order. -/
theorem resolve_inOrder (mapping : RoleMapping P) (groups : List String) :
    (mapping.resolve m groups).InOrder := by
  unfold resolve
  refine List.foldlRecOn groups _ RoleSet.inOrder_empty ?_
  intro roles hroles group _
  refine List.foldlRecOn mapping.rules _ hroles ?_
  intro roles hroles rule _
  by_cases haccepts : m.accepts rule.pattern group = true
  · rw [if_pos haccepts]
    exact RoleSet.inOrder_ofTest _
  · rw [if_neg haccepts]
    exact hroles

/-- Groups taken together have the roles that they have apart. -/
theorem resolve_append (mapping : RoleMapping P) (a b : List String) :
    mapping.resolve m (a ++ b) = (mapping.resolve m a).union (mapping.resolve m b) := by
  apply RoleSet.InOrder.eq_of_mem_iff
  · exact resolve_inOrder mapping (a ++ b)
  · exact RoleSet.inOrder_ofTest _
  · intro role
    rw [RoleSet.mem_union, mem_resolve, mem_resolve, mem_resolve]
    simp only [List.mem_append, or_and_right, exists_or]

/-- The same groups have the same roles. -/
theorem resolve_congr (mapping : RoleMapping P) {a b : List String}
    (hsame : ∀ group, group ∈ a ↔ group ∈ b) : mapping.resolve m a = mapping.resolve m b := by
  apply RoleSet.InOrder.eq_of_mem_iff
  · exact resolve_inOrder mapping a
  · exact resolve_inOrder mapping b
  · intro role
    simp only [mem_resolve, hsame]

/-- Let rules compile.  Some groups have a role exactly if the pattern of some rule matches one of
the groups and the rule lists a role at or above.  So groups taken together have the roles that
they have apart, and neither their order nor their repetition makes a difference.  The same rules
in another order, or given repeatedly, compile as well and give the same roles to any groups.  The
groups of a caller are those of the claims, in increasing order and each once, and the caller's
roles are those of these groups. -/
theorem resolve_exact (hcompiled : tryCompile m rules = .ok mapping) :
    (∀ groups r, r ∈ mapping.resolve m groups ↔
      ∃ group ∈ groups, ∃ rule ∈ rules, Gives m rule group r) ∧
    (∀ a b, mapping.resolve m (a ++ b) = (mapping.resolve m a).union (mapping.resolve m b)) ∧
    (∀ a b, (∀ group, group ∈ a ↔ group ∈ b) → mapping.resolve m a = mapping.resolve m b) ∧
    (∀ same : RoleRules, (∀ rule, rule ∈ rules ↔ rule ∈ same) →
      ∃ mapping', tryCompile m same = .ok mapping' ∧
        ∀ groups, mapping'.resolve m groups = mapping.resolve m groups) ∧
    ∀ claims,
      (Identity.ofClaims m mapping claims).groups.Pairwise (· < ·) ∧
      (∀ group, group ∈ (Identity.ofClaims m mapping claims).groups ↔ group ∈ claims.groups) ∧
      (Identity.ofClaims m mapping claims).roles =
        mapping.resolve m (Identity.ofClaims m mapping claims).groups := by
  refine ⟨fun groups r => mem_resolve_iff_gives hcompiled, resolve_append mapping,
    fun a b => resolve_congr mapping, ?_, ?_⟩
  · intro same hsame
    have hsubset : same ⊆ rules := fun rule hrule => (hsame rule).2 hrule
    rcases exists_tryCompile_of_subset hcompiled hsubset with ⟨mapping', hcompiled'⟩
    refine ⟨mapping', hcompiled', ?_⟩
    intro groups
    apply RoleSet.InOrder.eq_of_mem_iff
    · exact resolve_inOrder mapping' groups
    · exact resolve_inOrder mapping groups
    · intro role
      rw [mem_resolve_iff_gives hcompiled', mem_resolve_iff_gives hcompiled]
      simp only [hsame]
  · intro claims
    have hgroups : ∀ group, group ∈ Text.sortedDistinct claims.groups ↔ group ∈ claims.groups :=
      fun group => Text.mem_sortedDistinct
    refine ⟨Text.pairwise_sortedDistinct claims.groups, hgroups, ?_⟩
    exact resolve_congr mapping fun group => (hgroups group).symm

/-! ### An officer on duty -/

/-- A group whose name holds a pattern has the role of its rule and those below, whatever stands
before it and however often. -/
theorem resolve_exact_of_officer :
    let rules : RoleRules := [("IMO", [" imo"]), ("^OPS_", ["VIEWER"])]
    ∃ mapping, tryCompile Matcher.regular rules = .ok mapping ∧
      .editor ∈ mapping.resolve Matcher.regular ["OPS_1", "TEAM_IMO"] ∧
      mapping.resolve Matcher.regular ["TEAM_IMO", "OPS_1", "TEAM_IMO"] =
        mapping.resolve Matcher.regular ["OPS_1", "TEAM_IMO"] := by
  intro rules
  have hcompiles : (tryCompile Matcher.regular rules).isOk = true := by decide +kernel
  have hmatches : (Matcher.regular.compile "IMO").any
      (fun pattern => Matcher.regular.accepts pattern "TEAM_IMO") = true := by decide +kernel
  cases hcompiled : tryCompile Matcher.regular rules with
  | error fault => simp [hcompiled, Except.isOk, Except.toBool] at hcompiles
  | ok mapping =>
      rcases resolve_exact hcompiled with ⟨hroles, -, hgroups, -, -⟩
      have hcovers : ∃ pattern, Matcher.regular.compile "IMO" = some pattern ∧
          Matcher.regular.accepts pattern "TEAM_IMO" = true :=
        (Option.any_eq_true _ _).1 hmatches
      have hgives : Gives Matcher.regular ("IMO", [" imo"]) "TEAM_IMO" .editor :=
        ⟨hcovers, " imo", by simp, .imo, rfl, by decide⟩
      refine ⟨mapping, rfl, ?_, ?_⟩
      · exact (hroles _ _).2 ⟨"TEAM_IMO", by simp, ("IMO", [" imo"]), by simp [rules], hgives⟩
      · apply hgroups
        intro group
        simp only [List.mem_cons, List.not_mem_nil, or_false]
        tauto

end RoleMapping
end Gatehouse
