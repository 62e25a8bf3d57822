import Gatehouse.Proofs.Role.Permission
import Gatehouse.Proofs.Text.Trimming

/-!
# The operation that a group stands for

The group that admits to reading an operation is named by the code of the operation, an
underscore and a suffix.  Codes may hold underscores themselves, and may end like a suffix.  So
one name could stand for two operations, but only if one suffix ends in an underscore and
another suffix.

Main results:

- Theorem {lit}`Text.cut_cases`: how two cuts of one text at a separator differ.
- Theorem {lit}`Permissions.keepsApart_iff`: which suffixes let no group admit to two operations.
- Theorem {lit}`Permissions.reads_one_operation`: suffixes without underscores do.
-/

namespace Gatehouse

/-- If a text is cut at a separator in two ways, the part behind the first cut ends in the
separator and the part behind the other. -/
theorem Text.cut_cases {sep : Char} {front front' back back' : List Char}
    (h : front ++ sep :: back = front' ++ sep :: back') :
    front = front' ∨ (∃ own, back = own ++ sep :: back') ∨
      ∃ own, back' = own ++ sep :: back := by
  induction front generalizing front' with
  | nil =>
      cases front' with
      | nil => exact .inl rfl
      | cons c own =>
          rw [List.nil_append, List.cons_append, List.cons.injEq] at h
          exact .inr (.inl ⟨own, h.2⟩)
  | cons c front ih =>
      cases front' with
      | nil =>
          rw [List.nil_append, List.cons_append, List.cons.injEq] at h
          exact .inr (.inr ⟨front, h.2.symm⟩)
      | cons c' front' =>
          rw [List.cons_append, List.cons_append, List.cons.injEq] at h
          rcases h with ⟨rfl, h⟩
          exact (ih h).imp_left (congrArg (c :: ·))

/-- Whether no grant of a list is for the caller, on whatever operation. -/
def Identity.Ungranted (identity : Identity) (grants : List Grant) : Prop :=
  ∀ grant ∈ grants, Text.lower grant.upn ≠ Text.lower identity.upn

namespace Permissions

variable {rule : Permissions} {identity : Identity} {operation other group suffix longer : String}
  {grants : List Grant} {given : List String}

/-- Whether a caller who belongs to one group and has no grants may read one operation at
most. -/
def KeepsApart (rule : Permissions) : Prop :=
  ∀ (identity : Identity) (group : String), identity.groups = [group] →
    ∀ (operation other : String) (grants more : List Grant),
      identity.Ungranted grants → identity.Ungranted more →
      .viewer ∈ rule.effective identity operation grants →
      .viewer ∈ rule.effective identity other more → operation = other

/-- A caller with one group and no grants may read the operations that make the name of the
group with a suffix. -/
theorem viewer_mem_effective_iff (honly : identity.groups = [group])
    (hnone : identity.Ungranted grants) :
    .viewer ∈ rule.effective identity operation grants ↔
      ∃ suffix ∈ rule.suffixes, operation ++ "_" ++ suffix = group := by
  rw [mem_effective_iff]
  constructor
  · rintro (⟨-, suffix, hsuffix, hgroup⟩ | ⟨grant, hgrant, hfor, -⟩)
    · rw [honly, List.mem_singleton] at hgroup
      exact ⟨suffix, hsuffix, hgroup⟩
    · exact absurd hfor.2 (hnone grant hgrant)
  · rintro ⟨suffix, hsuffix, rfl⟩
    exact .inl ⟨rfl, suffix, hsuffix, honly ▸ List.mem_singleton_self _⟩

/-! ## Names that stand for two operations -/

/-- The characters of what is made of a text and a suffix with an underscore between them. -/
theorem toList_behind_underscore (front suffix : String) :
    (front ++ "_" ++ suffix).toList = front.toList ++ '_' :: suffix.toList := by
  rw [String.toList_append, String.toList_append, List.append_assoc]
  rfl

/-- A suffix is longer than another if it ends in an underscore and the other. -/
theorem exists_front_iff :
    (∃ front, longer = front ++ "_" ++ suffix) ↔
      ∃ own, longer.toList = own ++ '_' :: suffix.toList := by
  constructor
  · rintro ⟨front, rfl⟩
    exact ⟨front.toList, toList_behind_underscore front suffix⟩
  · rintro ⟨own, hown⟩
    refine ⟨String.ofList own, String.toList_inj.1 ?_⟩
    rw [hown, toList_behind_underscore, String.toList_ofList]

/-- If one name stands for two operations, one suffix ends in an underscore and the other. -/
theorem same_or_longer (hname : operation ++ "_" ++ suffix = other ++ "_" ++ longer) :
    operation = other ∨ (∃ front, suffix = front ++ "_" ++ longer) ∨
      ∃ front, longer = front ++ "_" ++ suffix := by
  have hchars := congrArg String.toList hname
  rw [toList_behind_underscore, toList_behind_underscore] at hchars
  rw [exists_front_iff, exists_front_iff]
  exact (Text.cut_cases hchars).imp_left String.toList_inj.1

/-- A group admits to one operation at most exactly if no suffix ends in an underscore and
another suffix. -/
theorem keepsApart_iff :
    rule.KeepsApart ↔
      ∀ suffix ∈ rule.suffixes, ∀ longer ∈ rule.suffixes, ∀ front,
        longer ≠ front ++ "_" ++ suffix := by
  constructor
  · rintro hapart suffix hsuffix longer hlonger front rfl
    -- the group of the code that is empty and the longer suffix is one of the shorter suffix, too
    let identity : Identity := ⟨"", none, ["" ++ "_" ++ (front ++ "_" ++ suffix)], .empty⟩
    have hnone : identity.Ungranted [] := fun _ hgrant => absurd hgrant List.not_mem_nil
    have hreads : .viewer ∈ rule.effective identity "" [] :=
      (viewer_mem_effective_iff rfl hnone).2 ⟨_, hlonger, rfl⟩
    have hreads' : .viewer ∈ rule.effective identity ("_" ++ front) [] := by
      refine (viewer_mem_effective_iff rfl hnone).2 ⟨suffix, hsuffix, ?_⟩
      simp only [String.empty_append, String.append_assoc]
    have hsame := hapart identity _ rfl _ _ [] [] hnone hnone hreads hreads'
    simpa using congrArg String.toList hsame
  · intro hsuffixes identity group honly operation other grants more hnone hnone' hreads hreads'
    rcases (viewer_mem_effective_iff honly hnone).1 hreads with ⟨suffix, hsuffix, hname⟩
    rcases (viewer_mem_effective_iff honly hnone').1 hreads' with ⟨suffix', hsuffix', hname'⟩
    rcases same_or_longer (hname.trans hname'.symm) with
      hsame | ⟨front, hlong⟩ | ⟨front, hlong⟩
    · exact hsame
    · exact absurd hlong (hsuffixes suffix' hsuffix' suffix hsuffix front)
    · exact absurd hlong (hsuffixes suffix hsuffix suffix' hsuffix' front)

/-! ## Suffixes without underscores -/

/-- Whether no suffix holds an underscore. -/
def Unbroken (suffixes : List String) : Prop := ∀ suffix ∈ suffixes, '_' ∉ suffix.toList

instance (suffixes : List String) : Decidable (Unbroken suffixes) :=
  inferInstanceAs (Decidable (∀ suffix ∈ suffixes, '_' ∉ suffix.toList))

/-- Suffixes without underscores let no group admit to two operations. -/
theorem Unbroken.keepsApart (h : Unbroken rule.suffixes) : rule.KeepsApart := by
  refine keepsApart_iff.2 ?_
  rintro suffix - longer hlonger front rfl
  apply h _ hlonger
  rw [toList_behind_underscore]
  exact List.mem_append_right _ List.mem_cons_self

theorem unbroken_defaultSuffixes : Unbroken defaultSuffixes := by
  decide

/-- The suffixes of a rule are those that it was made of, without the blanks around them, or the
default ones. -/
theorem Unbroken.ofSuffixes (h : Unbroken given) : Unbroken (ofSuffixes given).suffixes := by
  have htrimmed : Unbroken ((given.map Text.trim).filter (· ≠ "")) := by
    intro suffix hsuffix hunderscore
    rcases List.mem_map.1 (List.mem_filter.1 hsuffix).1 with ⟨whole, hwhole, rfl⟩
    rw [Text.trim, String.toList_ofList] at hunderscore
    exact h whole hwhole (Text.mem_of_mem_trimList hunderscore)
  unfold Permissions.ofSuffixes
  split
  · exact unbroken_defaultSuffixes
  · exact htrimmed

/-- The entries of a list without underscores have none. -/
theorem unbroken_splitOn {csv : String} (h : '_' ∉ csv.toList) :
    Unbroken (Text.splitOn ',' csv) := by
  intro part hpart hunderscore
  rcases List.mem_map.1 hpart with ⟨chars, hchars, rfl⟩
  rw [String.toList_ofList] at hunderscore
  exact h (Text.mem_of_mem_splitList hchars hunderscore)

/-- Let no suffix of a rule hold an underscore: it is the standard rule, or was made of suffixes
or of a list of suffixes without underscores, or has come about in any other way.  Then a caller
who belongs to a single group, whatever its name, and for whom there are no grants holds the
viewer role on one operation at most, whatever the codes of the operations.  Nothing less will do:
if there is a suffix that ends in an underscore and another suffix, some group admits to two
operations. -/
theorem reads_one_operation :
    (∀ rule : Permissions, Unbroken rule.suffixes → rule.KeepsApart) ∧
    (∀ given, Unbroken given → (ofSuffixes given).KeepsApart) ∧
    (∀ csv : String, '_' ∉ csv.toList → (ofCsv csv).KeepsApart) ∧
    standard.KeepsApart ∧
    ∀ rule : Permissions, (∃ suffix ∈ rule.suffixes, ∃ longer ∈ rule.suffixes, ∃ front,
      longer = front ++ "_" ++ suffix) → ¬ rule.KeepsApart := by
  refine ⟨fun rule h => h.keepsApart, fun given h => h.ofSuffixes.keepsApart,
    fun csv h => (unbroken_splitOn h).ofSuffixes.keepsApart,
    unbroken_defaultSuffixes.ofSuffixes.keepsApart, ?_⟩
  rintro rule ⟨suffix, hsuffix, longer, hlonger, front, hlong⟩ hapart
  exact keepsApart_iff.1 hapart suffix hsuffix longer hlonger front hlong

/-! ### A code that ends like a suffix -/

/-- The members of the group that admits to the operation whose code ends in the suffix of the
group may not read the operation whose code is shorter by that suffix. -/
theorem reads_one_operation_of_similar_codes :
    let identity : Identity := ⟨"ada@example.com", none, ["OP_1_READ_VIEW"], .empty⟩
    let grant : Grant := ⟨"bob@example.com", "OP_1", .admin⟩
    .viewer ∈ standard.effective identity "OP_1_READ" [grant] ∧
      .viewer ∉ standard.effective identity "OP_1" [grant] ∧
      .viewer ∉ (ofSuffixes [" VIEW ", ""]).effective identity "OP_1" [grant] := by
  intro identity grant
  rcases reads_one_operation with ⟨hunbroken, hgiven, -, -, -⟩
  have hnone : identity.Ungranted [grant] := by
    intro other hother
    rw [List.mem_singleton.1 hother]
    decide
  have hreads : .viewer ∈ standard.effective identity "OP_1_READ" [grant] :=
    (viewer_mem_effective_iff rfl hnone).2 ⟨"VIEW", by decide, by decide⟩
  have hreads' : .viewer ∈ (ofSuffixes [" VIEW ", ""]).effective identity "OP_1_READ" [grant] :=
    (viewer_mem_effective_iff rfl hnone).2 ⟨"VIEW", by decide, by decide⟩
  refine ⟨hreads, fun hother => ?_, fun hother => ?_⟩
  · have hapart : standard.KeepsApart := hunbroken standard (by decide)
    exact absurd (hapart identity _ rfl _ _ _ _ hnone hnone hreads hother) (by decide)
  · have hapart : (ofSuffixes [" VIEW ", ""]).KeepsApart := hgiven [" VIEW ", ""] (by decide)
    exact absurd (hapart identity _ rfl _ _ _ _ hnone hnone hreads' hother) (by decide)

end Permissions
end Gatehouse
