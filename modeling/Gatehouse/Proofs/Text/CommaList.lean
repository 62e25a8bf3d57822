import Gatehouse.Proofs.Text.Trimming
import Gatehouse.Text.Split

/-!
# What a comma-separated list holds

The commas of a list cut it into parts.  A part of blanks holds nothing, and any other part holds
one entry, which is what the blanks around it leave.  Many lists hold the same entries, and one of
them is made of the entries with commas between them.

Main results:

- Theorem {lit}`splitOn_comma_iff`: which parts a list has.
- Theorem {lit}`commaList_eq_iff`: which entries a list holds.
- Theorem {lit}`commaList_intercalate`: entries are read back from the list that is made of them.
-/

namespace Gatehouse
namespace Text

variable {csv entry : String} {parts entries : List String}

/-! ## Parts -/

/-- The parts of a list are texts without commas that make it when they are joined by commas. -/
theorem splitOn_comma_iff :
    splitOn ',' csv = parts ↔
      parts ≠ [] ∧ (∀ part ∈ parts, ',' ∉ part.toList) ∧ ",".intercalate parts = csv := by
  have htoList : String.toList ∘ String.ofList = id := funext fun _ => String.toList_ofList
  have hofList : String.ofList ∘ String.toList = id := funext fun _ => String.ofList_toList
  constructor
  · rintro rfl
    refine ⟨?_, ?_, ?_⟩
    · intro hnone
      exact splitList_ne_nil ',' csv.toList (List.map_eq_nil_iff.1 hnone)
    · intro part hpart
      rcases List.mem_map.1 hpart with ⟨chars, hchars, rfl⟩
      rw [String.toList_ofList]
      exact not_mem_of_mem_splitList hchars
    · apply String.toList_inj.1
      rw [String.toList_intercalate, splitOn, List.map_map, htoList, List.map_id]
      exact intercalate_splitOn ',' csv.toList
  · rintro ⟨hne, hparts, rfl⟩
    have hplain : ∀ chars ∈ parts.map String.toList, ',' ∉ chars := List.forall_mem_map.2 hparts
    have hcut := splitList_intercalate (mt List.map_eq_nil_iff.1 hne) hplain
    calc
      splitOn ',' (",".intercalate parts) =
          (splitList ',' ([','].intercalate (parts.map String.toList))).map String.ofList := by
        rw [splitOn, String.toList_intercalate]
        rfl
      _ = parts := by rw [hcut, List.map_map, hofList, List.map_id]

/-! ## Entries -/

/-- What the parts of a list hold. -/
inductive Contents : List String → List String → Prop
  | nil : Contents [] []
  /-- A part of blanks holds nothing. -/
  | blank {part : String} {parts entries : List String} (hpart : isBlankText part = true)
      (h : Contents parts entries) : Contents (part :: parts) entries
  /-- Any other part holds what is between the blanks at its ends. -/
  | entry {part entry : String} {parts entries : List String} (hpart : Surrounds part entry)
      (hne : entry ≠ "") (h : Contents parts entries) : Contents (part :: parts) (entry :: entries)

/-- The parts of a list hold what trimming leaves of them, as far as anything is left. -/
theorem contents_iff : Contents parts entries ↔ (parts.map trim).filter (· ≠ "") = entries := by
  constructor
  · intro h
    induction h with
    | nil => rfl
    | blank hpart _ ih =>
        rw [List.map_cons, List.filter_cons_of_neg (by simpa using trim_eq_empty_iff.2 hpart), ih]
    | entry hpart hne _ ih =>
        rw [List.map_cons, trim_eq_iff.2 hpart, List.filter_cons_of_pos (by simpa using hne), ih]
  · rintro rfl
    induction parts with
    | nil => exact .nil
    | cons part parts ih =>
        by_cases hpart : trim part = ""
        · rw [List.map_cons, List.filter_cons_of_neg (by simpa using hpart)]
          exact .blank (trim_eq_empty_iff.1 hpart) ih
        · rw [List.map_cons, List.filter_cons_of_pos (by simpa using hpart)]
          exact .entry (trim_eq_iff.1 rfl) hpart ih

/-- Whether a comma-separated list holds the entries: they are the contents of the parts between
its commas. -/
def Lists (csv : String) (entries : List String) : Prop :=
  ∃ parts, parts ≠ [] ∧ (∀ part ∈ parts, ',' ∉ part.toList) ∧ ",".intercalate parts = csv ∧
    Contents parts entries

/-- A list holds the entries that are read from it. -/
theorem lists_commaList (csv : String) : Lists csv (commaList csv) := by
  rcases splitOn_comma_iff.1 (Eq.refl (splitOn ',' csv)) with ⟨hne, hparts, hjoined⟩
  exact ⟨splitOn ',' csv, hne, hparts, hjoined, contents_iff.2 rfl⟩

/-- The entries that are read from a list are those that it holds, and it holds no others. -/
theorem commaList_eq_iff : commaList csv = entries ↔ Lists csv entries := by
  constructor
  · rintro rfl
    exact lists_commaList csv
  · rintro ⟨parts, hne, hparts, hjoined, hcontents⟩
    rw [commaList, splitOn_comma_iff.2 ⟨hne, hparts, hjoined⟩]
    exact contents_iff.1 hcontents

/-! ## Lists that are made of entries -/

/-- Whether a text can be an entry of a list: it is not empty, has no blanks at its ends and no
commas. -/
structure IsEntry (text : String) : Prop where
  ne_empty : text ≠ ""
  trimmed : Trimmed text.toList
  plain : ',' ∉ text.toList

/-- What parts without commas hold can be entries of a list. -/
theorem Contents.isEntry (h : Contents parts entries) (hparts : ∀ part ∈ parts, ',' ∉ part.toList) :
    ∀ entry ∈ entries, IsEntry entry := by
  induction h with
  | nil => simp
  | blank _ _ ih => exact ih (List.forall_mem_cons.1 hparts).2
  | entry hpart hne _ ih =>
      rcases List.forall_mem_cons.1 hparts with ⟨hplain, hrest⟩
      rcases hpart with ⟨htrimmed, front, back, -, -, rfl⟩
      refine List.forall_mem_cons.2 ⟨⟨hne, htrimmed, fun hcomma => hplain ?_⟩, ih hrest⟩
      rw [String.toList_append, String.toList_append]
      exact List.mem_append_left _ (List.mem_append_right _ hcomma)

/-- What is read from a list can be entries of a list. -/
theorem isEntry_of_mem_commaList (h : entry ∈ commaList csv) : IsEntry entry := by
  rcases lists_commaList csv with ⟨parts, -, hparts, -, hcontents⟩
  exact hcontents.isEntry hparts entry h

/-- Entries that are the parts of a list are its contents. -/
theorem contents_self (h : ∀ entry ∈ entries, IsEntry entry) : Contents entries entries := by
  induction entries with
  | nil => exact .nil
  | cons entry entries ih =>
      rcases List.forall_mem_cons.1 h with ⟨hentry, hrest⟩
      refine .entry ⟨hentry.trimmed, "", "", rfl, rfl, ?_⟩ hentry.ne_empty (ih hrest)
      rw [String.empty_append, String.append_empty]

/-- Entries stay as they are when they are trimmed again, and none of them is left out. -/
theorem filter_map_trim (h : ∀ entry ∈ entries, IsEntry entry) :
    (entries.map trim).filter (· ≠ "") = entries :=
  contents_iff.1 (contents_self h)

/-- Entries with commas between them are a list that holds them. -/
theorem lists_intercalate (h : ∀ entry ∈ entries, IsEntry entry) :
    Lists (",".intercalate entries) entries := by
  by_cases hnone : entries = []
  · -- the list without entries is empty, and not a list without parts
    subst hnone
    exact ⟨[""], List.cons_ne_nil _ _, by simp, rfl, .blank rfl .nil⟩
  · exact ⟨entries, hnone, fun entry hentry => (h entry hentry).plain, rfl, contents_self h⟩

/-- Entries are read back from the list that is made of them. -/
theorem commaList_intercalate (h : ∀ entry ∈ entries, IsEntry entry) :
    commaList (",".intercalate entries) = entries :=
  commaList_eq_iff.2 (lists_intercalate h)

/-- A blank list has no entries. -/
theorem lists_of_blank (h : isBlankText csv = true) : Lists csv [] := by
  refine ⟨[csv], List.cons_ne_nil _ _, ?_, String.intercalate_singleton, .blank h .nil⟩
  intro part hpart hcomma
  rw [List.mem_singleton.1 hpart] at hcomma
  exact absurd (isBlankText_iff.1 h ',' hcomma) (by decide)

end Text
end Gatehouse
