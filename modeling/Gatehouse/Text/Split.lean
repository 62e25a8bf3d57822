import Gatehouse.Text.Blank

/-!
# Splitting at a separator

Comma-separated lists, header values and tokens are cut at one separator
character.  Cutting never yields the empty list: a text without the separator is
its own single part.

Main results:

- Theorem {lit}`intercalate_splitOn`: joining the parts again gives the text.
-/

namespace Gatehouse
namespace Text

/-- The parts of a text between the separators, in order. -/
def splitList (sep : Char) : List Char → List (List Char)
  | [] => [[]]
  | c :: rest =>
      if c = sep then [] :: splitList sep rest
      else
        match splitList sep rest with
        | [] => [[c]]
        | part :: parts => (c :: part) :: parts

/-- The parts of a text between the separators, in order. -/
def splitOn (sep : Char) (s : String) : List String :=
  (splitList sep s.toList).map String.ofList

/-- The text before the first separator and the text after it. -/
def splitOnceList (sep : Char) : List Char → Option (List Char × List Char)
  | [] => none
  | c :: rest =>
      if c = sep then some ([], rest)
      else (splitOnceList sep rest).map fun (before, after) => (c :: before, after)

/-- The text before the first separator and the text after it. -/
def splitOnce (sep : Char) (s : String) : Option (String × String) :=
  (splitOnceList sep s.toList).map fun (before, after) =>
    (String.ofList before, String.ofList after)

/-- The trimmed entries of a comma-separated list that are not blank. -/
def commaList (s : String) : List String :=
  ((splitOn ',' s).map trim).filter (· ≠ "")

/-- A text has at least one part. -/
theorem splitList_ne_nil (sep : Char) (cs : List Char) : splitList sep cs ≠ [] := by
  cases cs with
  | nil => simp [splitList]
  | cons c rest =>
      simp only [splitList]
      split
      · simp
      · split <;> simp

/-- No part holds the separator. -/
theorem not_mem_of_mem_splitList {sep : Char} {cs part : List Char}
    (h : part ∈ splitList sep cs) : sep ∉ part := by
  induction cs generalizing part with
  | nil => simp_all [splitList]
  | cons c rest ih =>
      simp only [splitList] at h
      split at h
      · rcases List.mem_cons.mp h with rfl | h
        · simp
        · exact ih h
      · rename_i hc
        split at h
        · rename_i heq
          exact absurd heq (splitList_ne_nil sep rest)
        · rename_i head tail heq
          rcases List.mem_cons.mp h with rfl | h
          · have := @ih head (by simp [heq])
            simp [this, Ne.symm hc]
          · exact ih (by simp [heq, h])

/-- The characters of a part are characters of the text. -/
theorem mem_of_mem_splitList {sep c : Char} {cs part : List Char} (h : part ∈ splitList sep cs)
    (hc : c ∈ part) : c ∈ cs := by
  induction cs generalizing part with
  | nil => simp_all [splitList]
  | cons d rest ih =>
      simp only [splitList] at h
      split at h
      · rcases List.mem_cons.mp h with rfl | h
        · exact absurd hc List.not_mem_nil
        · exact List.mem_cons_of_mem d (ih h hc)
      · split at h
        · rename_i heq
          exact absurd heq (splitList_ne_nil sep rest)
        · rename_i head tail heq
          rcases List.mem_cons.mp h with rfl | h
          · rcases List.mem_cons.mp hc with rfl | hc
            · exact List.mem_cons_self
            · exact List.mem_cons_of_mem d (ih (by simp [heq]) hc)
          · exact List.mem_cons_of_mem d (ih (by simp [heq, h]) hc)

/-- Joining the parts with the separator gives the text back. -/
theorem intercalate_splitOn (sep : Char) (cs : List Char) :
    [sep].intercalate (splitList sep cs) = cs := by
  induction cs with
  | nil => simp [splitList]
  | cons c rest ih =>
      simp only [splitList]
      split
      · rename_i hc
        obtain ⟨part, parts, hparts⟩ := List.exists_cons_of_ne_nil (splitList_ne_nil sep rest)
        rw [hparts] at ih ⊢
        simp only [List.intercalate, List.intersperse_cons_cons, List.flatten_cons] at ih ⊢
        simp [hc, ih]
      · split
        · rename_i hnil
          exact absurd hnil (splitList_ne_nil sep rest)
        · rename_i part parts hparts
          rw [hparts] at ih
          cases parts with
          | nil => simpa [List.intercalate] using ih
          | cons next more => simpa [List.intercalate, List.intersperse_cons_cons] using ih

/-- A text without the separator is its own single part. -/
theorem splitList_of_not_mem {sep : Char} {part : List Char} (h : sep ∉ part) :
    splitList sep part = [part] := by
  induction part with
  | nil => rfl
  | cons c part ih =>
      simp only [List.mem_cons, not_or] at h
      simp [splitList, Ne.symm h.1, ih h.2]

/-- The parts of two texts with the separator between them. -/
theorem splitList_append_cons (sep : Char) (front back : List Char) :
    splitList sep (front ++ sep :: back) = splitList sep front ++ splitList sep back := by
  induction front with
  | nil => simp [splitList]
  | cons c front ih =>
      rw [List.cons_append, splitList, splitList]
      split
      · rw [ih, List.cons_append]
      · rw [ih]
        obtain ⟨part, parts, hparts⟩ := List.exists_cons_of_ne_nil (splitList_ne_nil sep front)
        rw [hparts]
        rfl

/-- Texts without the separator are the parts of what they make when they are joined by it. -/
theorem splitList_intercalate {sep : Char} {parts : List (List Char)} (hne : parts ≠ [])
    (hparts : ∀ part ∈ parts, sep ∉ part) : splitList sep ([sep].intercalate parts) = parts := by
  induction parts with
  | nil => exact absurd rfl hne
  | cons part parts ih =>
      rcases List.forall_mem_cons.1 hparts with ⟨hpart, hrest⟩
      cases parts with
      | nil => rw [List.intercalate_singleton, splitList_of_not_mem hpart]
      | cons next more =>
          rw [List.intercalate_cons_cons, List.append_assoc, List.singleton_append,
            splitList_append_cons, splitList_of_not_mem hpart, ih (List.cons_ne_nil _ _) hrest,
            List.singleton_append]

/-- A text without the separator is not cut. -/
theorem splitOnceList_of_not_mem {sep : Char} {cs : List Char} (h : sep ∉ cs) :
    splitOnceList sep cs = none := by
  induction cs with
  | nil => rfl
  | cons c cs ih =>
      simp only [List.mem_cons, not_or] at h
      simp [splitOnceList, Ne.symm h.1, ih h.2]

/-- A text is cut at the first separator. -/
theorem splitOnceList_append {sep : Char} {before : List Char} (h : sep ∉ before)
    (after : List Char) : splitOnceList sep (before ++ sep :: after) = some (before, after) := by
  induction before with
  | nil => simp [splitOnceList]
  | cons c before ih =>
      simp only [List.mem_cons, not_or] at h
      simp [splitOnceList, Ne.symm h.1, ih h.2]

/-- A text without the separator is all in front of it. -/
theorem takeWhile_of_not_mem {sep : Char} {cs : List Char} (h : sep ∉ cs) :
    cs.takeWhile (· ≠ sep) = cs := by
  induction cs with
  | nil => rfl
  | cons c cs ih =>
      simp only [List.mem_cons, not_or] at h
      rw [List.takeWhile_cons, if_pos (by simpa using Ne.symm h.1), ih h.2]

/-- What is in front of the first separator. -/
theorem takeWhile_append {sep : Char} {before : List Char} (h : sep ∉ before)
    (after : List Char) : (before ++ sep :: after).takeWhile (· ≠ sep) = before := by
  induction before with
  | nil => simp
  | cons c before ih =>
      simp only [List.mem_cons, not_or] at h
      rw [List.cons_append, List.takeWhile_cons, if_pos (by simpa using Ne.symm h.1), ih h.2]

end Text
end Gatehouse
