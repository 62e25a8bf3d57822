import Mathlib.Data.List.TakeWhile
import Gatehouse.Text.Blank

/-!
# What trimming leaves

Trimming a text takes blank characters from its ends and nothing else.  So a text of which
something is left has a character that is not blank, and the other way round.

Main results:

- Theorem {lit}`trimList_eq_nil_iff`: of which texts nothing is left.
- Theorem {lit}`trim_of_no_blanks`: a text without blanks stays as it is.
- Theorem {lit}`trim_between`: blanks around a text without blanks are all that is taken.
- Theorem {lit}`trim_eq_iff`: what is left of a text.
-/

namespace Gatehouse
namespace Text

variable {cs : List Char} {c : Char} {s text inner : String}

/-- Nothing is left of a text exactly if all of its characters are blank. -/
theorem trimList_eq_nil_iff : trimList cs = [] ↔ ∀ c ∈ cs, isBlank c = true := by
  have hend : trimList cs = [] ↔ ∀ c ∈ cs.dropWhile isBlank, isBlank c = true := by
    unfold trimList trimEndList trimStartList
    rw [List.reverse_eq_nil_iff, List.dropWhile_eq_nil_iff]
    simp only [List.mem_reverse]
  rw [hend]
  constructor
  · intro h c hc
    have hparts : cs.takeWhile isBlank ++ cs.dropWhile isBlank = cs :=
      List.takeWhile_append_dropWhile
    rw [← hparts, List.mem_append] at hc
    rcases hc with hfront | hback
    · exact List.mem_takeWhile_imp hfront
    · exact h c hback
  · intro h c hc
    exact h c ((List.dropWhile_sublist _).subset hc)

/-- What is left of a text is part of it. -/
theorem mem_of_mem_trimList (h : c ∈ trimList cs) : c ∈ cs := by
  unfold trimList trimEndList trimStartList at h
  rw [List.mem_reverse] at h
  have hend : c ∈ cs.dropWhile isBlank :=
    List.mem_reverse.1 ((List.dropWhile_sublist _).subset h)
  exact (List.dropWhile_sublist _).subset hend

/-- Nothing is left of a text exactly if it is blank. -/
theorem isEmpty_trim_iff : (trim s).isEmpty = true ↔ ∀ c ∈ s.toList, isBlank c = true := by
  rw [String.isEmpty_iff, trim, String.ofList_eq_empty_iff, trimList_eq_nil_iff]

/-- Characters that are not blank have none at their ends. -/
theorem trimmed_of_no_blanks (h : ∀ c ∈ cs, isBlank c = false) : Trimmed cs :=
  ⟨fun c hc => h c (List.mem_of_mem_head? hc), fun c hc => h c (List.mem_of_mem_getLast? hc)⟩

/-- A text without blanks stays as it is. -/
theorem trim_of_no_blanks (h : ∀ c ∈ s.toList, isBlank c = false) : trim s = s := by
  rw [trim, trimList_of_trimmed (trimmed_of_no_blanks h), String.ofList_toList]

/-- Blanks around a text that is not blank at its ends are all that is taken from it. -/
theorem trimList_between {front back : List Char} (hfront : ∀ c ∈ front, isBlank c = true)
    (hback : ∀ c ∈ back, isBlank c = true) (h : Trimmed cs) :
    trimList (front ++ cs ++ back) = cs := by
  cases cs with
  | nil =>
      rw [trimList_eq_nil_iff, List.append_nil]
      exact fun c hc => (List.mem_append.1 hc).elim (hfront c) (hback c)
  | cons first rest =>
      have hstart : (front ++ (first :: rest) ++ back).dropWhile isBlank =
          (first :: rest) ++ back := by
        rw [List.append_assoc, List.dropWhile_append_of_pos hfront, List.cons_append,
          List.dropWhile_cons_of_neg (by simp [h.1 first rfl])]
      have hend : (first :: rest).reverse.dropWhile isBlank = (first :: rest).reverse := by
        cases hreverse : (first :: rest).reverse with
        | nil => rfl
        | cons last others =>
            have hlast : (first :: rest).getLast? = some last := by
              rw [← List.head?_reverse, hreverse, List.head?_cons]
            rw [List.dropWhile_cons_of_neg (by simp [h.2 last hlast])]
      rw [trimList, trimStartList, hstart, trimEndList, List.reverse_append,
        List.dropWhile_append_of_pos fun c hc => hback c (List.mem_reverse.1 hc), hend,
        List.reverse_reverse]

/-- Blanks at the ends are all that is taken from a text. -/
theorem exists_between (cs : List Char) :
    ∃ front back, (∀ c ∈ front, isBlank c = true) ∧ (∀ c ∈ back, isBlank c = true) ∧
      front ++ trimList cs ++ back = cs := by
  refine ⟨cs.takeWhile isBlank, ((trimStartList cs).reverse.takeWhile isBlank).reverse, ?_, ?_, ?_⟩
  · exact fun c hc => List.mem_takeWhile_imp hc
  · exact fun c hc => List.mem_takeWhile_imp (List.mem_reverse.1 hc)
  · have hend : trimList cs ++ ((trimStartList cs).reverse.takeWhile isBlank).reverse =
        trimStartList cs := by
      rw [trimList, trimEndList, ← List.reverse_append, List.takeWhile_append_dropWhile,
        List.reverse_reverse]
    rw [List.append_assoc, hend, trimStartList, List.takeWhile_append_dropWhile]

/-- Blanks around a text without blanks are all that is taken from it. -/
theorem trim_between {front back : List Char} (hfront : ∀ c ∈ front, isBlank c = true)
    (hback : ∀ c ∈ back, isBlank c = true) (h : ∀ c ∈ s.toList, isBlank c = false) :
    trim (String.ofList (front ++ s.toList ++ back)) = s := by
  rw [trim, String.toList_ofList, trimList_between hfront hback (trimmed_of_no_blanks h),
    String.ofList_toList]

/-! ## Texts between blanks -/

theorem isBlankText_iff : isBlankText text = true ↔ ∀ c ∈ text.toList, isBlank c = true :=
  List.all_eq_true

/-- Whether a text is another one between blanks, and the other one has none at its ends. -/
def Surrounds (text inner : String) : Prop :=
  Trimmed inner.toList ∧ ∃ front back, isBlankText front = true ∧ isBlankText back = true ∧
    front ++ inner ++ back = text

/-- Trimming leaves of a text what is between the blanks at its ends. -/
theorem trim_eq_iff : trim text = inner ↔ Surrounds text inner := by
  constructor
  · rintro rfl
    rcases exists_between text.toList with ⟨front, back, hfront, hback, hwhole⟩
    refine ⟨?_, String.ofList front, String.ofList back, ?_, ?_, ?_⟩
    · rw [trim, String.toList_ofList]
      exact trimmed_trimList text.toList
    · rwa [isBlankText_iff, String.toList_ofList]
    · rwa [isBlankText_iff, String.toList_ofList]
    · rw [trim, ← String.ofList_append, ← String.ofList_append, hwhole, String.ofList_toList]
  · rintro ⟨htrimmed, front, back, hfront, hback, rfl⟩
    rw [trim, String.toList_append, String.toList_append,
      trimList_between (isBlankText_iff.1 hfront) (isBlankText_iff.1 hback) htrimmed,
      String.ofList_toList]

/-- Nothing is left of a text exactly if it is blank. -/
theorem trim_eq_empty_iff : trim text = "" ↔ isBlankText text = true := by
  rw [← String.isEmpty_iff, isEmpty_trim_iff, isBlankText_iff]

end Text
end Gatehouse
