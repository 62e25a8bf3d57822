/-!
# Sorted collections of texts

Groups, rules and object members are kept in the order of their code points, each
key once.  The order of core's {lean}`String` is that order.
-/

namespace Gatehouse
namespace Text

/-- Inserts a text into a strictly increasing list, keeping it so. -/
def insertSorted (s : String) : List String → List String
  | [] => [s]
  | t :: rest =>
      if s = t then t :: rest
      else if s < t then s :: t :: rest
      else t :: insertSorted s rest

/-- The distinct texts of a list in increasing order. -/
def sortedDistinct (texts : List String) : List String :=
  texts.foldl (fun sorted s => insertSorted s sorted) []

/-- Inserts or replaces the value of a key in an association list with strictly
increasing keys. -/
def putSorted {α : Type} (key : String) (value : α) :
    List (String × α) → List (String × α)
  | [] => [(key, value)]
  | (k, v) :: rest =>
      if key = k then (key, value) :: rest
      else if key < k then (key, value) :: (k, v) :: rest
      else (k, v) :: putSorted key value rest

/-- The members of an association list in increasing order of keys; of several
with one key the last counts. -/
def sortedMembers {α : Type} (members : List (String × α)) : List (String × α) :=
  members.foldl (fun sorted m => putSorted m.1 m.2 sorted) []

/-- A text is in the list after an insertion exactly if it was inserted or there
before. -/
@[simp] theorem mem_insertSorted {s t : String} {texts : List String} :
    t ∈ insertSorted s texts ↔ t = s ∨ t ∈ texts := by
  induction texts with
  | nil => simp [insertSorted]
  | cons head rest ih =>
      simp only [insertSorted]
      split
      · subst s; simp
      · split
        · simp
        · simp only [List.mem_cons, ih]
          exact or_left_comm

/-- Sorting keeps exactly the texts of the list. -/
@[simp] theorem mem_sortedDistinct {t : String} {texts : List String} :
    t ∈ sortedDistinct texts ↔ t ∈ texts := by
  suffices h : ∀ sorted : List String,
      t ∈ texts.foldl (fun acc s => insertSorted s acc) sorted ↔ t ∈ sorted ∨ t ∈ texts by
    simpa [sortedDistinct] using h []
  induction texts with
  | nil => simp
  | cons head rest ih =>
      intro sorted
      simp only [List.foldl_cons, ih, mem_insertSorted, List.mem_cons]
      constructor
      · rintro ((h | h) | h)
        · exact Or.inr (Or.inl h)
        · exact Or.inl h
        · exact Or.inr (Or.inr h)
      · rintro (h | h | h)
        · exact Or.inl (Or.inr h)
        · exact Or.inl (Or.inl h)
        · exact Or.inr h

end Text
end Gatehouse
