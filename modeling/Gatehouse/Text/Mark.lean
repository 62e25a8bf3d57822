/-!
# Cutting at a mark

A mark is a text of several characters; a text is cut at the first place where it
stands.

Main results:

- Theorem {lit}`cutAt_eq`: a text cut at a mark is the front, the mark and the rest.
-/

namespace Gatehouse
namespace Text

/-- The rest of a text behind a mark that it starts with. -/
def afterMark? : List Char → List Char → Option (List Char)
  | [], text => some text
  | m :: mark, c :: text => if m = c then afterMark? mark text else none
  | _ :: _, [] => none

/-- A text cut at the first place of a mark: what stands in front and behind. -/
def cutAt (mark : List Char) : List Char → Option (List Char × List Char)
  | [] => (afterMark? mark []).map fun rest => ([], rest)
  | c :: text =>
      match afterMark? mark (c :: text) with
      | some rest => some ([], rest)
      | none => (cutAt mark text).map fun (front, rest) => (c :: front, rest)

theorem afterMark?_eq {mark text rest : List Char} (h : afterMark? mark text = some rest) :
    text = mark ++ rest := by
  fun_induction afterMark? mark text with
  | case1 => simp_all
  | case2 m mark text ih => simp [ih h]
  | case3 => simp at h
  | case4 => simp at h

/-- A text cut at a mark is the front, the mark and the rest. -/
theorem cutAt_eq {mark text front rest : List Char} (h : cutAt mark text = some (front, rest)) :
    text = front ++ mark ++ rest := by
  induction text generalizing front rest with
  | nil =>
      simp only [cutAt, Option.map_eq_some_iff, Prod.mk.injEq] at h
      obtain ⟨r, hr, rfl, rfl⟩ := h
      simpa using afterMark?_eq hr
  | cons c text ih =>
      unfold cutAt at h
      split at h
      · rename_i r hr
        simp only [Option.some.injEq, Prod.mk.injEq] at h
        obtain ⟨rfl, rfl⟩ := h
        simpa using afterMark?_eq hr
      · simp only [Option.map_eq_some_iff, Prod.mk.injEq] at h
        obtain ⟨⟨f, r⟩, hfr, rfl, rfl⟩ := h
        simpa using ih hfr

/-- Whether a mark stands somewhere in a text. -/
def holdsMark (mark text : List Char) : Bool := (cutAt mark text).isSome

end Text
end Gatehouse
