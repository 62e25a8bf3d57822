/-!
# Blank characters and trimming

Configuration values, tokens and role names are read with the surrounding blank
characters ignored.  Blank means the Unicode property White_Space, which is wider
than the ASCII blanks.

Main results:

- Theorem {lit}`isBlank_of_isWhitespace`: every blank of the ASCII range is blank.
- Theorem {lit}`trimList_trimList`: trimming twice is trimming once.
-/

namespace Gatehouse
namespace Text

/-- A character is blank when it has the Unicode property White_Space. -/
def isBlank (c : Char) : Bool :=
  let n := c.toNat
  (0x09 ≤ n && n ≤ 0x0D) || n == 0x20 || n == 0x85 || n == 0xA0 || n == 0x1680 ||
    (0x2000 ≤ n && n ≤ 0x200A) || n == 0x2028 || n == 0x2029 || n == 0x202F ||
    n == 0x205F || n == 0x3000

/-- Core's ASCII blanks are blank. -/
theorem isBlank_of_isWhitespace {c : Char} (h : c.isWhitespace = true) :
    isBlank c = true := by
  simp only [Char.isWhitespace, Bool.or_eq_true, decide_eq_true_eq] at h
  rcases h with ((h | h) | h) | h <;> subst h <;> decide

/-- Drops the blank characters at the front. -/
def trimStartList (cs : List Char) : List Char :=
  cs.dropWhile isBlank

/-- Drops the blank characters at the back. -/
def trimEndList (cs : List Char) : List Char :=
  (cs.reverse.dropWhile isBlank).reverse

/-- Drops the blank characters at both ends. -/
def trimList (cs : List Char) : List Char :=
  trimEndList (trimStartList cs)

/-- A text without the blank characters at its ends. -/
def trim (s : String) : String :=
  String.ofList (trimList s.toList)

/-- Nothing but blank characters, or nothing at all. -/
def isBlankText (s : String) : Bool :=
  s.toList.all isBlank

/-- A text that stays as it is under trimming. -/
def Trimmed (cs : List Char) : Prop :=
  (∀ c, cs.head? = some c → isBlank c = false) ∧
    ∀ c, cs.getLast? = some c → isBlank c = false

private theorem head?_dropWhile_isBlank (cs : List Char) (c : Char)
    (h : (cs.dropWhile isBlank).head? = some c) : isBlank c = false := by
  induction cs with
  | nil => simp at h
  | cons a rest ih =>
      by_cases ha : isBlank a = true
      · exact ih (by simpa [List.dropWhile_cons, ha] using h)
      · simp only [List.dropWhile_cons, ha] at h
        simp only [Bool.false_eq_true, if_false, List.head?_cons, Option.some.injEq] at h
        subst h
        simpa using ha

private theorem getLast?_dropWhile (cs : List Char) (c : Char)
    (h : (cs.dropWhile isBlank).getLast? = some c) : cs.getLast? = some c := by
  induction cs with
  | nil => simp at h
  | cons a rest ih =>
      by_cases ha : isBlank a = true
      · have hrest := ih (by simpa [List.dropWhile_cons, ha] using h)
        cases rest with
        | nil => simp at hrest
        | cons b more => simpa [List.getLast?_cons_cons] using hrest
      · simpa [List.dropWhile_cons, ha] using h

private theorem dropWhile_eq_self {cs : List Char}
    (h : ∀ c, cs.head? = some c → isBlank c = false) : cs.dropWhile isBlank = cs := by
  cases cs with
  | nil => rfl
  | cons a rest => simp [h a rfl]

/-- Trimming leaves no blank character at either end. -/
theorem trimmed_trimList (cs : List Char) : Trimmed (trimList cs) := by
  constructor
  · intro c hc
    rw [trimList, trimEndList, List.head?_reverse] at hc
    have hlast := getLast?_dropWhile _ c hc
    rw [List.getLast?_reverse] at hlast
    exact head?_dropWhile_isBlank cs c hlast
  · intro c hc
    rw [trimList, trimEndList, List.getLast?_reverse] at hc
    exact head?_dropWhile_isBlank _ c hc

/-- A trimmed text is left alone by trimming. -/
theorem trimList_of_trimmed {cs : List Char} (h : Trimmed cs) : trimList cs = cs := by
  rw [trimList, trimStartList, dropWhile_eq_self h.1, trimEndList,
    dropWhile_eq_self (by simpa [List.head?_reverse] using h.2), List.reverse_reverse]

/-- Trimming twice is trimming once. -/
@[simp] theorem trimList_trimList (cs : List Char) :
    trimList (trimList cs) = trimList cs :=
  trimList_of_trimmed (trimmed_trimList cs)

/-- Trimming a trimmed text changes nothing. -/
@[simp] theorem trim_trim (s : String) : trim (trim s) = trim s := by
  simp [trim]

end Text
end Gatehouse
