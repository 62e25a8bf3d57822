import Gatehouse.Text.CodeRange

/-!
# Sets of characters

A set of characters is a list of ranges of code points.  The operations on sets go
through a normal form, in which the ranges are increasing and do not touch.
-/

namespace Gatehouse

/-- A set of characters, as ranges of code points. -/
structure CharSet where
  ranges : List (Nat × Nat)
deriving DecidableEq, Repr, Inhabited

namespace CharSet

/-- The largest code point. -/
def top : Nat := 0x10FFFF

/-- The empty set. -/
def empty : CharSet := ⟨[]⟩

/-- All characters. -/
def all : CharSet := ⟨[(0, top)]⟩

/-- The characters from one code point to another. -/
def span (first last : Nat) : CharSet := ⟨[(first, last)]⟩

/-- A single character. -/
def single (c : Char) : CharSet := span c.toNat c.toNat

/-- The ranges as an array, for look-up. -/
def toCodeRanges (s : CharSet) : Text.CodeRanges := s.ranges.toArray

/-- Whether a code point is in the set. -/
def contains (s : CharSet) (point : Nat) : Bool :=
  s.ranges.any fun r => r.1 ≤ point && point ≤ r.2

/-- Joins ranges that overlap or touch; they come in order of their first points. -/
def join : List (Nat × Nat) → List (Nat × Nat)
  | [] => []
  | [r] => [r]
  | (a, b) :: (c, d) :: rest =>
      if c ≤ b + 1 then join ((a, max b d) :: rest) else (a, b) :: join ((c, d) :: rest)
termination_by ranges => ranges.length

/-- The same set in normal form. -/
def normal (s : CharSet) : CharSet := ⟨join (s.ranges.mergeSort fun r t => r.1 ≤ t.1)⟩

/-- The characters in either set. -/
def union (s t : CharSet) : CharSet := normal ⟨s.ranges ++ t.ranges⟩

/-- The gaps between increasing ranges, from a code point up. -/
def gaps : Nat → List (Nat × Nat) → List (Nat × Nat)
  | low, [] => if low ≤ top then [(low, top)] else []
  | low, (a, b) :: rest => if low < a then (low, a - 1) :: gaps (b + 1) rest else gaps (b + 1) rest

/-- The characters that are not in the set. -/
def complement (s : CharSet) : CharSet := ⟨gaps 0 s.normal.ranges⟩

/-- The characters in both sets. -/
def inter (s t : CharSet) : CharSet := (s.complement.union t.complement).complement

/-- The characters in the first set alone. -/
def difference (s t : CharSet) : CharSet := s.inter t.complement

/-- The characters in just one of the sets. -/
def symmetricDifference (s t : CharSet) : CharSet := (s.union t).difference (s.inter t)

/-- The set of a table of ranges. -/
def ofLines (lines : List String) : CharSet := ⟨lines.flatMap Text.CodeRanges.parse⟩

end CharSet
end Gatehouse
