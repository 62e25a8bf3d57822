import Gatehouse.Text.Digits

/-!
# Sets of code points

A set of code points is kept as an increasing array of ranges, each with its first
and last point.  Tables of the Unicode standard are written as hexadecimal ranges
separated by blanks.
-/

namespace Gatehouse
namespace Text

/-- A set of code points, as increasing and separate ranges. -/
abbrev CodeRanges := Array (Nat × Nat)

namespace CodeRanges

/-- Reads one range: a code point, or the first and the last one with a hyphen
between them. -/
def parseRange (cs : List Char) : Option (Nat × Nat) :=
  match ofHex? (cs.takeWhile (· ≠ '-')), (cs.dropWhile (· ≠ '-')).tail with
  | some first, [] => some (first, first)
  | some first, rest => (ofHex? rest).map fun last => (first, last)
  | none, _ => none

/-- The words of a text between spaces. -/
def words (acc : List Char) : List Char → List (List Char)
  | [] => if acc.isEmpty then [] else [acc.reverse]
  | c :: rest =>
      if c = ' ' then
        if acc.isEmpty then words [] rest else acc.reverse :: words [] rest
      else words (c :: acc) rest

/-- Reads the ranges of one line of a table. -/
def parse (text : String) : List (Nat × Nat) :=
  (words [] text.toList).filterMap parseRange

/-- Reads the ranges of the lines of a table. -/
def ofLines (lines : List String) : CodeRanges :=
  (lines.flatMap parse).toArray

/-- Halving search for a range that holds the point, between two indices. -/
def searchFrom (ranges : CodeRanges) (point : Nat) (low high : Nat) : Bool :=
  if _h : low < high then
    let middle := (low + high) / 2
    match ranges[middle]? with
    | none => false
    | some (first, last) =>
        if point < first then searchFrom ranges point low middle
        else if last < point then searchFrom ranges point (middle + 1) high
        else true
  else false
termination_by high - low
decreasing_by all_goals omega

/-- Whether a code point is in the set. -/
def contains (ranges : CodeRanges) (point : Nat) : Bool :=
  searchFrom ranges point 0 ranges.size

end CodeRanges
end Text
end Gatehouse
