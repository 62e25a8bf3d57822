import Gatehouse.Pattern.CharSet
import Gatehouse.Text.Blank

/-!
# Regular expressions and what they match

An expression describes the stretches of a text that it matches.  Matching is done for
all places at once: a set of places, kept as the bits of a number, is carried through
the expression to the set of places where a match may end.

Main results:

- Theorem {lit}`Expression.reach_choice`: a choice reaches what either side reaches.
-/

namespace Gatehouse

/-- An edge of a word. -/
inductive WordEdge where
  | boundary
  | inside
  | start
  | finish
  | startHalf
  | finishHalf
deriving DecidableEq, Repr

/-- Whether an edge lies between characters of which these are in a word. -/
def WordEdge.holds : WordEdge → Bool → Bool → Bool
  | boundary, before, after => before != after
  | inside, before, after => before == after
  | start, before, after => !before && after
  | finish, before, after => before && !after
  | startHalf, before, _ => !before
  | finishHalf, _, after => !after

/-- A condition on a place in a text. -/
inductive Look where
  | textStart
  | textEnd
  | lineStart
  | lineEnd
  /-- A line starts here, where a line ends in a carriage return, a newline or both. -/
  | lineStartEither
  /-- A line ends here, where it ends in a carriage return, a newline or both. -/
  | lineEndEither
  /-- An edge of a word whose characters are in the set. -/
  | word (edge : WordEdge) (letters : Text.CodeRanges)
deriving Repr

/-- Whether a condition holds between two characters; at an end of the text there is
none. -/
def Look.holds (look : Look) (before after : Option Char) : Bool :=
  let inWord (letters : Text.CodeRanges) (c : Option Char) : Bool :=
    c.any fun c => letters.contains c.toNat
  match look with
  | textStart => before.isNone
  | textEnd => after.isNone
  | lineStart => before.isNone || before == some '\n'
  | lineEnd => after.isNone || after == some '\n'
  | lineStartEither =>
      before.isNone || before == some '\n' || (before == some '\r' && after != some '\n')
  | lineEndEither =>
      after.isNone || after == some '\r' || (after == some '\n' && before != some '\r')
  | word edge letters => edge.holds (inWord letters before) (inWord letters after)

/-- A regular expression. -/
inductive Expression where
  /-- Matches the empty stretch. -/
  | empty
  /-- Matches one character of the set. -/
  | set (ranges : Text.CodeRanges)
  /-- Matches the empty stretch where the condition holds. -/
  | look (look : Look)
  /-- Matches one expression and then another. -/
  | seq (first second : Expression)
  /-- Matches either expression. -/
  | choice (first second : Expression)
  /-- Matches an expression so many times in a row, at least and at most. -/
  | times (body : Expression) (least : Nat) (most : Option Nat)
  /-- Matches what the expression in a counted group matches. -/
  | group (body : Expression)
deriving Repr, Inhabited

namespace Expression

/-! ## Places as bits -/

/-- The places before a character of the set. -/
def charMask (ranges : Text.CodeRanges) : List Char → Nat
  | [] => 0
  | c :: cs => 2 * charMask ranges cs + (ranges.contains c.toNat).toNat

/-- The places where a condition holds, after the character before them. -/
def lookMask (look : Look) : Option Char → List Char → Nat
  | before, [] => (look.holds before none).toNat
  | before, c :: cs =>
      2 * lookMask look (some c) cs + (look.holds before (some c)).toNat

/-- Applies a step so many times; from no place nothing is reached. -/
def exactly (step : Nat → Nat) : Nat → Nat → Nat
  | 0, places => places
  | n + 1, places => if places = 0 then 0 else exactly step n (step places)

/-- Applies a step at most so many times; done when a step reaches nothing new. -/
def upTo (step : Nat → Nat) : Nat → Nat → Nat
  | 0, places => places
  | n + 1, places =>
      let reached := places ||| step places
      if reached = places then places else upTo step n reached

end Expression

/-! ## Expressions over a text -/

/-- An expression laid over a text: what it says about characters has become the places
of which it holds. -/
inductive Course where
  /-- Stays at the place. -/
  | stay
  /-- Goes past the next character from one of these places. -/
  | step (places : Nat)
  /-- Stays at one of these places. -/
  | check (places : Nat)
  /-- Takes one course and then another. -/
  | seq (first second : Course)
  /-- Takes either course. -/
  | choice (first second : Course)
  /-- Takes a course so many times, and at most so many times more. -/
  | times (body : Course) (least more : Nat)
deriving Repr, Inhabited

/-- The places where a course may end that starts at one of these places. -/
def Course.reach : Course → Nat → Nat
  | stay, places => places
  | step mask, places => 2 * (places &&& mask)
  | check mask, places => places &&& mask
  | seq first second, places => second.reach (first.reach places)
  | choice first second, places => first.reach places ||| second.reach places
  | times body least more, places =>
      Expression.upTo body.reach more (Expression.exactly body.reach least places)

namespace Expression

/-- The expression laid over a text. -/
def course (text : List Char) : Expression → Course
  | empty => .stay
  | set ranges => .step (charMask ranges text)
  | look l => .check (lookMask l none text)
  | seq first second => .seq (first.course text) (second.course text)
  | choice first second => .choice (first.course text) (second.course text)
  | times body least most =>
      .times (body.course text) least ((most.map (· - least)).getD (text.length + 1))
  | group body => body.course text

/-- The places where a match may end that starts at one of these places. -/
def reach (e : Expression) (text : List Char) (places : Nat) : Nat :=
  (e.course text).reach places

/-- Whether the expression matches some stretch of the text. -/
def accepts (e : Expression) (text : List Char) : Bool :=
  e.reach text (Nat.pow 2 (text.length + 1) - 1) != 0

/-- A choice reaches what either side reaches. -/
@[simp] theorem reach_choice (text : List Char) (a b : Expression) (places : Nat) :
    (choice a b).reach text places = a.reach text places ||| b.reach text places :=
  rfl

/-- One expression after another. -/
def sequence : List Expression → Expression
  | [] => empty
  | [e] => e
  | e :: rest => seq e (sequence rest)

/-- Any of the expressions. -/
def oneOf : List Expression → Expression
  | [] => set #[]
  | [e] => e
  | e :: rest => choice e (oneOf rest)

end Expression
end Gatehouse
