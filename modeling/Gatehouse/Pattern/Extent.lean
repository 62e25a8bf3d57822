import Gatehouse.Pattern.Reader

/-!
# The extent of patterns

A pattern is refused if the machine that would match it takes too much memory.  The
machine reads bytes, forward or backward; its extent is the memory of its states, where
a state takes as much as a fixed record and a bit more for each way on beyond the first.
-/

namespace Gatehouse
namespace Extent

/-- The memory that the machine of a pattern may take: ten mebibytes. -/
def limit : Nat := 10 * Nat.pow 2 20

/-- The memory of a state. -/
def state : Nat := 32

/-- The memory of a way on to another state. -/
def branch : Nat := 4

/-- The memory of a way on by a range of bytes. -/
def transition : Nat := 8

/-! ## Ranges of characters as ranges of bytes -/

/-- The bytes of a code point. -/
def bytesOf (n : Nat) : List Nat :=
  if n < 0x80 then [n]
  else if n < 0x800 then [0xC0 + n / 0x40, 0x80 + n % 0x40]
  else if n < 0x10000 then [0xE0 + n / 0x1000, 0x80 + n / 0x40 % 0x40, 0x80 + n % 0x40]
  else [0xF0 + n / 0x40000, 0x80 + n / 0x1000 % 0x40, 0x80 + n / 0x40 % 0x40, 0x80 + n % 0x40]

/-- Where a range must be cut so that all its characters have equally many bytes and are
no halves of pairs: the parts, the first of them ready unless it is cut again. -/
def cutByLength (first last : Nat) : Option (List (Nat × Nat)) :=
  if first < 0xE000 && 0xD7FF < last then some [(first, 0xD7FF), (0xE000, last)]
  else
    ([0x7F, 0x7FF, 0xFFFF].find? fun most => first ≤ most && most < last).map fun most =>
      [(first, most), (most + 1, last)]

/-- Where a range must be cut so that each of its bytes varies freely. -/
def cutByByte (first last : Nat) : Option (List (Nat × Nat)) :=
  [0x40, 0x1000, 0x40000].findSome? fun unit =>
    if first / unit = last / unit then none
    else if first % unit ≠ 0 then
      some [(first, first / unit * unit + (unit - 1)), (first / unit * unit + unit, last)]
    else if last % unit ≠ unit - 1 then
      some [(first, last / unit * unit - 1), (last / unit * unit, last)]
    else none

/-- The ranges of bytes that make up a range of characters, in order. -/
def sequences : Nat → List (Nat × Nat) → List (List (Nat × Nat))
  | 0, _ => []
  | _ + 1, [] => []
  | fuel + 1, (first, last) :: rest =>
      if last < first then sequences fuel rest
      else
        match cutByLength first last with
        | some parts => sequences fuel (parts ++ rest)
        | none =>
            if last < 0x80 then [(first, last)] :: sequences fuel rest
            else
              match cutByByte first last with
              | some parts => sequences fuel (parts ++ rest)
              | none => (bytesOf first).zip (bytesOf last) :: sequences fuel rest

/-- The sequences of a set. -/
def sequencesOf (ranges : List (Nat × Nat)) : List (List (Nat × Nat)) :=
  sequences (64 * ranges.length + 64) ranges

/-! ## The machine of a set -/

/-- Sequences grouped by their first range, those ranges in order. -/
def groupByHead (seqs : List (List (Nat × Nat))) :
    List ((Nat × Nat) × List (List (Nat × Nat))) :=
  seqs.foldr (fun seq groups =>
    match seq, groups with
    | [], groups => groups
    | r :: tail, (s, tails) :: rest =>
        if r = s then (s, tail :: tails) :: rest else (r, [tail]) :: (s, tails) :: rest
    | r :: tail, [] => [(r, [tail])]) []

/-- A state of the machine that reads a set: its ways on, each to a state by number. -/
abbrev Ways := List ((Nat × Nat) × Nat)

/-- Adds the states for sequences of at most so many bytes, sharing equal ones; gives the
number of the first state.  The end has number zero. -/
def addStates : Nat → List (List (Nat × Nat)) → Array Ways → Nat × Array Ways
  | 0, _, known => (0, known)
  | depth + 1, seqs, known =>
      let groups := (groupByHead seqs)
      if groups.isEmpty then (0, known)
      else
        let (ways, known) := groups.foldl
          (fun (acc : Ways × Array Ways) group =>
            let (target, known) := addStates depth group.2 acc.2
            ((group.1, target) :: acc.1, known)) ([], known)
        match known.findIdx? (· = ways) with
        | some i => (i + 1, known)
        | none => (known.size + 1, known.push ways)

/-- The memory of a state with these ways on. -/
def stateOf (ways : Nat) : Nat := if ways ≤ 1 then state else state + transition * ways

/-- The memory of the forward machine of a set beyond ASCII. -/
def forwardSet (seqs : List (List (Nat × Nat))) : Nat :=
  let (_, known) := addStates 5 seqs #[]
  known.foldl (fun sum ways => sum + stateOf ways.length) state

/-- How many different beginnings the sequences have. -/
def beginnings : Nat → List (List (Nat × Nat)) → Nat
  | 0, _ => 0
  | depth + 1, seqs =>
      (groupByHead seqs).foldl (fun sum group => sum + 1 + beginnings depth group.2) 0

/-- The memory of the backward machine of a set beyond ASCII. -/
def backwardSet (seqs : List (List (Nat × Nat))) : Nat :=
  2 * state + state * beginnings 5 seqs + branch * seqs.length

/-- The memory of the machine of a set. -/
def ofSet (backward : Bool) (ranges : List (Nat × Nat)) : Nat :=
  match ranges with
  | [] => state
  | [(first, last)] =>
      if first = last then state * (bytesOf first).length
      else if last < 0x80 then 2 * state
      else ofSeqs (sequencesOf ranges)
  | _ =>
      if ranges.all fun r => r.2 < 0x80 then state + stateOf ranges.length
      else ofSeqs (sequencesOf ranges)
where
  /-- The memory of the machine of these sequences. -/
  ofSeqs (seqs : List (List (Nat × Nat))) : Nat :=
    if backward then backwardSet seqs else forwardSet seqs

/-! ## The machine of an expression -/

/-- Whether the expression matches the empty stretch alone. -/
def isEmpty : Expression → Bool
  | .empty => true
  | .set _ => false
  | .look _ => true
  | .seq a b => isEmpty a && isEmpty b
  | .choice a b => isEmpty a && isEmpty b
  | .times body _ most => most == some 0 || isEmpty body
  | .group body => isEmpty body

/-- Whether the expression may match the empty stretch. -/
def mayBeEmpty : Expression → Bool
  | .empty => true
  | .set _ => false
  | .look _ => true
  | .seq a b => mayBeEmpty a && mayBeEmpty b
  | .choice a b => mayBeEmpty a || mayBeEmpty b
  | .times body least _ => least == 0 || mayBeEmpty body
  | .group body => mayBeEmpty body

/-- The memory of a repetition whose body takes so much. -/
def ofTimes (body : Nat) (bodyMayBeEmpty : Bool) (least : Nat) : Option Nat → Nat
  | none =>
      match least with
      | 0 =>
          if bodyMayBeEmpty then body + 3 * state + 5 * branch else body + state + 2 * branch
      | n => n * body + state + 2 * branch
  | some most =>
      if most = 0 then state
      else if least = most then least * body
      else if least = 0 && most = 1 then body + 2 * state + 2 * branch
      else
        (if least = 0 then state else least * body) + state +
          (most - least) * (body + state + 2 * branch)

/-- The memory of the machine of an expression. -/
def ofExpression (backward : Bool) : Expression → Nat
  | .empty => state
  | .set ranges => ofSet backward ranges.toList
  | .look _ => state
  | .seq a b => ofExpression backward a + ofExpression backward b
  | .choice a b => ofExpression backward a + ofExpression backward b + state + 2 * branch
  | .times body least most =>
      let least := if isEmpty body then min least 1 else least
      let most := if isEmpty body then some ((most.map (min 1)).getD 1) else most
      ofTimes (ofExpression backward body) (mayBeEmpty body) least most
  | .group body => ofExpression backward body + if backward then 0 else 2 * state

/-- The memory that every machine takes: the skipping of what comes before a match, the
whole match and its end. -/
def frame : Nat := 6 * state + 2 * branch

/-- Whether the machines of expressions that are tried together stay within the
limit. -/
def isWithinLimit (es : List Expression) : Bool :=
  [false, true].all fun backward =>
    (es.map fun e => ofExpression backward e + 3 * state).foldl (· + ·) frame ≤ limit

end Extent

/-! ## Patterns -/

/-- A pattern with its expression. -/
structure Pattern where
  text : String
  expression : Expression
deriving Repr

namespace Pattern

/-- The pattern of a text, if it is well formed and its machine not too large. -/
def compile? (text : String) : Option Pattern := do
  let e ← PatternReader.read text.toList
  if Extent.isWithinLimit [e] then some ⟨text, e⟩ else none

/-- Whether the pattern matches some stretch of a text. -/
def accepts (p : Pattern) (text : String) : Bool := p.expression.accepts text.toList

/-- The patterns of some texts, if all are well formed and their machines together not
too large. -/
def compileAll? (texts : List String) : Option (List Pattern) := do
  let patterns ← texts.mapM fun text =>
    (PatternReader.read text.toList).map fun e => (⟨text, e⟩ : Pattern)
  if Extent.isWithinLimit (patterns.map expression) then some patterns else none

end Pattern
end Gatehouse
