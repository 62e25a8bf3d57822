import Gatehouse.Pattern.Bracket
import Gatehouse.Text.Digits

/-!
# Reading patterns

A pattern is the text of a regular expression.  Groups, alternatives and repetitions
nest up to a limit; the mode in which a pattern is read may change within it, up to the
end of the group where it changes.

Current gaps:

- A pattern is well formed or not; what is wrong with it is not told.
-/

namespace Gatehouse
namespace PatternReader

/-- How deep a pattern may nest. -/
def nestingLimit : Nat := 250

/-- A part of a pattern that has been read. -/
structure Piece where
  expression : Expression
  depth : Nat
  /-- Whether it may be repeated; a change of mode may not. -/
  repeatable : Bool

/-- A piece without parts of its own. -/
def Piece.plain (expression : Expression) : Piece := ⟨expression, 0, true⟩

/-- Pieces in a row, the last one first. -/
def inRow (pieces : List Piece) : Piece :=
  match pieces with
  | [] => .plain .empty
  | [p] => p
  | _ =>
      ⟨.sequence (pieces.reverse.map Piece.expression),
        pieces.foldl (fun d p => max d p.depth) 0 + 1, true⟩

/-- Alternative pieces, the last one first. -/
def asChoice (branches : List Piece) : Piece :=
  match branches with
  | [p] => p
  | _ =>
      ⟨.oneOf (branches.reverse.map Piece.expression),
        branches.foldl (fun d p => max d p.depth) 0 + 1, true⟩

/-- The piece that repeats another. -/
def repeated (p : Piece) (least : Nat) (most : Option Nat) : Piece :=
  ⟨.times p.expression least most, p.depth + 1, true⟩

/-- One character of a set. -/
def ofSet (s : CharSet) : Expression := .set s.normal.toCodeRanges

/-! ## Single characters and places -/

/-- A character that stands for itself. -/
def literal (mode : PatternMode) (c : Char) : Expression :=
  if mode.unicode || c.toNat < 0x80 then ofSet (mode.fold (.single c)) else ofSet (.single c)

/-- What the dot stands for; without Unicode it would not be a character. -/
def dot? (mode : PatternMode) : Option Expression :=
  if !mode.unicode then none
  else if mode.dotAll then some (ofSet .all)
  else if mode.eitherLine then some (ofSet (CharSet.complement ⟨[(0x0A, 0x0A), (0x0D, 0x0D)]⟩))
  else some (ofSet (CharSet.complement (.single '\n')))

/-- The start of the text, or of a line. -/
def startAnchor (mode : PatternMode) : Look :=
  if !mode.multiLine then .textStart
  else if mode.eitherLine then .lineStartEither
  else .lineStart

/-- The end of the text, or of a line. -/
def endAnchor (mode : PatternMode) : Look :=
  if !mode.multiLine then .textEnd
  else if mode.eitherLine then .lineEndEither
  else .lineEnd

/-- What an escape stands for outside brackets. -/
def escaped? (mode : PatternMode) : Escape → Option Expression
  | .char c byte =>
      if byte && !mode.unicode && 0x80 ≤ c.toNat then none else some (literal mode c)
  | .named name negated => (mode.signed? negated (mode.classSet name)).map ofSet
  | .property set negated => (mode.signed? negated (mode.fold set)).map ofSet
  | .anchor look => some (.look look)
  | .edge edge =>
      let letters := if mode.unicode then Property.wordLetters else Property.asciiWordLetters
      some (.look (.word edge letters.toCodeRanges))

/-- Reads a single character or a place. -/
def readPrimitive (mode : PatternMode) : List Char → Option (Expression × List Char)
  | [] => none
  | '\\' :: rest => do
      let (escape, rest) ← Escape.read mode rest
      let e ← escaped? mode escape
      some (e, rest)
  | '.' :: rest => (dot? mode).map (·, rest)
  | '^' :: rest => some (.look (startAnchor mode), rest)
  | '$' :: rest => some (.look (endAnchor mode), rest)
  | c :: rest => some (literal mode c, rest)

/-! ## Repetitions -/

/-- Skips blanks. -/
def skipBlanks : List Char → List Char
  | [] => []
  | c :: cs => if Text.isBlank c then skipBlanks cs else c :: cs

/-- Reads decimal digits. -/
def takeDigits (spaced : Bool) : Nat → List Char → List Char → List Char × List Char
  | 0, digits, cs => (digits.reverse, cs)
  | fuel + 1, digits, cs =>
      match cs with
      | c :: rest =>
          if c.isDigit then takeDigits spaced fuel (c :: digits) (Escape.skipBlank spaced rest)
          else (digits.reverse, cs)
      | [] => (digits.reverse, [])

/-- Reads a count of 32 bits, with blanks around it. -/
def readCount (spaced : Bool) (cs : List Char) : Option (Nat × List Char) :=
  let (digits, rest) := takeDigits spaced (cs.length + 1) [] (skipBlanks cs)
  let n := Text.ofDecimal digits
  if digits.isEmpty || Nat.pow 2 32 ≤ n then none else some (n, skipBlanks rest)

/-- Reads the counts of a repetition, after the opening brace. -/
def readCounts (spaced : Bool) (cs : List Char) : Option (Nat × Option Nat × List Char) := do
  let (least, rest) ← readCount spaced (Escape.skipBlank spaced cs)
  match rest with
  | '\x7d' :: rest => some (least, some least, rest)
  | ',' :: rest =>
      match Escape.skipBlank spaced rest with
      | '\x7d' :: rest => some (least, none, rest)
      | rest => do
          let (most, rest) ← readCount spaced rest
          match rest with
          | '\x7d' :: rest => if least ≤ most then some (least, some most, rest) else none
          | _ => none
  | _ => none

/-- Skips the sign that a repetition prefers fewer times. -/
def skipLazy : List Char → List Char
  | '?' :: rest => rest
  | cs => cs

/-- Repeats the piece read last. -/
def repeatLast (pieces : List Piece) (least : Nat) (most : Option Nat) : Option (List Piece) :=
  match pieces with
  | p :: rest => if p.repeatable then some (repeated p least most :: rest) else none
  | [] => none

/-! ## Groups -/

/-- The letters that change the mode. -/
inductive ModeLetter where
  | insensitive
  | multiLine
  | dotAll
  | swapGreed
  | unicode
  | eitherLine
  | spaced
  | negation
deriving DecidableEq

/-- The meaning of a letter, if it has one. -/
def ModeLetter.ofChar? : Char → Option ModeLetter
  | 'i' => some insensitive
  | 'm' => some multiLine
  | 's' => some dotAll
  | 'U' => some swapGreed
  | 'u' => some unicode
  | 'R' => some eitherLine
  | 'x' => some spaced
  | '-' => some negation
  | _ => none

/-- Reads the letters of a change of mode, each at most once and something after a
negation. -/
def readLetters : List ModeLetter → List Char → Option (List ModeLetter × List Char)
  | _, [] => none
  | letters, c :: rest =>
      if c = ':' || c = ')' then
        if letters.head? = some .negation then none else some (letters.reverse, c :: rest)
      else do
        let letter ← ModeLetter.ofChar? c
        if letters.contains letter then none else readLetters (letter :: letters) rest

/-- Changes the mode by letters; those after a negation are switched off. -/
def changeMode (mode : PatternMode) (on : Bool) : List ModeLetter → PatternMode
  | [] => mode
  | .insensitive :: rest => changeMode { mode with insensitive := on } on rest
  | .multiLine :: rest => changeMode { mode with multiLine := on } on rest
  | .dotAll :: rest => changeMode { mode with dotAll := on } on rest
  | .swapGreed :: rest => changeMode mode on rest
  | .unicode :: rest => changeMode { mode with unicode := on } on rest
  | .eitherLine :: rest => changeMode { mode with eitherLine := on } on rest
  | .spaced :: rest => changeMode { mode with spaced := on } on rest
  | .negation :: rest => changeMode mode false rest

/-- Whether a character may stand in the name of a group. -/
def isNameChar (first : Bool) (c : Char) : Bool :=
  if first then c = '_' || Property.letters.contains c.toNat
  else c = '_' || c = '.' || c = '[' || c = ']' || Property.lettersAndNumbers.contains c.toNat

/-- Reads the name of a group, up to the closing angle bracket. -/
def readName : List Char → List Char → Option (String × List Char)
  | _, [] => none
  | name, c :: rest =>
      if c = '>' then
        if name.isEmpty then none else some (String.ofList name.reverse, rest)
      else if isNameChar name.isEmpty c then readName (c :: name) rest
      else none

/-- What an opening parenthesis begins. -/
inductive Opening where
  /-- A change of mode for the rest of the group around it. -/
  | change (mode : PatternMode)
  /-- A group, which is read in this mode; a counted one may have a name. -/
  | group (mode : PatternMode) (counted : Bool) (name : Option String)

/-- Reads what follows an opening parenthesis. -/
def readOpening (mode : PatternMode) (cs : List Char) : Option (Opening × List Char) :=
  match Escape.skipBlank mode.spaced cs with
  | '?' :: '=' :: _ | '?' :: '!' :: _ | '?' :: '<' :: '=' :: _ | '?' :: '<' :: '!' :: _ => none
  | '?' :: 'P' :: '<' :: rest | '?' :: '<' :: rest => do
      let (name, rest) ← readName [] rest
      some (.group mode true (some name), rest)
  | '?' :: rest => do
      let (letters, rest) ← readLetters [] rest
      let changed := changeMode mode true letters
      match rest with
      | ')' :: rest => if letters.isEmpty then none else some (.change changed, rest)
      | _ :: rest => some (.group changed false none, rest)
      | [] => none
  | rest => some (.group mode true none, rest)

/-! ## Whole patterns -/

/-- What has been read of the alternatives of a group. -/
structure Reading where
  mode : PatternMode
  /-- The names of groups so far. -/
  names : List String
  /-- The finished alternatives, the last one first. -/
  branches : List Piece
  /-- The pieces of the alternative being read, the last one first. -/
  pieces : List Piece

namespace Reading

/-- Nothing read. -/
def start (mode : PatternMode) (names : List String) : Reading := ⟨mode, names, [], []⟩

/-- Adds a piece. -/
def add (r : Reading) (p : Piece) : Reading := { r with pieces := p :: r.pieces }

/-- Ends an alternative. -/
def endBranch (r : Reading) : Reading :=
  { r with branches := inRow r.pieces :: r.branches, pieces := [] }

/-- The alternatives as one piece. -/
def finish (r : Reading) : Piece := asChoice r.endBranch.branches

/-- Repeats the last piece. -/
def repeatLast? (r : Reading) (least : Nat) (most : Option Nat) : Option Reading :=
  (repeatLast r.pieces least most).map fun pieces => { r with pieces }

end Reading

/-- Reads alternatives up to a closing parenthesis or the end; gives them as a piece,
with the names of groups so far. -/
def readBranches : Nat → Reading → List Char → Option (Piece × List String × List Char)
  | 0, _, _ => none
  | fuel + 1, r, cs =>
      match Escape.skipBlank r.mode.spaced cs with
      | [] => some (r.finish, r.names, [])
      | ')' :: rest => some (r.finish, r.names, ')' :: rest)
      | '|' :: rest => readBranches fuel r.endBranch rest
      | '(' :: rest => do
          let (opening, rest) ← readOpening r.mode rest
          match opening with
          | .change mode =>
              readBranches fuel ({ r with mode }.add ⟨.empty, 0, false⟩) rest
          | .group mode counted name =>
              if name.any r.names.contains then none
              else
                let (inner, names, rest) ←
                  readBranches fuel (.start mode (name.toList ++ r.names)) rest
                match rest with
                | ')' :: rest =>
                    let e := if counted then .group inner.expression else inner.expression
                    readBranches fuel ({ r with names }.add ⟨e, inner.depth + 1, true⟩) rest
                | _ => none
      | '[' :: rest => do
          let (class_, rest) ← Bracket.readClass r.mode rest
          readBranches fuel (r.add ⟨ofSet class_.set, class_.depth, true⟩) rest
      | '?' :: rest => do
          let r ← r.repeatLast? 0 (some 1)
          readBranches fuel r (skipLazy rest)
      | '*' :: rest => do
          let r ← r.repeatLast? 0 none
          readBranches fuel r (skipLazy rest)
      | '+' :: rest => do
          let r ← r.repeatLast? 1 none
          readBranches fuel r (skipLazy rest)
      | '\x7b' :: rest => do
          let (least, most, rest) ← readCounts r.mode.spaced rest
          let r ← r.repeatLast? least most
          readBranches fuel r (skipLazy (Escape.skipBlank r.mode.spaced rest))
      | cs => do
          let (e, rest) ← readPrimitive r.mode cs
          readBranches fuel (r.add (.plain e)) rest

/-- The expression of a pattern, if it is well formed and does not nest too deep. -/
def read (pattern : List Char) : Option Expression :=
  match readBranches (2 * pattern.length + 2) (.start .initial []) pattern with
  | some (p, _, []) => if p.depth ≤ nestingLimit then some p.expression else none
  | _ => none

end PatternReader
end Gatehouse
