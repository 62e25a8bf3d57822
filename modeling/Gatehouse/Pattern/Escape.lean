import Gatehouse.Pattern.Expression
import Gatehouse.Pattern.Folding
import Gatehouse.Pattern.Property

/-!
# Escapes in patterns

After a backslash a pattern holds a character that stands for itself, a character by
its code point, a class of characters, or a condition on the place.

Main results:

- Theorem {lit}`Escape.skipBlank_plain`: blanks count unless a pattern is laid out freely.
-/

namespace Gatehouse

/-- How a part of a pattern is read. -/
structure PatternMode where
  /-- Differences in case do not count. -/
  insensitive : Bool
  /-- The line anchors hold at every line. -/
  multiLine : Bool
  /-- The dot stands for a newline too. -/
  dotAll : Bool
  /-- A carriage return ends a line too. -/
  eitherLine : Bool
  /-- Classes hold characters beyond ASCII. -/
  unicode : Bool
  /-- Blanks and comments in the pattern do not count. -/
  spaced : Bool
deriving DecidableEq, Repr

/-- How a pattern is read at its beginning. -/
def PatternMode.initial : PatternMode := ⟨false, false, false, false, true, false⟩

/-- A class of characters that has an escape of its own. -/
inductive ClassName where
  | digit
  | space
  | word
deriving DecidableEq, Repr

/-- What an escape stands for. -/
inductive Escape where
  /-- A character; {lit}`byte` if it was written as two hexadecimal digits. -/
  | char (c : Char) (byte : Bool)
  /-- A class, or what is not in it. -/
  | named (name : ClassName) (negated : Bool)
  /-- The characters with a property, or those without. -/
  | property (set : CharSet) (negated : Bool)
  /-- A place at an end of the text. -/
  | anchor (look : Look)
  /-- An edge of a word. -/
  | edge (edge : WordEdge)

namespace Escape

/-- Skips a comment, up to the end of its line. -/
def skipComment : List Char → List Char
  | [] => []
  | c :: cs => if c = '\n' then c :: cs else skipComment cs

theorem skipComment_length (cs : List Char) : (skipComment cs).length ≤ cs.length := by
  induction cs with
  | nil => exact Nat.le_refl _
  | cons c cs ih =>
      unfold skipComment
      split
      · exact Nat.le_refl _
      · exact Nat.le_succ_of_le ih

/-- Skips blanks and comments where they do not count. -/
def skipBlank (spaced : Bool) (cs : List Char) : List Char :=
  if spaced then
    match cs with
    | [] => []
    | c :: rest =>
        if Text.isBlank c then skipBlank spaced rest
        else if c = '#' then skipBlank spaced (skipComment rest)
        else c :: rest
  else cs
termination_by cs.length
decreasing_by
  · simp
  · have := skipComment_length rest
    simp only [List.length_cons]
    omega

/-- Blanks count unless a pattern is laid out freely. -/
@[simp] theorem skipBlank_plain (cs : List Char) : skipBlank false cs = cs := by
  unfold skipBlank
  simp

/-- The characters with a meaning of their own in patterns. -/
def isMeta (c : Char) : Bool := "\\.+*?()|[]\x7b\x7d^$#&-~".toList.contains c

/-- The characters that stand for themselves after a backslash. -/
def isEscapable (c : Char) : Bool :=
  isMeta c || (c.toNat < 0x80 && !c.isAlphanum && c != '<' && c != '>')

/-- The character with a code point, if there is one. -/
def charOf? (point : Nat) : Option Char :=
  if point.isValidChar then some (Char.ofNat point) else none

/-- Reads a number of hexadecimal digits. -/
def readHex (spaced : Bool) : Nat → Nat → List Char → Option (Nat × List Char)
  | 0, value, cs => some (value, cs)
  | n + 1, value, c :: cs => do
      let digit ← Text.hexValue? c
      readHex spaced n (16 * value + digit) (skipBlank spaced cs)
  | _ + 1, _, [] => none

/-- Reads hexadecimal digits up to a closing brace. -/
def readBraced (spaced : Bool) : Nat → List Char → List Char → Option (List Char × List Char)
  | 0, _, _ => none
  | fuel + 1, digits, cs =>
      match skipBlank spaced cs with
      | '\x7d' :: rest => some (digits.reverse, skipBlank spaced rest)
      | c :: rest => readBraced spaced fuel (c :: digits) rest
      | [] => none

/-- Reads a character by its code point, after the letter that tells the number of
digits. -/
def readPoint (spaced : Bool) (digits : Nat) (cs : List Char) : Option (Escape × List Char) :=
  match skipBlank spaced cs with
  | '\x7b' :: rest => do
      let (text, rest) ← readBraced spaced (rest.length + 1) [] rest
      if text.isEmpty then none
      else
        let c ← (Text.ofHex? text).bind charOf?
        some (.char c false, rest)
  | cs => do
      let (point, rest) ← readHex spaced digits 0 cs
      let c ← charOf? point
      some (.char c (digits == 2), rest)

/-- The place where a list of characters occurs first, as what comes before and after. -/
def splitAtFirst (mark : List Char) : List Char → Option (List Char × List Char)
  | [] => none
  | c :: cs =>
      if mark.isPrefixOf (c :: cs) then some ([], (c :: cs).drop mark.length)
      else (splitAtFirst mark cs).map fun (before, after) => (c :: before, after)

/-- The characters with a property given in braces, and whether it is denied there. -/
def propertyOf? (text : List Char) : Option (CharSet × Bool) :=
  match splitAtFirst ['!', '='] text, splitAtFirst [':'] text, splitAtFirst ['='] text with
  | some (name, value), _, _ => (Property.findValue? name value).map (·, true)
  | none, some (name, value), _ => (Property.findValue? name value).map (·, false)
  | none, none, some (name, value) => (Property.findValue? name value).map (·, false)
  | none, none, none => (Property.find? text).map (·, false)

/-- Reads a property, after the letter that begins it. -/
def readProperty (mode : PatternMode) (negated : Bool) (cs : List Char) :
    Option (Escape × List Char) :=
  if !mode.unicode then none
  else
    match skipBlank mode.spaced cs with
    | '\x7b' :: rest => do
        let (text, rest) ← readBraced mode.spaced (rest.length + 1) [] rest
        let (set, denied) ← propertyOf? text
        some (.property set (negated != denied), rest)
    | '\\' :: _ => none
    | c :: rest => do
        let set ← Property.find? [c]
        some (.property set negated, skipBlank mode.spaced rest)
    | [] => none

/-- Reads the letters and hyphens of a name. -/
def readEdgeName (spaced : Bool) : Nat → List Char → List Char → List Char × List Char
  | 0, name, cs => (name.reverse, cs)
  | fuel + 1, name, cs =>
      match cs with
      | c :: rest =>
          if c.isAlpha || c = '-' then readEdgeName spaced fuel (c :: name) (skipBlank spaced rest)
          else (name.reverse, cs)
      | [] => (name.reverse, [])

/-- Reads the kind of a word edge in braces, if there is one. -/
def readEdge (mode : PatternMode) (cs : List Char) : Option (Escape × List Char) :=
  match cs with
  | '\x7b' :: inner =>
      match skipBlank mode.spaced inner with
      | [] => none
      | c :: rest =>
          if c.isAlpha || c = '-' then
            match readEdgeName mode.spaced (rest.length + 2) [] (c :: rest) with
            | (name, '\x7d' :: rest) =>
                match String.ofList name with
                | "start" => some (.edge .start, rest)
                | "end" => some (.edge .finish, rest)
                | "start-half" => some (.edge .startHalf, rest)
                | "end-half" => some (.edge .finishHalf, rest)
                | _ => none
            | _ => none
          else some (.edge .boundary, cs)
  | _ => some (.edge .boundary, cs)

/-- Reads what comes after a backslash. -/
def read (mode : PatternMode) : List Char → Option (Escape × List Char)
  | [] => none
  | c :: rest =>
      match c with
      | 'x' => readPoint mode.spaced 2 rest
      | 'u' => readPoint mode.spaced 4 rest
      | 'U' => readPoint mode.spaced 8 rest
      | 'p' => readProperty mode false rest
      | 'P' => readProperty mode true rest
      | 'd' => some (.named .digit false, rest)
      | 'D' => some (.named .digit true, rest)
      | 's' => some (.named .space false, rest)
      | 'S' => some (.named .space true, rest)
      | 'w' => some (.named .word false, rest)
      | 'W' => some (.named .word true, rest)
      | 'a' => some (.char '\x07' false, rest)
      | 'f' => some (.char '\x0c' false, rest)
      | 't' => some (.char '\t' false, rest)
      | 'n' => some (.char '\n' false, rest)
      | 'r' => some (.char '\r' false, rest)
      | 'v' => some (.char '\x0b' false, rest)
      | 'A' => some (.anchor .textStart, rest)
      | 'z' => some (.anchor .textEnd, rest)
      | 'b' => readEdge mode rest
      | 'B' => some (.edge .inside, rest)
      | '<' => some (.edge .start, rest)
      | '>' => some (.edge .finish, rest)
      | c => if isEscapable c then some (.char c false, rest) else none

end Escape

/-! ## Sets in a mode -/

namespace PatternMode

/-- The set with the characters that differ in case alone, if case does not count. -/
def fold (mode : PatternMode) (s : CharSet) : CharSet :=
  if !mode.insensitive then s
  else if mode.unicode then Folding.close s
  else Folding.closeAscii s

/-- The characters that are not in a set; without Unicode they would not be all
characters, so that there is no such set. -/
def complement? (mode : PatternMode) (s : CharSet) : Option CharSet :=
  if mode.unicode then some s.complement else none

/-- The set or its complement. -/
def signed? (mode : PatternMode) (negated : Bool) (s : CharSet) : Option CharSet :=
  if negated then mode.complement? s else some s

/-- The characters of a class. -/
def classSet (mode : PatternMode) (name : ClassName) : CharSet :=
  match name, mode.unicode with
  | .digit, true => Property.digits
  | .digit, false => .span 0x30 0x39
  | .space, true => Property.blanks
  | .space, false => ⟨[(0x09, 0x0D), (0x20, 0x20)]⟩
  | .word, true => Property.wordLetters
  | .word, false => Property.asciiWordLetters

/-- A character in a class; without Unicode it must be ASCII. -/
def classChar? (mode : PatternMode) (c : Char) : Option Char :=
  if mode.unicode || c.toNat < 0x80 then some c else none

end PatternMode
end Gatehouse
