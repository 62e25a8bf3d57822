import Gatehouse.Pattern.Escape

/-!
# Classes in brackets

A class in brackets lists characters, ranges, named classes and further brackets, and
combines such lists by intersection and difference.  The depth of a class counts towards
the nesting of the pattern.
-/

namespace Gatehouse

/-- How two lists of a class are combined. -/
inductive SetOperation where
  | intersection
  | difference
  | symmetricDifference
deriving DecidableEq, Repr

/-- Combines two sets. -/
def SetOperation.apply : SetOperation → CharSet → CharSet → CharSet
  | intersection, s, t => s.inter t
  | difference, s, t => s.difference t
  | symmetricDifference, s, t => s.symmetricDifference t

/-- A set with the nesting depth of what describes it. -/
structure DeepSet where
  set : CharSet
  depth : Nat

/-- What stands in a list of a class. -/
structure SetList where
  /-- The characters listed so far. -/
  set : CharSet
  /-- How many entries there are. -/
  count : Nat
  /-- The greatest depth of an entry. -/
  depth : Nat

namespace SetList

/-- An empty list. -/
def empty : SetList := ⟨.empty, 0, 0⟩

/-- Adds an entry. -/
def add (l : SetList) (s : CharSet) (depth : Nat) : SetList :=
  ⟨⟨l.set.ranges ++ s.ranges⟩, l.count + 1, max l.depth depth⟩

/-- A list of several entries is one level deeper than its entries. -/
def toDeepSet (l : SetList) : DeepSet := ⟨l.set, if l.count < 2 then l.depth else l.depth + 1⟩

end SetList

namespace Bracket

/-- Combines what has been read with the next list. -/
def combine (mode : PatternMode) (before : Option (DeepSet × SetOperation)) (l : SetList) :
    DeepSet :=
  let right := l.toDeepSet
  match before with
  | none => right
  | some (left, operation) =>
      ⟨operation.apply (mode.fold left.set) (mode.fold right.set), max left.depth right.depth + 1⟩

/-- The character after the next one, blanks and comment signs passed over where they do
not count. -/
def peekSpaced (cs : List Char) : Option Char :=
  let rec go (seen : Bool) : List Char → Option Char
    | [] => cs.head?
    | c :: rest =>
        if Text.isBlank c then go seen rest
        else if !seen && c = '#' then go true rest
        else some c
  go false cs

/-- The character after the next one. -/
def peek (spaced : Bool) (cs : List Char) : Option Char :=
  if spaced then peekSpaced cs else cs.head?

/-- Reads a name up to a colon. -/
def takeName : List Char → List Char × List Char
  | [] => ([], [])
  | c :: cs => if c = ':' then ([], c :: cs) else let (n, r) := takeName cs; (c :: n, r)

/-- Reads a named ASCII class, after the opening bracket.  Gives its characters and
whether they are denied. -/
def readAscii (cs : List Char) : Option (CharSet × Bool × List Char) :=
  match cs with
  | ':' :: rest =>
      let (negated, rest) := match rest with
        | '^' :: rest => (true, rest)
        | rest => (false, rest)
      match takeName rest with
      | (name, ':' :: ']' :: rest) =>
          (Property.asciiClass? (String.ofList name)).map (·, negated, rest)
      | _ => none
  | _ => none

/-- Reads a character or an escape in a class. -/
def readItem (mode : PatternMode) : List Char → Option (Escape × List Char)
  | '\\' :: rest => Escape.read mode rest
  | c :: rest => some (.char c false, rest)
  | [] => none

/-- The characters of an entry that is no range. -/
def itemSet (mode : PatternMode) : Escape → Option CharSet
  | .char c _ => (mode.classChar? c).map .single
  | .named name negated => mode.signed? negated (mode.classSet name)
  | .property set negated => mode.signed? negated (mode.fold set)
  | .anchor _ | .edge _ => none

/-- Reads a character, a range or a class of characters. -/
def readRange (mode : PatternMode) (cs : List Char) : Option (CharSet × List Char) := do
  let (first, rest) ← readItem mode cs
  match Escape.skipBlank mode.spaced rest with
  | [] => none
  | '-' :: after =>
      let next := peek mode.spaced after
      if next = some ']' || next = some '-' then
        let set ← itemSet mode first
        some (set, '-' :: after)
      else
        let (last, rest) ← readItem mode (Escape.skipBlank mode.spaced after)
        match first, last with
        | .char a _, .char b _ => do
            let a ← mode.classChar? a
            let b ← mode.classChar? b
            if a ≤ b then some (.span a.toNat b.toNat, rest) else none
        | _, _ => none
  | rest => do
      let set ← itemSet mode first
      some (set, rest)

/-- Reads the hyphens at the beginning of a class, which stand for themselves. -/
def readHyphens (spaced : Bool) : Nat → SetList → List Char → SetList × List Char
  | 0, l, cs => (l, cs)
  | fuel + 1, l, cs =>
      match cs with
      | '-' :: rest =>
          readHyphens spaced fuel (l.add (.single '-') 0) (Escape.skipBlank spaced rest)
      | _ => (l, cs)

/-- Reads the beginning of a class: whether it is denied, and the hyphens or the closing
bracket that stand for themselves. -/
def readOpening (mode : PatternMode) (cs : List Char) : Bool × SetList × List Char :=
  let cs := Escape.skipBlank mode.spaced cs
  let (negated, cs) := match cs with
    | '^' :: rest => (true, Escape.skipBlank mode.spaced rest)
    | cs => (false, cs)
  let (l, cs) := readHyphens mode.spaced cs.length .empty cs
  match cs with
  | ']' :: rest =>
      if l.count = 0 then
        (negated, l.add (.single ']') 0, Escape.skipBlank mode.spaced rest)
      else (negated, l, cs)
  | cs => (negated, l, cs)

/-- Reads a class, after its opening bracket, up to its closing one. -/
def read (mode : PatternMode) : Nat → Bool → Option (DeepSet × SetOperation) → SetList →
    List Char → Option (DeepSet × List Char)
  | 0, _, _, _, _ => none
  | fuel + 1, negated, before, l, cs =>
      match Escape.skipBlank mode.spaced cs with
      | [] => none
      | '[' :: rest =>
          match readAscii rest with
          | some (set, denied, rest) => do
              let set ← mode.signed? denied (mode.fold set)
              read mode fuel negated before (l.add set 0) rest
          | none => do
              let (denied, inner, rest) := readOpening mode rest
              let (nested, rest) ← read mode fuel denied none inner rest
              read mode fuel negated before (l.add nested.set nested.depth) rest
      | ']' :: rest => do
          let whole := combine mode before l
          let set ← mode.signed? negated (mode.fold whole.set)
          some (⟨set, whole.depth + 1⟩, rest)
      | '&' :: '&' :: rest =>
          read mode fuel negated (some (combine mode before l, .intersection)) .empty rest
      | '-' :: '-' :: rest =>
          read mode fuel negated (some (combine mode before l, .difference)) .empty rest
      | '~' :: '~' :: rest =>
          read mode fuel negated (some (combine mode before l, .symmetricDifference)) .empty rest
      | cs => do
          let (set, rest) ← readRange mode cs
          read mode fuel negated before (l.add set 0) rest

/-- Reads a class, after its first bracket. -/
def readClass (mode : PatternMode) (cs : List Char) : Option (DeepSet × List Char) :=
  let (negated, l, rest) := readOpening mode cs
  read mode (2 * cs.length + 2) negated none l rest

end Bracket
end Gatehouse
