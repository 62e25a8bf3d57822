import Gatehouse.Text.Digits

/-!
# Words of a configuration document

Blanks, line ends, comments, keys and strings of a TOML document.  A reader takes the
rest of the document and gives a value with what stands behind it; a document either
reads or does not, so there is one way to fail.

Main results:

- Theorem {lit}`readBareKey_append`: a bare key and the rest are the text.
-/

namespace Gatehouse
namespace Toml

/-- Reads a value from the front of a text. -/
abbrev Reader (α : Type) := List Char → Option (α × List Char)

/-! ## Blanks and lines -/

/-- A blank inside a line. -/
def isBlank (c : Char) : Bool := c = ' ' || c = '\t'

/-- The text behind the blanks. -/
def skipBlanks (cs : List Char) : List Char := cs.dropWhile isBlank

/-- Whether a character may stand in a comment or a string as it is. -/
def isPlain (c : Char) : Bool := c = '\t' || (0x20 ≤ c.toNat && c.toNat ≠ 0x7F)

/-- The text behind a line end. -/
def afterNewline? : List Char → Option (List Char)
  | '\n' :: rest => some rest
  | '\r' :: '\n' :: rest => some rest
  | _ => none

/-- The text behind a comment, if there is one. -/
def skipComment : List Char → List Char
  | '#' :: rest => rest.dropWhile isPlain
  | cs => cs

/-- The text behind blanks, a comment and the end of the line. -/
def endLine (cs : List Char) : Option (List Char) :=
  match skipComment (skipBlanks cs) with
  | [] => some []
  | rest => afterNewline? rest

/-- The text behind blanks, comments and line ends, with fuel for the lines. -/
def skipLinesWith : Nat → List Char → Option (List Char)
  | 0, cs => some cs
  | fuel + 1, cs =>
      match skipBlanks cs with
      | '#' :: rest => (afterNewline? (rest.dropWhile isPlain)).bind (skipLinesWith fuel)
      | rest =>
          match afterNewline? rest with
          | some rest => skipLinesWith fuel rest
          | none => if rest.head? = some '\r' then none else some rest

/-- The text behind blanks, comments and line ends. -/
def skipLines (cs : List Char) : Option (List Char) := skipLinesWith (cs.length + 1) cs

/-! ## Strings -/

/-- The character of so many hexadecimal digits. -/
def readCode (count : Nat) (cs : List Char) : Option (Char × List Char) := do
  let digits := cs.take count
  if digits.length < count then none
  else
    let n ← Text.ofHex? digits
    if n.isValidChar then some (Char.ofNat n, cs.drop count) else none

/-- Reads an escape behind its backslash. -/
def readEscape : Reader Char
  | 'b' :: rest => some ('\x08', rest)
  | 'f' :: rest => some ('\x0c', rest)
  | 'n' :: rest => some ('\n', rest)
  | 'r' :: rest => some ('\r', rest)
  | 't' :: rest => some ('\t', rest)
  | '"' :: rest => some ('"', rest)
  | '\\' :: rest => some ('\\', rest)
  | 'u' :: rest => readCode 4 rest
  | 'U' :: rest => readCode 8 rest
  | _ => none

/-- Reads a string with escapes behind its opening quote, with fuel for its characters;
what has been read stands in reverse. -/
def readBasicWith : Nat → List Char → List Char → Option (String × List Char)
  | 0, _, _ => none
  | fuel + 1, acc, cs =>
      match cs with
      | '"' :: rest => some (String.ofList acc.reverse, rest)
      | '\\' :: rest => (readEscape rest).bind fun (c, rest) => readBasicWith fuel (c :: acc) rest
      | c :: rest => if isPlain c then readBasicWith fuel (c :: acc) rest else none
      | [] => none

/-- Reads a string with escapes at its opening quote. -/
def readBasic : Reader String
  | '"' :: rest => readBasicWith (rest.length + 1) [] rest
  | _ => none

/-- Reads a string without escapes at its opening quote. -/
def readLiteral : Reader String
  | '\'' :: rest =>
      let body := rest.takeWhile fun c => isPlain c && c ≠ '\''
      match rest.drop body.length with
      | '\'' :: rest => some (String.ofList body, rest)
      | _ => none
  | _ => none

/-- The text behind the blanks and line ends that follow a line end. -/
def skipNewlines : Nat → List Char → List Char
  | 0, cs => cs
  | fuel + 1, cs =>
      match afterNewline? (skipBlanks cs) with
      | some rest => skipNewlines fuel rest
      | none => skipBlanks cs

/-- The end of a string of several lines at the first of its closing quotes: up to two
more quotes belong to the string. -/
def closeLines (quote : Char) (acc rest : List Char) : String × List Char :=
  let extra := (rest.takeWhile (· = quote)).take 2
  (String.ofList (acc.reverse ++ extra), rest.drop extra.length)

/-- Reads the lines of a string, with fuel for its characters; what has been read stands
in reverse.  A backslash at the end of a line swallows the blanks and lines behind it. -/
def readLinesWith (quote : Char) (escapes : Bool) :
    Nat → List Char → List Char → Option (String × List Char)
  | 0, _, _ => none
  | fuel + 1, acc, cs =>
      match afterNewline? cs, cs with
      | some rest, _ => readLinesWith quote escapes fuel ('\n' :: acc) rest
      | none, c :: rest =>
          if c = quote then
            match rest with
            | d :: e :: more =>
                if d = quote ∧ e = quote then some (closeLines quote acc more)
                else readLinesWith quote escapes fuel (c :: acc) rest
            | _ => none
          else if escapes ∧ c = '\\' then
            match afterNewline? (skipBlanks rest) with
            | some more => readLinesWith quote escapes fuel acc (skipNewlines fuel more)
            | none => (readEscape rest).bind fun (c, rest) =>
                readLinesWith quote escapes fuel (c :: acc) rest
          else if isPlain c then readLinesWith quote escapes fuel (c :: acc) rest
          else none
      | none, [] => none

/-- Reads a string of several lines behind its opening quotes; a line end right there
does not count. -/
def readLines (quote : Char) (escapes : Bool) (cs : List Char) : Option (String × List Char) :=
  let cs := (afterNewline? cs).getD cs
  readLinesWith quote escapes (cs.length + 1) [] cs

/-- Reads a string of any of the four kinds. -/
def readString : Reader String
  | '"' :: '"' :: '"' :: rest => readLines '"' true rest
  | '\'' :: '\'' :: '\'' :: rest => readLines '\'' false rest
  | '"' :: rest => readBasic ('"' :: rest)
  | cs => readLiteral cs

/-! ## Keys -/

/-- A character of a bare key. -/
def isBare (c : Char) : Bool := c.isAlphanum || c = '-' || c = '_'

/-- Reads a bare key. -/
def readBareKey (cs : List Char) : Option (String × List Char) :=
  if cs.head?.any isBare then some (String.ofList (cs.takeWhile isBare), cs.dropWhile isBare)
  else none

/-- Reads a key without dots. -/
def readSimpleKey : Reader String
  | '"' :: rest => readBasic ('"' :: rest)
  | '\'' :: rest => readLiteral ('\'' :: rest)
  | cs => readBareKey cs

/-- How deep tables and lists may stand inside each other, plus one. -/
def depthLimit : Nat := 80

/-- Reads keys with dots between them, at most so many. -/
def readKeys : Nat → Reader (List String)
  | 0, _ => none
  | fuel + 1, cs => do
      let (key, rest) ← readSimpleKey (skipBlanks cs)
      match skipBlanks rest with
      | '.' :: rest =>
          let (keys, rest) ← readKeys fuel rest
          return (key :: keys, rest)
      | rest => return ([key], rest)

/-- A key with dots: the way to a table and the name in it. -/
structure Path where
  tables : List String
  name : String
deriving DecidableEq, Repr

/-- Reads a key with dots. -/
def readPath (cs : List Char) : Option (Path × List Char) := do
  let (keys, rest) ← readKeys (depthLimit - 1) cs
  return (⟨keys.dropLast, ← keys.getLast?⟩, rest)

/-- A bare key and the rest are the text. -/
theorem readBareKey_append {cs rest : List Char} {key : String}
    (h : readBareKey cs = some (key, rest)) : key.toList ++ rest = cs := by
  unfold readBareKey at h
  split at h
  · simp only [Option.some.injEq, Prod.mk.injEq] at h
    obtain ⟨rfl, rfl⟩ := h
    simp [List.takeWhile_append_dropWhile]
  · simp at h

end Toml
end Gatehouse
