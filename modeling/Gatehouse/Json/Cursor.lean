import Gatehouse.Json.Fault

/-!
# Reading along a text

A cursor is the rest of a text together with the position of its first character.
A reader takes a cursor and gives a value with the cursor behind it, or a failure.

A failure that concerns the shape of a container is noticed before its closing
bracket is read; it gets its position once the container has been left.
-/

namespace Gatehouse
namespace Json

/-- The rest of a text and where it starts. -/
structure Cursor where
  rest : List Char
  line : Nat
  column : Nat
deriving DecidableEq, Repr, Inhabited

namespace Cursor

/-- The start of a text. -/
def start (text : List Char) : Cursor := ⟨text, 1, 0⟩

/-- The position of the cursor. -/
def here (c : Cursor) : Position := ⟨c.line, c.column⟩

/-- The position behind a character. -/
def behind (ch : Char) (line column : Nat) : Nat × Nat :=
  if ch = '\n' then (line + 1, 0) else (line, column + ch.utf8Size)

/-- The cursor behind the first character. -/
def advance (c : Cursor) : Cursor :=
  match c.rest with
  | [] => c
  | ch :: rest =>
      let (line, column) := behind ch c.line c.column
      ⟨rest, line, column⟩

/-- The position behind the next byte, or of the end of the text. -/
def next (c : Cursor) : Position :=
  match c.rest with
  | [] => c.here
  | ch :: _ => if ch = '\n' then ⟨c.line + 1, 0⟩ else ⟨c.line, c.column + 1⟩

/-- Blank characters between the tokens of a JSON text. -/
def isSpace (ch : Char) : Bool :=
  ch = ' ' || ch = '\n' || ch = '\t' || ch = '\r'

/-- The cursor behind the longest front whose characters pass the test. -/
def skipWhile (test : Char → Bool) (rest : List Char) (line column : Nat) : Cursor :=
  match rest with
  | [] => ⟨[], line, column⟩
  | ch :: more =>
      if test ch then
        let (line, column) := behind ch line column
        skipWhile test more line column
      else ⟨ch :: more, line, column⟩

/-- The cursor behind the blanks. -/
def skipSpace (c : Cursor) : Cursor :=
  skipWhile isSpace c.rest c.line c.column

/-- The cursor behind the decimal digits. -/
def skipDigits (c : Cursor) : Cursor :=
  skipWhile Char.isDigit c.rest c.line c.column

/-- The end of the text. -/
def finish (c : Cursor) : Cursor :=
  skipWhile (fun _ => true) c.rest c.line c.column

/-- The position behind a number of bytes, if the text has as many. -/
def positionAfter (count : Nat) (rest : List Char) (line column : Nat) : Option Position :=
  if count = 0 then some ⟨line, column⟩
  else
    match rest with
    | [] => none
    | ch :: more =>
        if ch.utf8Size ≤ count then
          let (line, column) := behind ch line column
          positionAfter (count - ch.utf8Size) more line column
        else some ⟨line, column + count⟩

end Cursor

/-- A failed reading. -/
inductive Failure where
  /-- A fault at a known position. -/
  | placed (cause : Cause) (position : Position)
  /-- A container of the wrong shape, noticed at the cursor. -/
  | pending (m : Mismatch) (cursor : Cursor)
deriving Repr, Inhabited

/-- Reads a value at a cursor. -/
abbrev Reader (α : Type) := Cursor → Except Failure (α × Cursor)

namespace Failure

/-- A failure at the cursor. -/
def atHere {α : Type} (cause : Cause) (c : Cursor) : Except Failure α :=
  .error (placed cause c.here)

/-- A failure at the next byte. -/
def atNext {α : Type} (cause : Cause) (c : Cursor) : Except Failure α :=
  .error (placed cause c.next)

/-- A pending failure gets its position: behind the closing bracket, if that is the
next character that is no blank, else before it. -/
def settle (close : Char) : Failure → Failure
  | placed cause position => placed cause position
  | pending m cursor =>
      let c := cursor.skipSpace
      match c.rest with
      | ch :: _ => if ch = close then placed (.mismatch m) c.advance.here
                   else placed (.mismatch m) c.here
      | [] => placed (.mismatch m) c.here

/-- The fault that a failure comes to. -/
def fault : Failure → Fault
  | placed cause position => ⟨cause, some position⟩
  | pending m _ => ⟨.mismatch m, none⟩

end Failure

/-- Reads the rest of a fixed word. -/
def readWord : List Char → Reader Unit
  | [], c => .ok ((), c)
  | ch :: word, c =>
      match c.rest with
      | [] => Failure.atHere .endInValue c
      | a :: _ => if a = ch then readWord word c.advance else Failure.atNext .expectedIdent c

/-- Reads the end of a text: nothing but blanks. -/
def readEnd (c : Cursor) : Except Failure Unit :=
  let c := c.skipSpace
  if c.rest.isEmpty then .ok () else Failure.atNext .trailingCharacters c

/-- A whole text as one value. -/
def Reader.run {α : Type} (reader : Reader α) (text : List Char) : Except Fault α :=
  match reader (Cursor.start text) with
  | .error failure => .error failure.fault
  | .ok (a, c) =>
      match readEnd c with
      | .error failure => .error failure.fault
      | .ok () => .ok a

end Json
end Gatehouse
