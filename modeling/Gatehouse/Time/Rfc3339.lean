import Gatehouse.Text.Blank
import Gatehouse.Text.Digits
import Gatehouse.Time.Timestamp

/-!
# Timestamps as text

A timestamp is written with the date, the time and the letter Z, and with as many
groups of three fraction digits as it needs.  Reading is more generous: blanks
between the parts, a space for the letter T, missing leading zeros and offsets from
coordinated universal time are accepted.
-/

namespace Gatehouse
namespace Timestamp

/-! ## Writing -/

/-- A year; outside of four digits it carries its sign. -/
def writeYear (year : Int) : String :=
  if 0 ≤ year ∧ year ≤ 9999 then Text.padded 4 year.toNat
  else (if year < 0 then "-" else "+") ++ Text.padded 4 year.natAbs

/-- The fraction of a second in three, six or nine digits, or nothing if it is
zero. -/
def writeFraction (nanosecond : Nat) : String :=
  if nanosecond = 0 then ""
  else if nanosecond % 1000000 = 0 then "." ++ Text.padded 3 (nanosecond / 1000000)
  else if nanosecond % 1000 = 0 then "." ++ Text.padded 6 (nanosecond / 1000)
  else "." ++ Text.padded 9 nanosecond

/-- The text of a timestamp. -/
def write (t : Timestamp) : String :=
  let second := t.second % 60 + t.nanosecond / 1000000000
  writeYear t.day.year ++ "-" ++ Text.padded 2 t.day.month ++ "-" ++
    Text.padded 2 t.day.day ++ "T" ++ Text.padded 2 (t.second / 3600) ++ ":" ++
    Text.padded 2 (t.second / 60 % 60) ++ ":" ++ Text.padded 2 second ++
    writeFraction (t.nanosecond % 1000000000) ++ "Z"

/-! ## Reading -/

/-- Reads a natural number of at most so many digits, at least one. -/
def readNumber? (width : Nat) (cs : List Char) : Option (Nat × List Char) :=
  let digits := (cs.take width).takeWhile Char.isDigit
  if digits.isEmpty then none
  else some (Text.ofDecimal digits, cs.drop digits.length)

/-- Reads a number behind blanks. -/
def readField? (width : Nat) (cs : List Char) : Option (Nat × List Char) :=
  readNumber? width (Text.trimStartList cs)

/-- Reads one fixed character behind blanks. -/
def readMark? (mark : Char) (cs : List Char) : Option (List Char) :=
  match Text.trimStartList cs with
  | c :: rest => if c = mark then some rest else none
  | [] => none

/-- Reads a year: four digits, or any number of digits behind a sign. -/
def readYear? (cs : List Char) : Option (Int × List Char) :=
  match Text.trimStartList cs with
  | '-' :: rest => (readNumber? rest.length rest).map fun (n, rest) => (-(n : Int), rest)
  | '+' :: rest => (readNumber? rest.length rest).map fun (n, rest) => ((n : Int), rest)
  | rest => (readNumber? 4 rest).map fun (n, rest) => ((n : Int), rest)

/-- Reads a fraction of a second as nanoseconds; digits beyond the ninth are
dropped. -/
def readFraction? (cs : List Char) : Option (Nat × List Char) :=
  match cs with
  | '.' :: rest =>
      let digits := rest.takeWhile Char.isDigit
      if digits.isEmpty then none
      else
        let kept := digits.take 9
        some (Text.ofDecimal kept * Nat.pow 10 (9 - kept.length), rest.drop digits.length)
  | _ => some (0, cs)

/-- Whether a character may stand between the hours and minutes of an offset. -/
def isOffsetMark (c : Char) : Bool := c = ':' || Text.isBlank c

/-- Reads two digits as a number below the bound. -/
def readPair? (bound : Nat) : List Char → Option (Nat × List Char)
  | a :: b :: rest =>
      if a.isDigit && b.isDigit then
        let n := Text.digitValue a * 10 + Text.digitValue b
        if n < bound then some (n, rest) else none
      else none
  | _ => none

/-- Reads the hours and minutes of an offset as seconds. -/
def readClock? (cs : List Char) : Option (Int × List Char) := do
  let (hours, rest) ← readPair? 100 cs
  let (minutes, rest) ← readPair? 60 (rest.dropWhile isOffsetMark)
  return (hours * 3600 + minutes * 60, rest)

/-- Reads an offset from coordinated universal time in seconds. -/
def readOffset? (cs : List Char) : Option (Int × List Char) :=
  match cs with
  | a :: b :: c :: rest =>
      if String.ofList [a.toUpper, b.toUpper, c.toUpper] = "UTC" then some (0, rest)
      else signed cs
  | _ => signed cs
where
  /-- Reads the letter Z or a signed offset. -/
  signed : List Char → Option (Int × List Char)
    | 'Z' :: rest => some (0, rest)
    | 'z' :: rest => some (0, rest)
    | '+' :: rest => readClock? rest
    | '-' :: rest => (readClock? rest).map fun (seconds, rest) => (-seconds, rest)
    | '\u2212' :: rest => (readClock? rest).map fun (seconds, rest) => (-seconds, rest)
    | _ => none

/-- Reads the day, up to the separator before the time. -/
def readDay? (cs : List Char) : Option (Day × List Char) := do
  let (year, rest) ← readYear? cs
  let rest ← readMark? '-' rest
  let (month, rest) ← readField? 2 rest
  let rest ← readMark? '-' rest
  let (day, rest) ← readField? 2 rest
  let d : Day := ⟨year, month, day⟩
  if d.isValid then some (d, rest) else none

/-- Reads the time of a day; the sixtieth second is a leap second. -/
def readTime? (cs : List Char) : Option ((Nat × Nat) × List Char) := do
  let (hour, rest) ← readField? 2 cs
  let rest ← readMark? ':' rest
  let (minute, rest) ← readField? 2 rest
  let rest ← readMark? ':' rest
  let (second, rest) ← readField? 2 rest
  let (nanosecond, rest) ← readFraction? rest
  if 23 < hour ∨ 59 < minute ∨ 60 < second then none
  else if second = 60 then
    some ((hour * 3600 + minute * 60 + 59, nanosecond + 1000000000), rest)
  else some ((hour * 3600 + minute * 60 + second, nanosecond), rest)

/-- Reads a timestamp, which may have blanks around it. -/
def parseList? (cs : List Char) : Option Timestamp := do
  let (day, rest) ← readDay? cs
  let rest ←
    match rest with
    | c :: rest => if c = 'T' ∨ c = 't' ∨ c = ' ' then some rest else none
    | [] => none
  let ((second, nanosecond), rest) ← readTime? rest
  let (offset, rest) ← readOffset? (Text.trimStartList rest)
  if (Text.trimStartList rest).isEmpty ∧ offset.natAbs < dayLength then
    ofLocal? ⟨day, second, nanosecond⟩ offset
  else none

/-- Reads a timestamp, which may have blanks around it. -/
def parse? (s : String) : Option Timestamp := parseList? s.toList

end Timestamp
end Gatehouse
