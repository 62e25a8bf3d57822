import Gatehouse.Number.Double
import Gatehouse.Time.Timestamp
import Gatehouse.Toml.Lexeme
import Gatehouse.Toml.Value

/-!
# Numbers and moments of a configuration document

A single underscore may stand between two digits.  Whole numbers have 64 bits with a
sign; the greatest doubles bound the others, except that a number below all of them is
minus infinity.

Main results:

- Definition {lit}`readScalar`: numbers, moments, truth values and strings.
-/

namespace Gatehouse
namespace Toml

/-! ## Numbers -/

/-- Reads further digits, each perhaps behind an underscore. -/
def readMoreDigits (isDigit : Char → Bool) : List Char → Option (List Char × List Char)
  | [] => some ([], [])
  | '_' :: rest =>
      match rest with
      | c :: _ => if isDigit c then readMoreDigits isDigit rest else none
      | [] => none
  | c :: rest =>
      if isDigit c then (readMoreDigits isDigit rest).map fun (ds, rest) => (c :: ds, rest)
      else some ([], c :: rest)

/-- Reads digits. -/
def readDigits (isDigit : Char → Bool) (cs : List Char) : Option (List Char × List Char) :=
  if cs.head?.any isDigit then readMoreDigits isDigit cs else none

/-- Reads a sign, if there is one: whether it is a minus. -/
def readSign : List Char → Bool × List Char
  | '+' :: rest => (false, rest)
  | '-' :: rest => (true, rest)
  | cs => (false, cs)

/-- Reads the digits of a whole number: a zero stands alone. -/
def readWhole : List Char → Option (List Char × List Char)
  | '0' :: rest => some (['0'], rest)
  | cs => readDigits Char.isDigit cs

/-- Reads a fraction, if there is one. -/
def readFraction : List Char → Option (Option (List Char) × List Char)
  | '.' :: rest => (readDigits Char.isDigit rest).map fun (ds, rest) => (some ds, rest)
  | cs => some (none, cs)

/-- Reads an exponent, if there is one. -/
def readExponent (cs : List Char) : Option (Option Int × List Char) :=
  if cs.head? = some 'e' ∨ cs.head? = some 'E' then do
    let (negative, rest) := readSign cs.tail
    let (ds, rest) ← readDigits Char.isDigit rest
    let n : Int := Text.ofDecimal ds
    return (some (if negative then -n else n), rest)
  else some (none, cs)

/-- The double nearest to digits times a power of ten, unless it is out of range. -/
def magnitude? (digits : List Char) (exponent : Int) : Option Magnitude :=
  let n := Text.ofDecimal digits
  if n = 0 then some Magnitude.zero
  else if exponent > 400 then none
  else if exponent + digits.length < -400 then some Magnitude.zero
  else if 0 ≤ exponent then Magnitude.ofNat? (n * Nat.pow 10 exponent.toNat)
  else Magnitude.round? n (Nat.pow 10 (-exponent).toNat)

/-- A floating-point number; only below all others may it be infinite. -/
def ofDecimal? (negative : Bool) (digits : List Char) (exponent : Int) : Option Value :=
  match magnitude? digits exponent with
  | some size => some (.float (some ⟨negative, size⟩))
  | none => if negative then some (.float none) else none

/-- A whole number of 64 bits with a sign. -/
def ofWhole? (negative : Bool) (n : Nat) : Option Value :=
  if negative then if n ≤ Nat.pow 2 63 then some (.integer (-n)) else none
  else if n < Nat.pow 2 63 then some (.integer n) else none

/-- Reads a decimal number. -/
def readDecimal (cs : List Char) : Option (Value × List Char) := do
  let (negative, rest) := readSign cs
  match rest with
  | 'i' :: 'n' :: 'f' :: rest => return (.float none, rest)
  | 'n' :: 'a' :: 'n' :: rest => return (.float none, rest)
  | _ =>
      let (whole, rest) ← readWhole rest
      let (fraction, rest) ← readFraction rest
      let (exponent, rest) ← readExponent rest
      match fraction, exponent with
      | none, none => return (← ofWhole? negative (Text.ofDecimal whole), rest)
      | _, _ =>
          let places := fraction.getD []
          return (← ofDecimal? negative (whole ++ places) (exponent.getD 0 - places.length), rest)

/-- Whether a character is an octal digit. -/
def isOctal (c : Char) : Bool := '0' ≤ c && c ≤ '7'

/-- Whether a character is a binary digit. -/
def isBinary (c : Char) : Bool := c = '0' || c = '1'

/-- Reads a whole number in another base behind its mark. -/
def readBase (base : Nat) (isDigit : Char → Bool) (cs : List Char) :
    Option (Value × List Char) := do
  let (ds, rest) ← readDigits isDigit cs
  let n := ds.foldl (fun n c => n * base + (Text.hexValue? c).getD 0) 0
  return (← ofWhole? false n, rest)

/-- Reads a number. -/
def readNumber : Reader Value
  | '0' :: 'x' :: rest => readBase 16 (fun c => (Text.hexValue? c).isSome) rest
  | '0' :: 'o' :: rest => readBase 8 isOctal rest
  | '0' :: 'b' :: rest => readBase 2 isBinary rest
  | cs => readDecimal cs

/-! ## Moments -/

/-- Reads a number of so many digits between two bounds. -/
def readBounded (width low high : Nat) (cs : List Char) : Option (Nat × List Char) :=
  let ds := cs.take width
  let n := Text.ofDecimal ds
  if ds.length = width ∧ ds.all Char.isDigit ∧ low ≤ n ∧ n ≤ high then some (n, cs.drop width)
  else none

/-- Reads a character. -/
def readMark (mark : Char) : List Char → Option (List Char)
  | c :: rest => if c = mark then some rest else none
  | [] => none

/-- Reads a date and gives its text. -/
def readDate (cs : List Char) : Option (String × List Char) := do
  let (year, rest) ← readBounded 4 0 9999 cs
  let (month, rest) ← readBounded 2 1 12 (← readMark '-' rest)
  let (day, rest) ← readBounded 2 1 31 (← readMark '-' rest)
  if day ≤ Day.monthLength year month then
    return (Text.padded 4 year ++ "-" ++ Text.padded 2 month ++ "-" ++ Text.padded 2 day, rest)
  else none

/-- The text of the digits of a fraction of a second: nine digits count, and zeros at
the end do not. -/
def fractionText (ds : List Char) : String :=
  match ((ds.take 9).reverse.dropWhile (· = '0')).reverse with
  | [] => ""
  | ds => "." ++ String.ofList ds

/-- Reads the fraction of a second, if there is one, and gives its text. -/
def readPlaces : List Char → Option (String × List Char)
  | '.' :: rest =>
      let ds := rest.takeWhile Char.isDigit
      if ds.isEmpty then none else some (fractionText ds, rest.drop ds.length)
  | cs => some ("", cs)

/-- Reads a time of day and gives its text. -/
def readTime (cs : List Char) : Option (String × List Char) := do
  let (hour, rest) ← readBounded 2 0 23 cs
  let (minute, rest) ← readBounded 2 0 59 (← readMark ':' rest)
  let (second, rest) ← readBounded 2 0 60 (← readMark ':' rest)
  let (places, rest) ← readPlaces rest
  return (Text.padded 2 hour ++ ":" ++ Text.padded 2 minute ++ ":" ++ Text.padded 2 second ++
    places, rest)

/-- Reads the distance to universal time, if there is one, and gives its text. -/
def readOffset (cs : List Char) : Option (String × List Char) :=
  match cs with
  | 'Z' :: rest | 'z' :: rest => some ("Z", rest)
  | '+' :: rest | '-' :: rest => do
      let (hour, rest) ← readBounded 2 0 23 rest
      let (minute, rest) ← readBounded 2 0 59 (← readMark ':' rest)
      let negative := cs.head? = some '-' ∧ 0 < hour + minute
      return ((if negative then "-" else "+") ++ Text.padded 2 hour ++ ":" ++
        Text.padded 2 minute, rest)
  | _ => some ("", cs)

/-- Reads a time of day behind a date, if there is one, and gives its text. -/
def readTimeOfDate (cs : List Char) : Option (String × List Char) :=
  match cs with
  | c :: rest =>
      if c = 'T' ∨ c = 't' ∨ c = ' ' then
        match readTime rest with
        | some (time, rest) => do
            let (offset, rest) ← readOffset rest
            return ("T" ++ time ++ offset, rest)
        | none => some ("", cs)
      else some ("", cs)
  | [] => some ("", [])

/-- Reads a date, a time of day or both. -/
def readMoment (cs : List Char) : Option (Value × List Char) :=
  match readDate cs with
  | some (date, rest) => do
      let (time, rest) ← readTimeOfDate rest
      return (.moment (date ++ time), rest)
  | none => do
      let (time, rest) ← readTime cs
      return (.moment time, rest)

/-! ## All together -/

/-- Reads a value that holds no others. -/
def readScalar (cs : List Char) : Option (Value × List Char) :=
  match cs with
  | 't' :: 'r' :: 'u' :: 'e' :: rest => some (.boolean true, rest)
  | 'f' :: 'a' :: 'l' :: 's' :: 'e' :: rest => some (.boolean false, rest)
  | '"' :: _ | '\'' :: _ => (readString cs).map fun (s, rest) => (.string s, rest)
  | _ => (readMoment cs).orElse fun () => readNumber cs

end Toml
end Gatehouse
