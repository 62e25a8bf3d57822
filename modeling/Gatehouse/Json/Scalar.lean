import Gatehouse.Json.Cursor
import Gatehouse.Text.Utf8

/-!
# Strings and numbers

A string ends at the first quote that is not escaped; a code point beyond the basic
plane is escaped as a pair of surrogates.  A string that is kept has to be a text; one that
is stepped over may hold stray bytes.  A whole number of 64 bits stays whole; every other
number is a double, computed from at most 64 bits of leading digits and a power of ten, each
step rounded.

Current gaps:

- The position of a fault behind a stray byte counts what stands for the byte.
-/

namespace Gatehouse
namespace Json

/-! ## Strings -/

/-- Reads four hexadecimal digits. -/
def readHex (c : Cursor) : Except Failure (Nat × Cursor) :=
  match Cursor.positionAfter 4 c.rest c.line c.column with
  | none => Failure.atHere .endInString c.finish
  | some position =>
      match Text.ofHex? (c.rest.take 4) with
      | some n => .ok (n, ⟨c.rest.drop 4, position.line, position.column⟩)
      | none => .error (.placed .invalidEscape position)

/-- Whether a number is the first half of a surrogate pair. -/
def isLeading (n : Nat) : Bool := 0xD800 ≤ n && n ≤ 0xDBFF

/-- Whether a number is the second half of a surrogate pair. -/
def isTrailing (n : Nat) : Bool := 0xDC00 ≤ n && n ≤ 0xDFFF

/-- Steps over one expected character between the halves of a surrogate pair. -/
def readBetweenHalves (ch : Char) (c : Cursor) : Except Failure Cursor :=
  match c.rest with
  | [] => Failure.atHere .endInString c
  | a :: _ =>
      if a = ch then .ok c.advance else Failure.atNext .unfinishedSurrogatePair c

/-- Reads the digits of a code point escape, and the second escape of a surrogate
pair. -/
def readCodePoint (c : Cursor) : Except Failure (Char × Cursor) := do
  let (n, c) ← readHex c
  if isTrailing n then Failure.atHere .loneSurrogate c
  else if isLeading n then
    let c ← readBetweenHalves '\\' c
    let c ← readBetweenHalves 'u' c
    let (m, c) ← readHex c
    if isTrailing m then
      return (Char.ofNat ((n - 0xD800) * 0x400 + (m - 0xDC00) + 0x10000), c)
    else Failure.atHere .loneSurrogate c
  else return (Char.ofNat n, c)

/-- The character of a one-letter escape. -/
def shortEscape? (ch : Char) : Option Char :=
  match ch with
  | '"' => some '"'
  | '\\' => some '\\'
  | '/' => some '/'
  | 'b' => some (Char.ofNat 0x08)
  | 'f' => some (Char.ofNat 0x0C)
  | 'n' => some '\n'
  | 'r' => some '\r'
  | 't' => some '\t'
  | _ => none

/-- Reads an escape behind its backslash. -/
def readEscape (c : Cursor) : Except Failure (Char × Cursor) :=
  match c.rest with
  | [] => Failure.atHere .endInString c
  | ch :: _ =>
      match shortEscape? ch with
      | some decoded => .ok (decoded, c.advance)
      | none =>
          if ch = 'u' then readCodePoint c.advance else Failure.atNext .invalidEscape c

/-- Reads an escape that nobody will look at: the digits of a code point are only
counted. -/
def skipEscape (c : Cursor) : Except Failure (Char × Cursor) :=
  match c.rest with
  | [] => Failure.atHere .endInString c
  | ch :: _ =>
      match shortEscape? ch with
      | some decoded => .ok (decoded, c.advance)
      | none =>
          if ch = 'u' then (readHex c.advance).map fun (_, c) => (ch, c)
          else Failure.atNext .invalidEscape c

/-- Reads the characters of a string up to and with the closing quote.  The
characters read so far are kept in reverse. -/
def readBody (escape : Cursor → Except Failure (Char × Cursor)) :
    Nat → List Char → Reader (List Char)
  | 0, _, c => Failure.atHere .endInString c
  | fuel + 1, read, c =>
      match c.rest with
      | [] => Failure.atHere .endInString c
      | '"' :: _ => .ok (read.reverse, c.advance)
      | '\\' :: _ =>
          match escape c.advance with
          | .error failure => .error failure
          | .ok (ch, c) => readBody escape fuel (ch :: read) c
      | ch :: _ =>
          if ch.toNat < 0x20 then Failure.atHere .controlCharacter c.advance
          else readBody escape fuel (ch :: read) c.advance

/-- Reads a string at its opening quote. -/
def readQuoted (c : Cursor) : Except Failure (String × Cursor) :=
  let c := c.advance
  match readBody readEscape (c.rest.length + 1) [] c with
  | .error failure => .error failure
  | .ok (chars, c) => .ok (String.ofList chars, c)

/-- Steps over a string at its opening quote. -/
def skipQuoted (c : Cursor) : Except Failure (Unit × Cursor) :=
  let c := c.advance
  match readBody skipEscape (c.rest.length + 1) [] c with
  | .error failure => .error failure
  | .ok (_, c) => .ok ((), c)

/-! ## Texts as bytes -/

/-- What stands for a byte that is part of no character: a letter, and half a surrogate pair
as an escape.  Only in a string that is stepped over it does no harm. -/
def strayByte : List Char := ['x', '\\', 'u', 'd', 'c', '0', '0']

/-- The characters of a JSON text that comes as bytes. -/
def ofBytes (bytes : List UInt8) : List Char := Text.charsOf strayByte bytes

/-- A text is read as it stands. -/
@[simp] theorem ofBytes_utf8 (text : String) : ofBytes (Text.utf8 text) = text.toList :=
  Text.charsOf_utf8 text

/-! ## Numbers -/

/-- The leading digits of a number that fit 64 bits, and the power of ten that the
others leave. -/
structure Significand where
  value : Nat
  exponent : Int
  /-- Whether a digit has been left out. -/
  full : Bool
deriving Repr, Inhabited

namespace Significand

/-- First number beyond 64 bits. -/
def limit : Nat := Nat.pow 2 64

/-- A further digit before the point.  Once one did not fit, no more are taken. -/
def pushWhole (s : Significand) (digit : Nat) : Significand :=
  if s.full then { s with exponent := s.exponent + 1 }
  else if s.value * 10 + digit < limit then { s with value := s.value * 10 + digit }
  else { s with exponent := s.exponent + 1, full := true }

/-- A further digit behind the point.  Once one did not fit, no more are taken. -/
def pushFraction (s : Significand) (digit : Nat) : Significand :=
  if s.full then s
  else if s.value * 10 + digit < limit then
    { s with value := s.value * 10 + digit, exponent := s.exponent - 1 }
  else { s with full := true }

/-- The significand of the digits before the point. -/
def ofWhole (digits : List Char) : Significand :=
  digits.foldl (fun s c => s.pushWhole (Text.digitValue c)) ⟨0, 0, false⟩

/-- The significand with the digits behind the point. -/
def withFraction (s : Significand) (digits : List Char) : Significand :=
  digits.foldl (fun s c => s.pushFraction (Text.digitValue c)) { s with full := false }

end Significand

/-- A magnitude times a power of ten, in steps of at most 10^308; nothing if it is
out of range. -/
def scale? (x : Magnitude) (exponent : Int) : Option Magnitude :=
  if exponent.natAbs ≤ 308 then do
    let power ← Magnitude.ofNat? (Nat.pow 10 exponent.natAbs)
    if 0 ≤ exponent then x.mul? power else x.div? power
  else if x.mantissa = 0 then some x
  else if 0 ≤ exponent then none
  else do
    let power ← Magnitude.ofNat? (Nat.pow 10 308)
    let y ← x.div? power
    scale? y (exponent + 308)
termination_by exponent.natAbs
decreasing_by omega

/-- The double of a significand and a power of ten. -/
def double? (negative : Bool) (value : Nat) (exponent : Int) : Option Double := do
  let whole ← Magnitude.ofNat? value
  let size ← scale? whole exponent
  return ⟨negative, size⟩

/-- The number of whole digits alone. -/
def wholeNumber? (negative : Bool) (s : Significand) : Option Number :=
  if s.full then (double? negative s.value s.exponent).map .double
  else if negative then
    if 0 < s.value ∧ s.value ≤ Nat.pow 2 63 then some (.negative s.value)
    else (double? true s.value 0).map .double
  else some (.natural s.value)

/-- Greatest exponent that is counted. -/
def exponentLimit : Nat := Nat.pow 2 31

/-- Reads the digits of an exponent with the value so far.  An exponent beyond 32
bits is out of range when it is positive and the number is not zero, and makes the
number zero otherwise. -/
def readExponentDigits (negative positiveExponent : Bool) (s : Significand) :
    List Char → Nat → Cursor → Except Failure (Number × Cursor)
  | [], value, c =>
      let exponent := if positiveExponent then s.exponent + value else s.exponent - value
      match double? negative s.value exponent with
      | some x => .ok (.double x, c)
      | none => Failure.atHere .numberOutOfRange c
  | ch :: more, value, c =>
      let value := value * 10 + Text.digitValue ch
      if value < exponentLimit then
        readExponentDigits negative positiveExponent s more value c.advance
      else if s.value ≠ 0 ∧ positiveExponent then
        Failure.atHere .numberOutOfRange c.advance
      else .ok (.double ⟨negative, Magnitude.zero⟩, c.skipDigits)

/-- Reads an exponent behind its letter. -/
def readExponent (negative : Bool) (s : Significand) (c : Cursor) :
    Except Failure (Number × Cursor) :=
  let positive := c.rest.head? != some '-'
  let c := if c.rest.head? = some '+' ∨ c.rest.head? = some '-' then c.advance else c
  match c.rest with
  | [] => Failure.atHere .endInValue c
  | ch :: _ =>
      if ch.isDigit then
        readExponentDigits negative positive s (c.rest.takeWhile Char.isDigit) 0 c
      else Failure.atNext .invalidNumber c

/-- Whether a character starts an exponent. -/
def isExponentLetter (ch : Char) : Bool := ch = 'e' || ch = 'E'

/-- Reads what follows the digits of a number with a fraction or an exponent. -/
def readScale (negative : Bool) (s : Significand) (c : Cursor) :
    Except Failure (Number × Cursor) :=
  if c.rest.head?.any isExponentLetter then readExponent negative s c.advance
  else
    match double? negative s.value s.exponent with
    | some x => .ok (.double x, c)
    | none => Failure.atHere .numberOutOfRange c

/-- Reads what follows the whole digits of a number. -/
def readAfterWhole (negative : Bool) (s : Significand) (c : Cursor) :
    Except Failure (Number × Cursor) :=
  match c.rest with
  | '.' :: _ =>
      let c := c.advance
      let digits := c.rest.takeWhile Char.isDigit
      if digits.isEmpty then
        Failure.atNext (if c.rest.isEmpty then .endInValue else .invalidNumber) c
      else readScale negative (s.withFraction digits) c.skipDigits
  | _ =>
      if c.rest.head?.any isExponentLetter then readScale negative s c
      else
        match wholeNumber? negative s with
        | some n => .ok (n, c)
        | none => Failure.atHere .numberOutOfRange c

/-- Reads a number behind its sign. -/
def readUnsigned (negative : Bool) (c : Cursor) : Except Failure (Number × Cursor) :=
  match c.rest with
  | [] => Failure.atHere .endInValue c
  | '0' :: rest =>
      if rest.head?.any Char.isDigit then Failure.atNext .invalidNumber c.advance
      else readAfterWhole negative (Significand.ofWhole ['0']) c.advance
  | ch :: _ =>
      if ch.isDigit then
        readAfterWhole negative (Significand.ofWhole (c.rest.takeWhile Char.isDigit))
          c.skipDigits
      else Failure.atNext .invalidNumber c

/-- Reads a number at its sign or first digit. -/
def readNumber (c : Cursor) : Except Failure (Number × Cursor) :=
  match c.rest with
  | '-' :: _ => readUnsigned true c.advance
  | _ => readUnsigned false c

/-- Steps over the digits of a number part that needs at least one. -/
def skipSomeDigits (c : Cursor) : Except Failure Cursor :=
  if c.rest.head?.any Char.isDigit then .ok c.skipDigits
  else Failure.atNext .invalidNumber c

/-- Steps over a number of any size at its sign or first digit. -/
def skipNumber (c : Cursor) : Except Failure (Unit × Cursor) := do
  let c := if c.rest.head? = some '-' then c.advance else c
  let c ←
    match c.rest with
    | '0' :: rest =>
        if rest.head?.any Char.isDigit then Failure.atNext .invalidNumber c.advance
        else .ok c.advance
    | _ => skipSomeDigits c
  let c ← if c.rest.head? = some '.' then skipSomeDigits c.advance else .ok c
  if c.rest.head?.any isExponentLetter then
    let c := c.advance
    let c := if c.rest.head? = some '+' ∨ c.rest.head? = some '-' then c.advance else c
    let c ← skipSomeDigits c
    return ((), c)
  else return ((), c)

end Json
end Gatehouse
