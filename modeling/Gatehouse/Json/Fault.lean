import Gatehouse.Json.Value
import Gatehouse.Text.Quoted

/-!
# Faults of JSON texts

A text that is no JSON, ends early, or holds a value of another shape than the one
asked for is refused with a cause and, where the fault lies in the text itself, the
position at which it was noticed.  Positions count lines from one and bytes of the
line from zero.
-/

namespace Gatehouse
namespace Json

/-- A place in a text. -/
structure Position where
  line : Nat
  /-- Number of bytes of the line before the place. -/
  column : Nat
deriving DecidableEq, Repr, Inhabited

/-- What was found where something else was expected. -/
inductive Found where
  | null
  | boolean (b : Bool)
  | number (n : Number)
  | text (s : String)
  | sequence
  | map
deriving Repr, Inhabited, DecidableEq

/-- A well-formed value of the wrong shape. -/
inductive Mismatch where
  /-- A value of another kind than expected. -/
  | invalidType (found : Found) (expected : String)
  /-- A value of the right kind that is out of range. -/
  | invalidValue (found : Found) (expected : String)
  /-- A sequence with too few or too many elements. -/
  | invalidLength (length : Nat) (expected : String)
  | unknownVariant (name : String) (expected : List String)
  | missingField (name : String)
  | duplicateField (name : String)
  /-- A text that is no value of the format that the field holds. -/
  | invalidFormat (detail : String)
deriving Repr, Inhabited, DecidableEq

/-- The cause of a fault. -/
inductive Cause where
  | endInList
  | endInObject
  | endInString
  | endInValue
  | expectedColon
  | expectedListCommaOrEnd
  | expectedObjectCommaOrEnd
  | expectedIdent
  | expectedValue
  | invalidEscape
  | invalidNumber
  | numberOutOfRange
  | controlCharacter
  | keyMustBeText
  | loneSurrogate
  | unfinishedSurrogatePair
  | trailingComma
  | trailingCharacters
  /-- More containers inside each other than the limit. -/
  | nestedTooDeep
  | mismatch (m : Mismatch)
deriving Repr, Inhabited, DecidableEq

/-- The three kinds of faults. -/
inductive Category where
  /-- The text ended early. -/
  | endOfText
  /-- The text is no JSON, or no form of the value asked for. -/
  | form
  /-- The text is JSON of another shape. -/
  | shape
deriving DecidableEq, Repr

/-- A refused text. -/
structure Fault where
  cause : Cause
  /-- Where the fault was noticed, if it lies in the text. -/
  position : Option Position
deriving Repr, Inhabited, DecidableEq

/-- The kind of a fault. -/
def Cause.category : Cause → Category
  | endInList | endInObject | endInString | endInValue => .endOfText
  | mismatch _ => .shape
  | _ => .form

/-- The words for what was found. -/
def Found.describe : Found → String
  | null => "null"
  | boolean b => "boolean `" ++ (if b then "true" else "false") ++ "`"
  | number (.double x) => "floating point `" ++ x.write Number.doubleStyle ++ "`"
  | number n => "integer `" ++ String.ofList n.chars ++ "`"
  | text s => "string " ++ Text.quoted s
  | sequence => "sequence"
  | map => "map"

/-- A name between grave accents. -/
def ticked (name : String) : String := "`" ++ name ++ "`"

/-- The words for a choice of names. -/
def describeChoice : List String → String
  | [] => "there are no variants"
  | [a] => "expected " ++ ticked a
  | [a, b] => "expected " ++ ticked a ++ " or " ++ ticked b
  | names => "expected one of " ++ ", ".intercalate (names.map ticked)

/-- What is reported about a value of the wrong shape. -/
def Mismatch.message : Mismatch → String
  | invalidType found expected =>
      "invalid type: " ++ found.describe ++ ", expected " ++ expected
  | invalidValue found expected =>
      "invalid value: " ++ found.describe ++ ", expected " ++ expected
  | invalidLength length expected =>
      "invalid length " ++ Text.decimal length ++ ", expected " ++ expected
  | unknownVariant name expected =>
      "unknown variant " ++ ticked name ++ ", " ++ describeChoice expected
  | missingField name => "missing field " ++ ticked name
  | duplicateField name => "duplicate field " ++ ticked name
  | invalidFormat detail => detail

/-- What is reported about a cause. -/
def Cause.message : Cause → String
  | endInList => "EOF while parsing a list"
  | endInObject => "EOF while parsing an object"
  | endInString => "EOF while parsing a string"
  | endInValue => "EOF while parsing a value"
  | expectedColon => "expected `:`"
  | expectedListCommaOrEnd => "expected `,` or `]`"
  | expectedObjectCommaOrEnd => "expected `,` or `\x7d`"
  | expectedIdent => "expected ident"
  | expectedValue => "expected value"
  | invalidEscape => "invalid escape"
  | invalidNumber => "invalid number"
  | numberOutOfRange => "number out of range"
  | controlCharacter =>
      "control character (\\u0000-\\u001F) found while parsing a string"
  | keyMustBeText => "key must be a string"
  | loneSurrogate => "lone leading surrogate in hex escape"
  | unfinishedSurrogatePair => "unexpected end of hex escape"
  | trailingComma => "trailing comma"
  | trailingCharacters => "trailing characters"
  | nestedTooDeep => "recursion limit exceeded"
  | mismatch m => m.message

/-- What is reported about a refused text. -/
def Fault.message (fault : Fault) : String :=
  match fault.position with
  | none => fault.cause.message
  | some p =>
      fault.cause.message ++ " at line " ++ Text.decimal p.line ++ " column " ++
        Text.decimal p.column

end Json
end Gatehouse
