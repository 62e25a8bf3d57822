import Gatehouse.Text.Ascii

/-!
# Media types

The type of a body is two names with a slash between them and perhaps parameters; the
second name may end in a suffix behind a plus sign.
-/

namespace Gatehouse

/-- A media type without its parameters, in lower case. -/
structure MediaType where
  kind : String
  subtype : String
  suffix : Option String
deriving DecidableEq, Repr

namespace MediaType

/-- A character of a name. -/
def isNameChar (c : Char) : Bool :=
  c.isAlphanum ||
    ['!', '#', '$', '%', '&', '\'', '*', '+', '-', '.', '^', '_', '\u0060', '|', '~'].contains c

/-- A character between quotes. -/
def isQuotedChar (c : Char) : Bool := 0x1F < c.toNat && c.toNat ≠ 0x7F

/-- What follows the closing quote of a value, whose first character may be anything. -/
def afterQuotes? : List Char → Option (List Char)
  | [] => none
  | first :: rest =>
      if isQuotedChar first then
        match rest.dropWhile fun c => isQuotedChar c && c != '"' with
        | '"' :: rest => some rest
        | _ => none
      else none

/-- Whether the text behind a semicolon is a list of parameters, perhaps an empty one,
with fuel for their number. -/
def areParameters : Nat → List Char → Bool
  | 0, _ => false
  | fuel + 1, cs =>
      let cs := cs.dropWhile (· = ' ')
      let name := cs.takeWhile isNameChar
      match cs.drop name.length with
      | [] => name.isEmpty
      | '=' :: '"' :: rest =>
          !name.isEmpty &&
            (match (afterQuotes? rest).map (List.dropWhile (· = ' ')) with
              | some [] => true
              | some (';' :: rest) => areParameters fuel rest
              | _ => false)
      | '=' :: rest =>
          let value := rest.takeWhile isNameChar
          !name.isEmpty &&
            (match rest.drop value.length with
              | [] => true
              | ';' :: rest => !value.isEmpty && areParameters fuel rest
              | _ => false)
      | _ => false

/-- A name and its suffix: what stands behind the last plus sign that is not the
first character. -/
def splitSuffix (name : List Char) : List Char × Option (List Char) :=
  let suffix := (name.reverse.takeWhile (· ≠ '+')).reverse
  let front := name.take (name.length - suffix.length - 1)
  if front.isEmpty then (name, none) else (front, some suffix)

/-- The media type of a text. -/
def parse? (text : String) : Option MediaType :=
  let cs := text.toList
  let kind := cs.takeWhile isNameChar
  match cs.drop kind.length with
  | '/' :: rest =>
      let name := rest.takeWhile isNameChar
      let proper := !kind.isEmpty && !name.isEmpty &&
        (match rest.drop name.length with
          | [] => true
          | ';' :: rest => areParameters (rest.length + 1) rest
          | _ => false)
      if proper then
        let (subtype, suffix) := splitSuffix name
        let lower (cs : List Char) := Text.lower (String.ofList cs)
        some ⟨lower kind, lower subtype, suffix.map lower⟩
      else none
  | _ => none

/-- Whether a media type is JSON. -/
def isJson (t : MediaType) : Bool :=
  t.kind == "application" && (t.subtype == "json" || t.suffix == some "json")

end MediaType
end Gatehouse
