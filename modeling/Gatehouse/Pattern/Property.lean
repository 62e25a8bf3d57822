import Gatehouse.Pattern.Age
import Gatehouse.Pattern.Script
import Gatehouse.Pattern.Segment
import Gatehouse.Pattern.Trait
import Gatehouse.Text.Ascii

/-!
# Properties of characters by name

A pattern names a set of characters by a trait, a category or a script.  Names are
matched loosely: case, blanks, hyphens, underscores and a leading "is" do not count.
-/

namespace Gatehouse
namespace Property

/-- A name as it is matched. -/
def looseName (name : List Char) : String :=
  let kept (cs : List Char) : List Char :=
    (cs.filter fun c => c.toNat < 0x80 && c != ' ' && c != '_' && c != '-').map Char.toLower
  match name with
  | i :: s :: rest =>
      if i.toLower = 'i' && s.toLower = 's' then
        let rest := kept rest
        String.ofList (if rest = ['c'] then ['i', 's', 'c'] else rest)
      else String.ofList (kept name)
  | _ => String.ofList (kept name)

/-- The characters of the property with this name.  Three names belong to a category
although there are traits of that name. -/
def find? (name : List Char) : Option CharSet :=
  let name := looseName name
  let trait := if name ∈ ["cf", "sc", "lc"] then none else Trait.find? name
  trait.orElse fun _ => (Category.find? name).orElse fun _ => Script.find? name

/-- The characters with this value of a property of several values. -/
def findValue? (name value : List Char) : Option CharSet :=
  let name := looseName name
  let value := looseName value
  if name ∈ ["gc", "generalcategory"] then Category.find? value
  else if name ∈ ["sc", "script"] then Script.find? value
  else if name ∈ ["scx", "scriptextensions"] then Script.used? value
  else if name = "age" then Age.find? value
  else if name ∈ ["gcb", "graphemeclusterbreak"] then Segment.grapheme? value
  else if name ∈ ["wb", "wordbreak"] then Segment.word? value
  else if name ∈ ["sb", "sentencebreak"] then Segment.sentence? value
  else none

/-- The decimal digits. -/
def digits : CharSet := Category.listed ["nd"]

/-- The white space. -/
def blanks : CharSet := (Trait.find? "whitespace").getD .empty

/-- The characters that make up words: letters, marks, digits, connectors and joiners. -/
def wordLetters : CharSet :=
  let named (name : String) : CharSet := (Trait.find? name).getD .empty
  ((named "alphabetic").union (Category.listed ["mn", "mc", "me", "nd", "pc"])).union
    (named "joincontrol")

/-- The letters, with what counts as such. -/
def letters : CharSet := (Trait.find? "alphabetic").getD .empty

/-- The letters and the characters with a numeric value in a script. -/
def lettersAndNumbers : CharSet := letters.union (Category.listed ["nd", "nl", "no"])

/-- The ASCII characters that make up words. -/
def asciiWordLetters : CharSet := ⟨[(0x30, 0x39), (0x41, 0x5A), (0x5F, 0x5F), (0x61, 0x7A)]⟩

/-- The ASCII characters of the class with this name. -/
def asciiClass? (name : String) : Option CharSet :=
  match name with
  | "alnum" => some ⟨[(0x30, 0x39), (0x41, 0x5A), (0x61, 0x7A)]⟩
  | "alpha" => some ⟨[(0x41, 0x5A), (0x61, 0x7A)]⟩
  | "ascii" => some ⟨[(0, 0x7F)]⟩
  | "blank" => some ⟨[(0x09, 0x09), (0x20, 0x20)]⟩
  | "cntrl" => some ⟨[(0, 0x1F), (0x7F, 0x7F)]⟩
  | "digit" => some ⟨[(0x30, 0x39)]⟩
  | "graph" => some ⟨[(0x21, 0x7E)]⟩
  | "lower" => some ⟨[(0x61, 0x7A)]⟩
  | "print" => some ⟨[(0x20, 0x7E)]⟩
  | "punct" => some ⟨[(0x21, 0x2F), (0x3A, 0x40), (0x5B, 0x60), (0x7B, 0x7E)]⟩
  | "space" => some ⟨[(0x09, 0x0D), (0x20, 0x20)]⟩
  | "upper" => some ⟨[(0x41, 0x5A)]⟩
  | "word" => some asciiWordLetters
  | "xdigit" => some ⟨[(0x30, 0x39), (0x41, 0x46), (0x61, 0x66)]⟩
  | _ => none

end Property
end Gatehouse
