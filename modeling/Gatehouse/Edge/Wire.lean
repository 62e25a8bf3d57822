import Gatehouse.Edge.Message
import Gatehouse.Text.Blank
import Gatehouse.Text.Natural

/-!
# Messages as text

The head of a message is lines that end in a carriage return and a line feed: the
request or the status first, then a field in each line.

Main results:

- Theorem {lit}`field?_text`: a field without blanks around its value reads back.
-/

namespace Gatehouse
namespace Wire

/-- What ends a line. -/
def lineEnd : String := "\r\n"

/-- A field in a line. -/
def field? (line : List Char) : Option HeaderField := do
  let (name, value) ← Text.splitOnceList ':' line
  return HeaderField.ofText (String.ofList name) (String.ofList (Text.trimList value))

/-- A request by its lines, without its body. -/
def request? : List String → Option Request
  | [] => none
  | line :: fields => do
      match Text.splitOn ' ' line with
      | [method, target, _] =>
          return ⟨method, Target.ofText target, ← fields.mapM (field? ·.toList), ByteArray.empty⟩
      | _ => none

/-- The length of the body of a request. -/
def bodyLength (r : Request) : Nat :=
  match (r.headers.text? "content-length").map (Text.parseNatural (Nat.pow 2 64)) with
  | some (.ok n) => n
  | _ => 0

/-- The line of a field. -/
def fieldLine (f : HeaderField) : String :=
  f.name ++ ": " ++ String.ofList (f.value.map fun b => Char.ofNat b.toNat) ++ lineEnd

/-- The head of an answer. -/
def head (r : Response) : String :=
  "HTTP/1.1 " ++ Text.decimal r.status ++ " " ++ lineEnd ++
    String.join (r.headers.map fieldLine) ++ lineEnd

/-- A field without blanks around its value reads back. -/
theorem field?_text {name value : List Char} (hn : ':' ∉ name) (hv : Text.Trimmed value) :
    field? (name ++ ':' :: value) =
      some (HeaderField.ofText (String.ofList name) (String.ofList value)) := by
  have cut : Text.splitOnceList ':' (name ++ ':' :: value) = some (name, value) :=
    Text.splitOnceList_append hn value
  simp [field?, cut, Text.trimList_of_trimmed hv]

end Wire
end Gatehouse
