import Gatehouse.Edge.Header
import Gatehouse.Text.Split

/-!
# Requests and answers

A request names its target in one of several forms; what is looked at is its path, and
what is passed on is the text of its path and query.

Main results:

- Theorem {lit}`Response.all_correlate`: an answer is marked once.
-/

namespace Gatehouse

/-! ## Targets -/

/-- What a request is for. -/
inductive Target where
  /-- A path and a query as they stand. -/
  | place (text : String)
  /-- A host alone. -/
  | host
deriving DecidableEq, Repr

namespace Target

/-- The text behind the host of an address. -/
def afterHost (text : List Char) : List Char :=
  text.dropWhile fun c => c ≠ '/' && c ≠ '?'

/-- The rest of a text behind the mark of a scheme. -/
def afterScheme? : List Char → Option (List Char)
  | ':' :: '/' :: '/' :: rest => some rest
  | c :: rest => if c = '/' ∨ c = '?' then none else afterScheme? rest
  | [] => none

/-- The target of a request line. -/
def ofText (text : String) : Target :=
  let cs := text.toList.takeWhile (· ≠ '#')
  match cs with
  | '/' :: _ => .place (String.ofList cs)
  | ['*'] => .place "*"
  | _ =>
      match afterScheme? cs with
      | some rest =>
          match afterHost rest with
          | [] => .place "/"
          | rest => .place (String.ofList rest)
      | none => .host

/-- The path, which is never empty for a place. -/
def path : Target → String
  | place text =>
      match text.toList.takeWhile (· ≠ '?') with
      | [] => "/"
      | path => String.ofList path
  | host => ""

/-- The query. -/
def query? : Target → Option String
  | place text => (Text.splitOnce '?' text).map (·.2)
  | host => none

/-- What is passed on: the path and query as they stand, or the root. -/
def passedOn : Target → String
  | place text => text
  | host => "/"

end Target

/-! ## Messages -/

/-- A request. -/
structure Request where
  method : String
  target : Target
  headers : Headers
  body : ByteArray

/-- An answer. -/
structure Response where
  status : Nat
  headers : Headers
  body : ByteArray
  /-- Whether the body is passed on as it comes, so that its length is not known. -/
  streamed : Bool

namespace Response

/-- An answer with a text of some type. -/
def ofText (status : Nat) (type text : String) : Response :=
  ⟨status, [HeaderField.ofText "content-type" type], text.toUTF8, false⟩

/-- The type of JSON texts. -/
def jsonType : String := "application/json"

/-- The type of plain texts. -/
def plainType : String := "text/plain; charset=utf-8"

/-- An answer without a body. -/
def empty (status : Nat) : Response := ⟨status, [], ByteArray.empty, false⟩

/-- Marks an answer with a correlation id, in place of all marks that it has. -/
def correlate (field id : String) (r : Response) : Response :=
  { r with headers := r.headers.put field (Text.utf8 id) }

/-- Adds a field unless there is one of its name. -/
def supply (name text : String) (r : Response) : Response :=
  if (r.headers.all name).isEmpty then
    { r with headers := r.headers ++ [HeaderField.ofText name text] }
  else r

@[simp]
theorem supply_status (name text : String) (r : Response) :
    (r.supply name text).status = r.status := by
  unfold supply
  split <;> rfl

/-- Adding a field keeps the values of every other name. -/
theorem all_supply_of_ne {name other : String} (h : other ≠ Text.lower name) (text : String)
    (r : Response) : (r.supply name text).headers.all other = r.headers.all other := by
  unfold supply
  split
  · rw [Headers.all_append]
    simp [Headers.all, HeaderField.ofText, HeaderField.ofBytes, Ne.symm h]
  · rfl

/-- Completes an answer to a request: the methods that its path allows, if it needs
another one, and the length of the body, which is left out when only the header was
asked for. -/
def complete (method : String) (allowed : List String) (r : Response) : Response :=
  let r := if allowed.isEmpty then r else r.supply "allow" (",".intercalate allowed)
  let r := if r.streamed then r else r.supply "content-length" (Text.decimal r.body.size)
  if method == "HEAD" then { r with body := ByteArray.empty } else r

@[simp]
theorem correlate_status (field id : String) (r : Response) :
    (r.correlate field id).status = r.status := rfl

/-- An answer keeps its status when it is completed. -/
@[simp]
theorem complete_status (method : String) (allowed : List String) (r : Response) :
    (r.complete method allowed).status = r.status := by
  have hsupplied : ∀ r : Response,
      (if r.streamed then r
        else r.supply "content-length" (Text.decimal r.body.size)).status = r.status := by
    intro r
    split <;> simp
  unfold complete
  dsimp only
  split <;> rw [hsupplied] <;> split <;> simp

/-- Completing an answer touches the fields for the methods and for the length alone. -/
theorem all_complete_of_ne {other : String} (hallow : other ≠ "allow")
    (hlength : other ≠ "content-length") (method : String) (allowed : List String)
    (r : Response) : (r.complete method allowed).headers.all other = r.headers.all other := by
  have hmethods : Text.lower "allow" = "allow" := by decide
  have hsize : Text.lower "content-length" = "content-length" := by decide
  have hsupplied : ∀ r : Response,
      (if r.streamed then r
        else r.supply "content-length" (Text.decimal r.body.size)).headers.all other =
        r.headers.all other := by
    intro r
    split
    · rfl
    · exact all_supply_of_ne (hsize ▸ hlength) _ r
  unfold complete
  dsimp only
  split <;> rw [hsupplied] <;> split
  · rfl
  · exact all_supply_of_ne (hmethods ▸ hallow) _ r
  · rfl
  · exact all_supply_of_ne (hmethods ▸ hallow) _ r

/-- Marking an answer keeps the values of every other name. -/
theorem all_correlate_of_ne {field other : String} (h : other ≠ field) (id : String)
    (r : Response) : (r.correlate field id).headers.all other = r.headers.all other :=
  Headers.all_put_of_ne r.headers h _

/-- An answer is marked once. -/
theorem all_correlate (field id : String) (r : Response) :
    (r.correlate field id).headers.all field = [Text.utf8 id] := by
  simp [correlate, Headers.put, Headers.all, Headers.without, List.filter_append,
    List.filter_filter]

end Response
end Gatehouse
