import Gatehouse.Toml.Scalar

/-!
# Configuration documents

A document is lines of keys and values under headings of tables.  A table is built from
its heading, from keys with dots, or as the way to another table; how it came about
decides what may still be added to it.

Main results:

- Theorem {lit}`Tree.put_nil`: a key without dots goes into the table itself, once.
-/

namespace Gatehouse
namespace Toml

/-- How a table came about. -/
inductive Origin where
  /-- It has a heading. -/
  | heading
  /-- It is on the way to a table with a heading. -/
  | way
  /-- It is on the way of a key with dots. -/
  | dots
deriving DecidableEq, Repr

/-- What stands under a key while a document is read. -/
inductive Tree where
  | value (v : Value)
  | table (origin : Origin) (members : List (String × Tree))
  /-- Tables that share a heading, the last one first. -/
  | tables (items : List (List (String × Tree)))
deriving Inhabited

/-- The members of a table while a document is read. -/
abbrev Branches := List (String × Tree)

namespace Tree

/-- Changes what stands under a key. -/
def update (key : String) (change : Option Tree → Option Tree) : Branches → Option Branches
  | [] => (change none).map fun tree => [(key, tree)]
  | (name, tree) :: branches =>
      if name = key then (change (some tree)).map fun tree => (name, tree) :: branches
      else (update key change branches).map fun branches => (name, tree) :: branches

/-- Puts a value under a key with dots.  The tables on the way have come about by dots
themselves. -/
def put (name : String) (v : Value) : List String → Branches → Option Branches
  | [], branches =>
      update name (fun
        | none => some (.value v)
        | some _ => none) branches
  | key :: keys, branches =>
      update key (fun
        | none => (put name v keys []).map (.table .dots)
        | some (.table origin members) =>
            if origin = .heading ∨ (keys = [] ∧ origin ≠ .dots) then none
            else (put name v keys members).map (.table origin)
        | some (.tables (last :: items)) =>
            if keys = [] then none
            else (put name v keys last).map fun last => .tables (last :: items)
        | some _ => none) branches

/-- Changes what stands under a key at the end of a way of tables. -/
def updateAt (name : String) (change : Option Tree → Option Tree) :
    List String → Branches → Option Branches
  | [], branches => update name change branches
  | key :: keys, branches =>
      update key (fun
        | none => (updateAt name change keys []).map (.table .way)
        | some (.table origin members) => (updateAt name change keys members).map (.table origin)
        | some (.tables (last :: items)) =>
            (updateAt name change keys last).map fun last => .tables (last :: items)
        | some _ => none) branches

mutual

/-- The value of a finished tree. -/
def toValue : Tree → Value
  | .value v => v
  | .table _ members => .table (toMembers members)
  | .tables items => .array (toTables items [])

/-- The members of a finished table. -/
def toMembers : List (String × Tree) → Members
  | [] => []
  | (key, tree) :: branches => (key, toValue tree) :: toMembers branches

/-- Finished tables in the order of the document. -/
def toTables : List (List (String × Tree)) → List Value → List Value
  | [], done => done
  | members :: items, done => toTables items (.table (toMembers members) :: done)

end

/-- A key without dots goes into the table itself, once. -/
theorem put_nil (name : String) (v : Value) (branches : Branches) :
    put name v [] branches =
      update name (fun | none => some (.value v) | some _ => none) branches := by
  simp [put]

end Tree

/-! ## Values -/

/-- Reads the items of a list behind its bracket, with fuel for their number. -/
def readItems (value : Reader Value) : Nat → Reader (List Value)
  | 0, _ => none
  | fuel + 1, cs => do
      let rest ← skipLines cs
      match rest with
      | ']' :: rest => return ([], rest)
      | _ =>
          let (item, rest) ← value rest
          match ← skipLines rest with
          | ',' :: rest =>
              let (items, rest) ← readItems value fuel rest
              return (item :: items, rest)
          | ']' :: rest => return ([item], rest)
          | _ => none

/-- Reads a key, an equals sign and a value. -/
def readMember (value : Reader Value) (cs : List Char) : Option ((Path × Value) × List Char) := do
  let (path, rest) ← readPath cs
  match rest with
  | '=' :: rest =>
      let (v, rest) ← value (skipBlanks rest)
      return ((path, v), rest)
  | _ => none

/-- Reads the members of a table in braces, with fuel for their number. -/
def readInline (value : Reader Value) : Nat → Branches → Reader Branches
  | 0, _, _ => none
  | fuel + 1, branches, cs => do
      let ((path, v), rest) ← readMember value cs
      let branches ← Tree.put path.name v path.tables branches
      match skipBlanks rest with
      | ',' :: rest => readInline value fuel branches rest
      | '\x7d' :: rest => return (branches, rest)
      | _ => none

/-- Reads a value inside fewer than so many lists and tables. -/
def readValue : Nat → Reader Value
  | 0, _ => none
  | depth + 1, cs =>
      match cs with
      | '[' :: rest =>
          if depth = 0 then none
          else do
            let (items, rest) ← readItems (readValue depth) (rest.length + 1) rest
            return (.array items, rest)
      | '\x7b' :: rest =>
          if depth = 0 then none
          else
            match skipBlanks rest with
            | '\x7d' :: rest => some (.table [], rest)
            | _ => do
                let (branches, rest) ← readInline (readValue depth) (rest.length + 1) [] rest
                return (.table (Tree.toMembers branches), rest)
      | _ => readScalar cs

/-! ## Sections -/

/-- The heading of a section. -/
inductive Heading where
  | table (path : Path)
  /-- A further one of the tables that share this heading. -/
  | item (path : Path)

/-- Reads a heading at its bracket. -/
def readHeading : Reader Heading
  | '[' :: '[' :: rest => do
      let (path, rest) ← readPath rest
      match rest with
      | ']' :: ']' :: rest => return (.item path, rest)
      | _ => none
  | '[' :: rest => do
      let (path, rest) ← readPath rest
      match rest with
      | ']' :: rest => return (.table path, rest)
      | _ => none
  | _ => none

/-- The lines of keys and values under a heading, or at the start of the document. -/
structure Section where
  heading : Option Heading
  /-- The keys and values, the last one first. -/
  lines : List (Path × Value)

/-- Reads the lines of a document, with fuel for their number; the sections read so far
stand in reverse. -/
def readSections : Nat → Section → List Section → List Char → Option (List Section)
  | 0, _, _, _ => none
  | fuel + 1, current, done, cs =>
      match skipBlanks cs with
      | [] => some (current :: done).reverse
      | '#' :: rest => (endLine ('#' :: rest)).bind (readSections fuel current done)
      | '[' :: rest => do
          let (heading, rest) ← readHeading ('[' :: rest)
          readSections fuel ⟨some heading, []⟩ (current :: done) (← endLine rest)
      | rest =>
          match afterNewline? rest with
          | some rest => readSections fuel current done rest
          | none => do
              let (line, rest) ← readMember (readValue depthLimit) rest
              readSections fuel { current with lines := line :: current.lines } done
                (← endLine rest)

/-- Adds the lines of a section to the members of its table. -/
def Section.fill (s : Section) (members : Branches) : Option Branches :=
  s.lines.reverse.foldlM (fun members (path, v) => Tree.put path.name v path.tables members)
    members

/-- Adds a section to a document.  A table has one heading, though a table that was only
on the way to another may get its own later. -/
def Section.addTo (s : Section) (root : Branches) : Option Branches :=
  match s.heading with
  | none => s.fill root
  | some (.table path) =>
      Tree.updateAt path.name (fun
        | none => (s.fill []).map (.table .heading)
        | some (.table .way members) => (s.fill members).map (.table .heading)
        | some _ => none) path.tables root
  | some (.item path) =>
      Tree.updateAt path.name (fun
        | none => (s.fill []).map fun members => .tables [members]
        | some (.tables items) => (s.fill []).map fun members => .tables (members :: items)
        | some _ => none) path.tables root

/-- The table that a document is; a byte order mark at its start does not count. -/
def parse? (text : String) : Option Members := do
  let cs := match text.toList with
    | '\uFEFF' :: rest => rest
    | cs => cs
  let sections ← readSections (cs.length + 1) ⟨none, []⟩ [] cs
  return Tree.toMembers (← sections.foldlM (fun root s => s.addTo root) [])

end Toml
end Gatehouse
