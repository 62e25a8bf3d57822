import Gatehouse.Text.Mark
import Gatehouse.Text.Split
import Gatehouse.Token.Base64
import Gatehouse.Token.Der

/-!
# Key files

A key file frames a key between two lines that name its kind.  Whatever stands in front
of the frame is ignored, lines with a colon may head the key, and a blank line ends
those.  A key of a general kind has to name its algorithm first.

Main results:

- Definition {lit}`rsaKey?`: the bytes of the RSA key in a key file.

Current gaps:

- What is wrong with a key file is not told.
-/

namespace Gatehouse
namespace KeyFile

/-! ## Frames -/

/-- A framed text: its kind and its bytes. -/
structure Frame where
  kind : String
  content : List UInt8
deriving DecidableEq, Repr

/-- Whether a character is a blank between the frame and the key. -/
def isFrameBlank (c : Char) : Bool := c = ' ' || c = '\t' || c = '\n' || c = '\r'

/-- The lines of a text without what ends them. -/
def lines (text : List Char) : List (List Char) :=
  let parts := Text.splitList '\n' text
  let parts := if parts.getLast? = some [] then parts.dropLast else parts
  parts.map fun line => if line.getLast? = some '\r' then line.dropLast else line

/-- The heading of a body and the key behind it. -/
def parts (body : List Char) : List Char × List Char :=
  match Text.cutAt ['\n', '\n'] body with
  | some (heading, rest) => (heading, rest)
  | none =>
      match Text.cutAt ['\r', '\n', '\r', '\n'] body with
      | some (heading, rest) => (heading, rest)
      | none => ([], body)

/-- The first frame of a text. -/
def frame? (text : List Char) : Option Frame := do
  let (_, rest) ← Text.cutAt "-----BEGIN ".toList text
  let (kind, rest) ← Text.cutAt "-----".toList rest
  let (body, rest) ← Text.cutAt "-----END ".toList (rest.dropWhile isFrameBlank)
  let (closing, _) ← Text.cutAt "-----".toList rest
  if kind.isEmpty ∨ kind ≠ closing then none
  else
    let (heading, key) := parts body
    let content ← Base64.decodeFilled? ((lines key).flatMap Text.trimEndList)
    if (lines heading).all (·.contains ':') then some ⟨String.ofList kind, content⟩ else none

/-! ## Keys -/

/-- The algorithms that a general key may name. -/
inductive Algorithm where
  | ellipticCurve
  | rsa
  | edwards
deriving DecidableEq, Repr

/-- The algorithm of an identifier. -/
def Algorithm.ofArcs? (arcs : List Nat) : Option Algorithm :=
  if arcs = [1, 2, 840, 10045, 2, 1] then some ellipticCurve
  else if arcs = [1, 2, 840, 113549, 1, 1, 1] then some rsa
  else if arcs = [1, 3, 101, 112] then some edwards
  else none

mutual

/-- The first algorithm that a block names. -/
def algorithmIn : Der.Block → Option Algorithm
  | .sequence items => firstAlgorithm items
  | .identifier arcs => Algorithm.ofArcs? arcs
  | _ => none

/-- The first algorithm that blocks name. -/
def firstAlgorithm : List Der.Block → Option Algorithm
  | [] => none
  | block :: blocks => (algorithmIn block).orElse fun () => firstAlgorithm blocks

end

mutual

/-- The first string of bits or octets in a block. -/
def stringIn : Der.Block → Option (List UInt8)
  | .sequence items => firstString items
  | .bits body => some body
  | .octets body => some body
  | _ => none

/-- The first string of bits or octets in blocks. -/
def firstString : List Der.Block → Option (List UInt8)
  | [] => none
  | block :: blocks => (stringIn block).orElse fun () => firstString blocks

end

/-- The bytes of the RSA key in a key file. -/
def rsaKey? (text : List Char) : Option (List UInt8) := do
  let frame ← frame? text
  let blocks ← Der.blocks? frame.content
  match frame.kind with
  | "RSA PRIVATE KEY" | "RSA PUBLIC KEY" => some frame.content
  | "PRIVATE KEY" | "PUBLIC KEY" | "CERTIFICATE" =>
      if firstAlgorithm blocks = some .rsa then firstString blocks else none
  | _ => none

end KeyFile
end Gatehouse
