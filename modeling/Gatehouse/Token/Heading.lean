import Gatehouse.Json.Container
import Gatehouse.Token.Base64

/-!
# The heading of a token

A token starts with an object that names the algorithm of its signature.  The fields
that have a meaning stand at most once and have their kind; every other field is a
string.  A part of a token is bytes, and stray bytes matter only where they are read.

Main results:

- Definition {lit}`algorithm?`: the algorithm that a well-formed heading names.

Current gaps:

- The position of a fault in a part with stray bytes is not that of the part.  Faults of
  parts are not told by their positions.
-/

namespace Gatehouse

/-- The algorithms of signatures. -/
inductive SigningAlgorithm where
  | hs256 | hs384 | hs512
  | es256 | es384
  | rs256 | rs384 | rs512
  | ps256 | ps384 | ps512
  | edDsa
deriving DecidableEq, Repr

namespace SigningAlgorithm

/-- The algorithm of a name. -/
def ofName? : String → Option SigningAlgorithm
  | "HS256" => some hs256
  | "HS384" => some hs384
  | "HS512" => some hs512
  | "ES256" => some es256
  | "ES384" => some es384
  | "RS256" => some rs256
  | "RS384" => some rs384
  | "RS512" => some rs512
  | "PS256" => some ps256
  | "PS384" => some ps384
  | "PS512" => some ps512
  | "EdDSA" => some edDsa
  | _ => none

end SigningAlgorithm

namespace TokenHeading

open Json (Value)

/-- The members of an object in the order of the text. -/
abbrev Members := List (String × Value)

/-- Whether a value is a string. -/
def isText : Value → Bool
  | .string _ => true
  | _ => false

/-- Whether a value is a string or null. -/
def isOptionalText : Value → Bool
  | .null => true
  | v => isText v

/-- Whether a value is a list of strings or null. -/
def isOptionalTexts : Value → Bool
  | .null => true
  | .array items => items.all isText
  | _ => false

/-- The name that a value chooses, alone or as the key of an object with null. -/
def choice? : Value → Option String
  | .string name => some name
  | .object [(name, .null)] => some name
  | _ => none

/-- Whether a member stands at most once and passes the test. -/
def optional (members : Members) (name : String) (test : Value → Bool) : Bool :=
  match members.filter (·.1 == name) with
  | [] => true
  | [(_, v)] => test v
  | _ => false

/-- Whether a member stands exactly once and passes the test. -/
def required (members : Members) (name : String) (test : Value → Bool) : Bool :=
  (members.any (·.1 == name)) && optional members name test

/-! ## Embedded keys -/

/-- Whether a value chooses one of some names. -/
def chooses (names : List String) (v : Value) : Bool :=
  match choice? v with
  | some name => names.contains name
  | none => false

/-- The curves of keys. -/
def curves : List String := ["P-256", "P-384", "P-521", "Ed25519"]

/-- The fields that keys of all kinds share. -/
def sharedKeyFields : List (String × (Value → Bool)) :=
  [("use", isOptionalText), ("key_ops", isOptionalTexts),
    ("alg", fun v => v matches .null || (choice? v).isSome), ("kid", isOptionalText),
    ("x5u", isOptionalText), ("x5c", isOptionalTexts), ("x5t", isOptionalText),
    ("x5t#S256", isOptionalText)]

/-- Whether members are a key of one of the four kinds. -/
def isKeyKind (members : Members) : Bool :=
  let kind (name : String) := required members "kty" (chooses [name])
  (kind "EC" && required members "crv" (chooses curves) && required members "x" isText &&
      required members "y" isText) ||
    (kind "RSA" && required members "n" isText && required members "e" isText) ||
    (kind "oct" && required members "k" isText) ||
    (kind "OKP" && required members "crv" (chooses curves) && required members "x" isText)

/-- Whether a value is an embedded key or null. -/
def isOptionalKey : Value → Bool
  | .null => true
  | .object members =>
      sharedKeyFields.all (fun field => optional members field.1 field.2) && isKeyKind members
  | _ => false

/-! ## Headings -/

/-- The fields that have a meaning, the algorithm apart. -/
def knownFields : List (String × (Value → Bool)) :=
  [("typ", isOptionalText), ("cty", isOptionalText), ("jku", isOptionalText),
    ("jwk", isOptionalKey), ("kid", isOptionalText), ("x5u", isOptionalText),
    ("x5c", isOptionalTexts), ("x5t", isOptionalText), ("x5t#S256", isOptionalText),
    ("crit", isOptionalTexts), ("enc", isOptionalText), ("zip", isOptionalText),
    ("url", isOptionalText), ("nonce", isOptionalText)]

/-- Whether a field has a meaning. -/
def isKnown (name : String) : Bool :=
  name == "alg" || knownFields.any (·.1 == name)

/-- The algorithm that a well-formed heading names. -/
def algorithm? (members : Members) : Option SigningAlgorithm := do
  let wellFormed := knownFields.all (fun field => optional members field.1 field.2) &&
    members.all (fun member => isKnown member.1 || isText member.2)
  if !wellFormed then none
  else
    match members.filter (·.1 == "alg") with
    | [(_, v)] => SigningAlgorithm.ofName? (← choice? v)
    | _ => none

/-- The text of an encoded part of a token, which may hold stray bytes. -/
def partText? (part : List Char) : Option String :=
  (Base64.decode? part).map fun bytes => String.ofList (Json.ofBytes bytes)

/-- The algorithm that the first part of a token names. -/
def read? (part : List Char) : Option SigningAlgorithm := do
  let text ← partText? part
  match (Json.Reader.run (Value.read Json.nestingLimit) text.toList).toOption with
  | some (.object members) => algorithm? members
  | _ => none

/-- The heading of the tokens that are signed here. -/
def standard : String := "\x7b\"typ\":\"JWT\",\"alg\":\"RS256\"\x7d"

end TokenHeading
end Gatehouse
