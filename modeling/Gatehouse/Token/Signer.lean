import Gatehouse.Json.Value
import Gatehouse.Token.Heading
import Gatehouse.Token.KeyFile

/-!
# Signing tokens

A signed token is the heading, the payload and the signature over the two, each encoded,
with dots between them.

Main results:

- Definition {lit}`sign?`: the token of a payload under the key of a key file.
-/

namespace Gatehouse
namespace Signer

/-- A text as a part of a token. -/
def part (text : String) : List Char := Base64.encode (Text.utf8 text)

/-- The token of a payload under a private key, if the key is long enough. -/
def signWith? (key : Rsa.PrivateKey) (payload : Json.Value) : Option String := do
  let signed := part TokenHeading.standard ++ ['.'] ++ part payload.text
  let signature ← key.sign? (Text.utf8 (String.ofList signed))
  return String.ofList (signed ++ ['.'] ++ Base64.encode signature)

/-- The token of a payload under the key of a key file. -/
def sign? (keyText : String) (payload : Json.Value) : Option String := do
  signWith? (← Der.privateKey? (← KeyFile.rsaKey? keyText.toList)) payload

/-- How long a sample token is good for, in seconds. -/
def sampleLifetime : Nat := 3600

/-- Claims for someone in some groups, issued at a time and good until another. -/
def sampleClaims (sub : String) (groups : List String) (issued expiry : Nat) : Json.Value :=
  .object [("ad_groups", .array (groups.map .string)), ("exp", .number (.natural expiry)),
    ("iat", .number (.natural issued)), ("name", .string ("Test " ++ sub)),
    ("sub", .string sub)]

end Signer
end Gatehouse
