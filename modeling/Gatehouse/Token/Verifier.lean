import Gatehouse.Role.Mapping
import Gatehouse.Role.Permission
import Gatehouse.Token.Heading
import Gatehouse.Token.KeyFile
import Gatehouse.Token.Validity

/-!
# Verifying tokens

A token is three parts with dots between them: a heading, a payload and a signature over
the two.  A verifier checks the heading, the signature, the claims and their use, in
that order, and the first check that fails is the answer.  What the signature check is
and what time it is are parameters.

Main results:

- Theorem {lit}`verify_blank`: a blank text is a missing token.
- Theorem {lit}`parts?_eq_some`: the parts of a token joined by dots are the token.
-/

namespace Gatehouse

/-- Whether some bytes carry a signature. -/
abbrev SignatureCheck := List UInt8 → List UInt8 → Bool

/-- The three parts of a token. -/
structure TokenParts where
  heading : List Char
  payload : List Char
  signature : List Char
deriving DecidableEq, Repr

namespace TokenParts

/-- The parts of a text with exactly two dots. -/
def parts? (text : List Char) : Option TokenParts :=
  match Text.splitList '.' text with
  | [heading, payload, signature] => some ⟨heading, payload, signature⟩
  | _ => none

/-- The bytes that the signature is over. -/
def signed (p : TokenParts) : List UInt8 :=
  Text.utf8 (String.ofList (p.heading ++ ['.'] ++ p.payload))

/-- The parts of a token joined by dots are the token. -/
theorem parts?_eq_some {text : List Char} {p : TokenParts} (h : parts? text = some p) :
    text = p.heading ++ '.' :: (p.payload ++ '.' :: p.signature) := by
  unfold parts? at h
  split at h
  · rename_i heading payload signature hs
    simp only [Option.some.injEq] at h
    subst h
    have := Text.intercalate_splitOn '.' text
    rw [hs] at this
    simpa [List.intercalate, List.intersperse_cons_cons] using this.symm
  · simp at h

end TokenParts

/-- What tokens are checked with. -/
structure Verifier where
  /-- The signature check, if the configured key can be used. -/
  signature : Option SignatureCheck
  requirements : Requirements

namespace Verifier

/-- A verifier with the key of a key file, if it is one. -/
def ofKeyFile? (text : String) (requirements : Requirements) : Option Verifier :=
  (KeyFile.rsaKey? text.toList).map fun key =>
    ⟨(Der.publicKey? key).map Rsa.PublicKey.accepts, requirements⟩

/-- The payload of a token whose heading and signature are right. -/
def payload? (v : Verifier) (p : TokenParts) : Except AuthFault (List Char) :=
  match TokenHeading.read? p.heading with
  | none => .error .malformed
  | some algorithm =>
      if algorithm ≠ .rs256 then .error .badSignature
      else
        match v.signature, Base64.decode? p.signature with
        | some accepts, some signature =>
            if !accepts p.signed signature then .error .badSignature
            else
              match TokenHeading.partText? p.payload with
              | none => .error .malformed
              | some payload => .ok payload.toList
        | _, _ => .error .malformed

/-- The claims of a payload that pass all checks. -/
def accept (r : Requirements) (now : Json.Word) (payload : List Char) :
    Except AuthFault Claims :=
  match Claims.decode payload with
  | .error _ => .error .malformed
  | .ok claims => do
      r.check now (UseClaims.read payload) claims
      r.checkAccess claims
      return claims

/-- The claims of a token that passes all checks. -/
def verify (v : Verifier) (now : Json.Word) (token : String) : Except AuthFault Claims :=
  let text := Text.trimList token.toList
  if text.isEmpty then .error .missing
  else
    match TokenParts.parts? text with
    | none => .error .malformed
    | some parts => do accept v.requirements now (← v.payload? parts)

/-- A blank text is a missing token. -/
theorem verify_blank (v : Verifier) (now : Json.Word) {token : String}
    (h : Text.trimList token.toList = []) : v.verify now token = .error .missing := by
  simp [verify, h]

end Verifier

/-- The identity of someone with verified claims. -/
def Identity.ofClaims {P : Type} (m : Matcher P) (mapping : RoleMapping P) (claims : Claims) :
    Identity where
  upn := claims.principal
  displayName := claims.name
  groups := Text.sortedDistinct claims.groups
  roles := mapping.resolve m claims.groups

/-- The payload of a token whose signature nobody has checked. -/
def introspect (token : String) : Except AuthFault Json.Value :=
  let object? : Option Json.Value := do
    let parts ← TokenParts.parts? (Text.trimList token.toList)
    let payload := (parts.payload.reverse.dropWhile (· = '=')).reverse
    let text ← TokenHeading.partText? payload
    match (Json.parse text.toList).toOption with
    | some (.object members) => some (.object members)
    | _ => none
  match object? with
  | some payload => .ok payload
  | none => .error .malformed

end Gatehouse
