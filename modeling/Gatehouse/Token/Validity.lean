import Gatehouse.Token.Claims
import Gatehouse.Token.Fault

/-!
# What a token claims about its use

Besides its typed claims a token is read a second time for the claims about its use.
That reading is separate: it takes the audience as it stands, and it stumbles over a
start of validity that is a list or an object with something in it, or a number with
digits left behind an exponent that is out of range.  The start of validity itself is
never compared with the clock.

Main results:

- Definition {lit}`Requirements.check`: expiry, then issuer, then audience.

Current gaps:

- A start of validity that is a string with stray bytes makes the payload unreadable,
  although what is only tried may hold any bytes.  A token without a start of validity
  is not concerned.
-/

namespace Gatehouse

/-- What a verifier asks of the claims. -/
structure Requirements where
  /-- The issuer that a token must not contradict. -/
  issuer : Option String := none
  /-- The audience that a token must not contradict. -/
  audience : Option String := none
  /-- How many seconds clocks may differ. -/
  leeway : Json.Word := ⟨30, by decide⟩

/-- What the second reading finds. -/
inductive UseClaims where
  /-- The payload cannot be read. -/
  | unreadable
  /-- The payload has no expiry in the place where it is looked for. -/
  | unlimited
  /-- The payload is an object, perhaps with an audience. -/
  | stated (audience : Option Json.Value)

namespace UseClaims

open Json (Reader Failure)

/-- Tries to read a number.  If it is out of range, that is forgiven as long as no digit is
left where it is noticed. -/
def tryNumber : Reader Unit := fun c => do
  let ((), behind) ← Json.skipNumber c
  match Json.readNumber c with
  | .error (.placed cause position) =>
      if position = behind.here then return ((), behind) else .error (.placed cause position)
  | _ => return ((), behind)

/-- Reads a start of validity: anything but a container with something in it or a number with
digits left behind an exponent that is out of range. -/
def readStart : Reader Unit := fun c =>
  let c := c.skipSpace
  match c.rest with
  | '[' :: _ => Json.inList (fun c => .ok ((), c)) c
  | '\x7b' :: _ => Json.inObject (fun c => .ok ((), c)) c
  | '"' :: _ => do
      let (_, c) ← Json.readQuoted c
      return ((), c)
  | ch :: _ => if ch = '-' ∨ ch.isDigit then tryNumber c else Json.skipValue c
  | [] => Json.skipValue c

/-- What the second reading has found so far. -/
structure Draft where
  hasStart : Bool := false
  audience : Option Json.Value := none

/-- The fields of the second reading. -/
def fields : List (Json.Field Draft) :=
  [ { name := "nbf", given := fun d => d.hasStart, required := false,
      read := fun _ d c => do
        let ((), c) ← readStart c
        return ({ d with hasStart := true }, c) },
    { name := "aud", given := fun d => d.audience.isSome, required := false,
      read := fun depth d c => do
        let (v, c) ← Json.Value.read depth c
        return ({ d with audience := some v }, c) } ]

/-- Reads the members of an object. -/
def readObject : Reader Draft :=
  Json.inObject (Json.readMembers (Json.Field.readMember fields (Json.nestingLimit - 1)) { })

/-- Counts the items of a list. -/
def countItems : Reader Nat :=
  Json.inList (Json.readItems (fun n c => do
    let ((), c) ← Json.skipValue c
    return (n + 1, c)) 0)

/-- The number of claims that the second reading knows. -/
def known : Nat := 5

/-- Reads the claims about use from a payload. -/
def read (payload : List Char) : UseClaims :=
  match (Json.Cursor.start payload).skipSpace.rest with
  | '[' :: _ =>
      match Json.Reader.run (fun c => countItems c.skipSpace) payload with
      | .ok n => if n = known then unlimited else unreadable
      | .error _ => unreadable
  | _ =>
      match Json.Reader.run (fun c => readObject c.skipSpace) payload with
      | .ok draft => stated draft.audience
      | .error _ => unreadable

end UseClaims

namespace Requirements

/-- Whether a token with these seconds of expiry has expired.  The earliest expiry that
is accepted is computed in 64 bits, so a leeway beyond the clock wraps around. -/
def isExpired (r : Requirements) (now expiry : Json.Word) : Bool :=
  decide (expiry < now - r.leeway)

/-- Whether an issuer is acceptable: one that is stated has to be the required one. -/
def allowsIssuer (r : Requirements) (stated : Option String) : Bool :=
  match r.issuer, stated with
  | some issuer, some stated => issuer == stated
  | _, _ => true

/-- Whether an audience is acceptable: a string or a list of strings has to name the
required one. -/
def allowsAudience (r : Requirements) (stated : Option Json.Value) : Bool :=
  match r.audience, stated with
  | some audience, some (.string s) => audience == s
  | some audience, some (.array items) =>
      (Claims.texts items).length != items.length || (Claims.texts items).contains audience
  | _, _ => true

/-- The audience of tokens that are only good for getting new ones. -/
def refreshAudience : String := "refresh"

/-- Checks expiry, then issuer, then audience. -/
def check (r : Requirements) (now : Json.Word) (use : UseClaims) (claims : Claims) :
    Except AuthFault Unit :=
  match use with
  | .unreadable => .error .malformed
  | .unlimited => .error (.invalidClaims "Missing required claim: exp")
  | .stated audience =>
      if r.isExpired now claims.expiry then .error .expired
      else if !r.allowsIssuer claims.issuer then .error (.invalidClaims "InvalidIssuer")
      else if !r.allowsAudience audience then .error (.invalidClaims "InvalidAudience")
      else .ok ()

/-- Checks what holds for access tokens: without a required audience a refresh token is
refused, and the principal is not blank. -/
def checkAccess (r : Requirements) (claims : Claims) : Except AuthFault Unit :=
  if r.audience.isNone && claims.hasAudience refreshAudience then
    .error (.invalidClaims "refresh token used as access token")
  else if Text.isBlankText claims.principal then .error (.invalidClaims "empty subject")
  else .ok ()

end Requirements
end Gatehouse
