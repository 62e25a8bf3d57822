import Gatehouse.Edge.Header
import Gatehouse.Text.Blank
import Gatehouse.Text.Split
import Gatehouse.Token.Fault

/-!
# Credentials

A request carries its token in the authorization field.  A client that opens a socket
may offer it as a second subprotocol after the name of the scheme, or in the query.
-/

namespace Gatehouse
namespace Credential

/-- The scheme of bearer tokens. -/
def scheme : String := "bearer"

/-- A text without the blanks around it, if anything is left. -/
def nonBlank? (text : String) : Option String :=
  let trimmed := Text.trim text
  if trimmed.isEmpty then none else some trimmed

/-- The token in the value of an authorization field. -/
def ofAuthorization (value : String) : Except AuthFault String :=
  match Text.splitOnce ' ' value with
  | none => .error .malformed
  | some (given, token) =>
      match nonBlank? token with
      | some token =>
          if Text.equalIgnoringCase given scheme then .ok token else .error .malformed
      | none => .error .malformed

/-- The bearer token of a request: that of its first authorization field. -/
def bearerToken (headers : Headers) : Except AuthFault String :=
  match headers.first? "authorization" with
  | none => .error .missing
  | some value =>
      match HeaderField.readable? value with
      | none => .error .malformed
      | some value => ofAuthorization value

/-- The token among the subprotocols that a client offers: the second, after the name of
the scheme. -/
def ofSubprotocols? (value : String) : Option String :=
  match (Text.splitOn ',' value).map Text.trim with
  | given :: token :: _ =>
      if Text.equalIgnoringCase given scheme && !token.isEmpty then some token else none
  | _ => none

/-- The token of a client that opens a socket: that of its subprotocols, or else that of
the query. -/
def socketToken? (headers : Headers) (query : Option String) : Option String :=
  ((headers.text? "sec-websocket-protocol").bind ofSubprotocols?).or (query.bind nonBlank?)

/-! ## Correlation -/

/-- The field that tells which messages belong together. -/
def correlationField : String := "x-correlation-id"

/-- The longest correlation id that a caller may choose. -/
def longestCorrelationId : Nat := 128

/-- The correlation id that the caller chose, if it is acceptable. -/
def correlationId? (headers : Headers) : Option String :=
  ((headers.text? correlationField).bind nonBlank?).filter fun id =>
    id.utf8ByteSize ≤ longestCorrelationId

/-- The correlation id of a request: the one that the caller chose, or else a fresh
one. -/
def correlationId (headers : Headers) (fresh : String) : String :=
  (correlationId? headers).getD fresh

/-- A byte as two digits. -/
def hexByte (b : UInt8) : List Char :=
  [Text.hexChar (b.toNat / 16), Text.hexChar (b.toNat % 16)]

/-- A fresh correlation id from sixteen random bytes: groups of digits with hyphens
between them, marked as random. -/
def freshId (random : List UInt8) : String :=
  let marked := random.mapIdx fun i b =>
    if i = 6 then UInt8.ofNat (0x40 + b.toNat % 16)
    else if i = 8 then UInt8.ofNat (0x80 + b.toNat % 64)
    else b
  let group (first count : Nat) := ((marked.drop first).take count).flatMap hexByte
  String.ofList ("-".toList.intercalate
    [group 0 4, group 4 2, group 6 2, group 8 2, group 10 6])

end Credential
end Gatehouse
