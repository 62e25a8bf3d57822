/-!
# Why a caller is not let in
-/

namespace Gatehouse

/-- Why a caller could not be authenticated. -/
inductive AuthFault where
  /-- There is no credential. -/
  | missing
  /-- The credential is no token. -/
  | malformed
  | expired
  | badSignature
  /-- What the token claims is not acceptable. -/
  | invalidClaims (reason : String)
deriving DecidableEq, Repr

namespace AuthFault

/-- The wording of a fault. -/
def message : AuthFault → String
  | missing => "missing bearer token"
  | malformed => "malformed token"
  | expired => "token expired"
  | badSignature => "bad token signature"
  | invalidClaims reason => "invalid claims: " ++ reason

/-- The short name of a fault in the audit log. -/
def reason : AuthFault → String
  | missing => "missing"
  | malformed => "malformed"
  | expired => "expired"
  | badSignature => "bad_signature"
  | invalidClaims _ => "invalid_claims"

end AuthFault
end Gatehouse
