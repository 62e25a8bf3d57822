import Gatehouse.Json.Value
import Gatehouse.Role.Set
import Gatehouse.Token.Fault

/-!
# Refused requests

A refused request is answered with a status and a short label; what went wrong in detail
is not told to the caller.
-/

namespace Gatehouse

/-- Why a request is refused. -/
inductive Refusal where
  | unauthorized (fault : AuthFault)
  | forbidden (denied : PermissionDenied)
  | badRequest (detail : String)
  | badGateway (detail : String)
deriving DecidableEq, Repr

namespace Refusal

/-- The wording of a refusal, for the log. -/
def message : Refusal → String
  | unauthorized fault => "unauthorized: " ++ fault.message
  | forbidden denied => denied.message
  | badRequest detail => "bad request: " ++ detail
  | badGateway detail => "bad gateway: " ++ detail

/-- The status of the answer. -/
def status : Refusal → Nat
  | unauthorized _ => 401
  | forbidden _ => 403
  | badRequest _ => 400
  | badGateway _ => 502

/-- The label of the answer. -/
def label : Refusal → String
  | unauthorized _ => "unauthorized"
  | forbidden _ => "forbidden"
  | badRequest _ => "bad request"
  | badGateway _ => "bad gateway"

/-- The body of the answer. -/
def body (r : Refusal) : String := (Json.Value.object [("error", .string r.label)]).text

end Refusal
end Gatehouse
