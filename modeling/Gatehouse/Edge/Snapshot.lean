import Gatehouse.Edge.Forward
import Gatehouse.Relay.Session

/-!
# Fetching snapshots

The snapshot of a key is asked of the service below the base address.  A status that is
no success is a fault of its own; so is an answer that is no JSON text.

Main results:

- Theorem {lit}`fetchSnapshot_unreachable`: without an answer there is no snapshot.

Current gaps:

- Why the service cannot be reached, or what is wrong with its answer, is not told.
-/

namespace Gatehouse

/-- Whether a status says that all went well. -/
def isSuccess (status : Nat) : Bool := 200 ≤ status && status < 300

/-- The snapshot in the answer of the service. -/
def snapshotOf (key : String) (reply : Response) : Except SnapshotFault Json.Value :=
  if !isSuccess reply.status then .error (.status key reply.status)
  else
    match (String.fromUTF8? reply.body).map fun text => Json.parse text.toList with
    | some (.ok resource) => .ok resource
    | _ => .error (.unavailable "the answer is no JSON text")

/-- The request for the snapshot of a key. -/
def snapshotRequest (base key : String) : Outgoing :=
  ⟨"GET", snapshotUrl base key, [], ByteArray.empty⟩

/-- The snapshot of a key, fetched below a base address. -/
def fetchSnapshot (transport : Transport) (base key : String) :
    Except SnapshotFault Json.Value :=
  match transport (snapshotRequest base key) with
  | some reply => snapshotOf key reply
  | none => .error (.unavailable "the service cannot be reached")

/-- Without an answer there is no snapshot. -/
theorem fetchSnapshot_unreachable {transport : Transport} {base key : String}
    (h : transport (snapshotRequest base key) = none) :
    fetchSnapshot transport base key = .error (.unavailable "the service cannot be reached") := by
  simp [fetchSnapshot, h]

end Gatehouse
