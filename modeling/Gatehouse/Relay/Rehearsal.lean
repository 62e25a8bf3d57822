import Gatehouse.Relay.Hub

/-!
# Rehearsals

A rehearsal is a run of the hub with scripted clients and a scripted snapshot service.
A client takes frames as it has permits for them and may break; the service answers at
once or holds an answer back until it is released.  After each cue every delivery loop
goes on until it can go no further.
-/

namespace Gatehouse

/-- A scripted client. -/
structure Audience where
  /-- How many more frames it takes; without a number, all. -/
  permits : Option Nat
  /-- Why it refuses frames from now on. -/
  fault : Option String
  /-- The frames whose send has begun, the newest first. -/
  started : List String
  /-- The frames whose send is over, the newest first. -/
  sent : List String
deriving Repr

namespace Audience

/-- A client with so many permits. -/
def ofPermits (permits : Option Nat) : Audience := ⟨permits, none, [], []⟩

/-- Whether the client can take a frame or refuse it. -/
def isAttentive (a : Audience) : Bool := a.permits != some 0

/-- Gives more permits. -/
def permit (a : Audience) (n : Nat) : Audience := { a with permits := a.permits.map (· + n) }

/-- The outcome of a send for which a permit is there. -/
def accept (a : Audience) (text : String) : Except String Unit × Audience :=
  let a := { a with permits := a.permits.map (· - 1) }
  match a.fault with
  | some reason => (.error reason, a)
  | none => (.ok (), { a with sent := text :: a.sent })

/-- Forgets what has been recorded. -/
def clear (a : Audience) : Audience := { a with started := [], sent := [] }

end Audience

/-- How the snapshot service answers for a key. -/
structure SnapshotPlan where
  /-- Whether it waits until it is released. -/
  held : Bool
  answer : Except SnapshotFault Json.Value

/-- A rehearsal. -/
structure Rehearsal where
  hub : Hub
  /-- How the snapshot service answers. -/
  plan : String → SnapshotPlan
  /-- The clients, by the ids of their connections. -/
  audiences : List (Nat × Audience)
  /-- The connections whose fetch is held back, the longest first. -/
  held : List Nat
  /-- How many answers have been released that no fetch waits for. -/
  releases : Nat
  /-- The keys fetched, the newest first. -/
  fetched : List String
  /-- The delivery loops that are over, and how they ended. -/
  ended : List (Nat × Except DeliveryFault Unit)

namespace Rehearsal

/-- A rehearsal that has not begun. -/
def ofHub (hub : Hub) (plan : String → SnapshotPlan) : Rehearsal :=
  ⟨hub, plan, [], [], 0, [], []⟩

/-- The client of a connection. -/
def audience? (r : Rehearsal) (id : Nat) : Option Audience := r.audiences.lookup id

/-- Seats a client at a connection. -/
def seat (r : Rehearsal) (id : Nat) (a : Audience) : Rehearsal :=
  { r with audiences := (id, a) :: r.audiences.filter fun entry => entry.1 != id }

/-- Removes the client of a connection. -/
def unseat (r : Rehearsal) (id : Nat) : Rehearsal :=
  { r with audiences := r.audiences.filter fun entry => entry.1 != id }

/-- Changes the client of a connection. -/
def onAudience (r : Rehearsal) (id : Nat) (f : Audience → Audience) : Rehearsal :=
  match r.audience? id with
  | some a => r.seat id (f a)
  | none => r

/-- Records the fetch that a connection begins. -/
def beginFetch (r : Rehearsal) (id : Nat) (key : String) : Rehearsal :=
  let r := { r with fetched := key :: r.fetched }
  if (r.plan key).held then
    match r.releases with
    | 0 => { r with held := r.held ++ [id] }
    | n + 1 => { r with releases := n }
  else r

/-- Stores a session that has gone on, and records what it begins. -/
def advance (r : Rehearsal) (s : Session) : Rehearsal :=
  let id := s.connection.id
  let r := { r with hub := r.hub.update id fun _ => s }
  match s.loop with
  | some (.fetching key _) => r.beginFetch id key
  | some (.sending dispatch) =>
      r.onAudience id fun a => { a with started := dispatch.text :: a.started }
  | _ => r

/-- Takes a delivery loop that is over off the stage. -/
def conclude (r : Rehearsal) (s : Session) (result : Except DeliveryFault Unit) : Rehearsal :=
  let id := s.connection.id
  if s.attended then { r with hub := r.hub.reap id, ended := (id, .ok ()) :: r.ended }
  else
    { r with hub := r.hub.update id Session.abandon, ended := (id, result) :: r.ended }

/-- Lets the delivery loop of one connection go on until it can go no further. -/
def settleOne : Nat → Rehearsal → Nat → Rehearsal
  | 0, r, _ => r
  | fuel + 1, r, id =>
      match r.hub.session? id with
      | none => r
      | some s =>
          match s.loop with
          | none => r
          | some .ready => settleOne fuel (r.advance s.take) id
          | some .parked =>
              if s.connection.signal then settleOne fuel (r.advance s.wake) id else r
          | some (.fetching key seq) =>
              if r.held.contains id then r
              else settleOne fuel (r.advance (s.fetched key seq (r.plan key).answer)) id
          | some (.sending dispatch) =>
              match r.audience? id with
              | none => r
              | some a =>
                  if a.isAttentive then
                    let (outcome, a) := a.accept dispatch.text
                    settleOne fuel ((r.seat id a).advance (s.sent dispatch outcome)) id
                  else r
          | some (.ended result) => r.conclude s result

/-- Lets every delivery loop go on until it can go no further. -/
def settle (r : Rehearsal) : Rehearsal :=
  r.hub.sessions.foldl
    (fun r s => settleOne (2 * s.work) r s.connection.id) r

/-- Forgets what has been recorded, before the next cue. -/
def clear (r : Rehearsal) : Rehearsal :=
  { r with
    audiences := r.audiences.map fun entry => (entry.1, entry.2.clear)
    fetched := []
    ended := [] }

/-! ## Cues -/

/-- Lets something happen at the hub. -/
def onHub {α : Type} (r : Rehearsal) (f : Hub → Hub × α) : Rehearsal × α :=
  let (hub, result) := f r.hub
  ({ r with hub }.settle, result)

/-- Begins to deliver the frames of a connection to a client. -/
def flush (r : Rehearsal) (id : Nat) (permits : Option Nat) : Rehearsal :=
  ({ r with hub := r.hub.update id Session.start }.seat id (.ofPermits permits)).settle

/-- Attends to a new connection with a client. -/
def attend (r : Rehearsal) (identity : Identity) (permits : Option Nat) : Rehearsal × Nat :=
  let (hub, id) := r.hub.attend identity
  (({ r with hub }.seat id (.ofPermits permits)).settle, id)

/-- Gives a client more permits. -/
def permit (r : Rehearsal) (id n : Nat) : Rehearsal :=
  (r.onAudience id fun a => a.permit n).settle

/-- Lets a client refuse what it is sent from now on. -/
def breakAudience (r : Rehearsal) (id : Nat) : Rehearsal :=
  r.onAudience id fun a => { a with fault := some "scripted failure" }

/-- Lets the client of an attended connection send a text; tells whether the connection
is still attended then. -/
def incoming (r : Rehearsal) (id : Nat) (text : String) : Rehearsal × Bool :=
  let attended := (r.hub.session? id).any Session.attended
  ({ r with hub := r.hub.incoming id text }.settle, attended)

/-- Lets the client of an attended connection go. -/
def hangUp (r : Rehearsal) (id : Nat) : Rehearsal :=
  if (r.hub.session? id).any Session.attended then
    { r with
      hub := r.hub.hangUp id
      held := r.held.filter (· != id)
      ended := (id, .ok ()) :: r.ended }.settle
  else r

/-- Releases the answer that has been held back longest. -/
def releaseSnapshot (r : Rehearsal) : Rehearsal :=
  match r.held with
  | [] => { r with releases := r.releases + 1 }
  | _ :: rest => { r with held := rest }.settle

/-- How a drain went. -/
inductive Drained where
  /-- The delivery loop waited for something and was dropped. -/
  | blocked
  /-- It was over. -/
  | over (result : Except DeliveryFault Unit)

/-- Delivers the frames of a connection to a client that takes so many of them, or that
is gone, and drops the delivery loop when it can go no further.  Gives the frames
taken. -/
def drain (r : Rehearsal) (id capacity : Nat) (gone : Bool) :
    Rehearsal × Drained × List String :=
  match r.hub.session? id with
  | none => (r, .blocked, [])
  | some s =>
      let fault := if gone then some "receiver dropped" else none
      let guest : Audience := { Audience.ofPermits (some capacity) with fault }
      let onStage := { r with
        hub := r.hub.update id fun s => { s.start with attended := false }
        ended := [] }
      let after := settleOne (2 * s.work) (onStage.seat id guest) id
      let taken := ((after.audience? id).map Audience.sent).getD []
      let result := match after.ended with
        | (_, result) :: _ => .over result
        | [] => .blocked
      let restored := { after with
        hub := after.hub.update id fun t => { t with loop := s.loop, attended := s.attended }
        held := after.held.filter fun other => other != id || r.held.contains id
        ended := r.ended }
      let reseated := match r.audience? id with
        | some a => restored.seat id a
        | none => restored.unseat id
      (reseated.settle, result, taken.reverse)

end Rehearsal
end Gatehouse
