import Gatehouse.Relay.Connection

/-!
# Sessions

A session is a connection together with the loop that delivers its frames.  The loop
takes the next step of the connection, fetches the snapshot that the step asks for,
sends one frame at a time, and sleeps when there is nothing to do.  Its progress is a
phase, and every way on from a phase is a function: what the outside world answers (a
send that is over, a fetch that is answered) is an argument.

Main results:

- Theorem {lit}`Session.take_closed`: the loop of a closed connection ends.
- Theorem {lit}`Session.wake_without_signal`: a sleeping loop wakes only when called.
-/

namespace Gatehouse

/-- Why a snapshot could not be fetched. -/
inductive SnapshotFault where
  /-- The service answered with a status that is no success. -/
  | status (key : String) (status : Nat)
  /-- The service could not be asked, or its answer could not be read. -/
  | unavailable (reason : String)
deriving DecidableEq, Repr

/-- The wording of a fault. -/
def SnapshotFault.message : SnapshotFault → String
  | status key code => "snapshot service returned " ++ toString code ++ " for " ++ key
  | unavailable reason => "snapshot unavailable: " ++ reason

/-- Why a delivery loop ended early. -/
inductive DeliveryFault where
  /-- A frame could not be sent. -/
  | send (reason : String)
  /-- A snapshot could not be fetched. -/
  | snapshot (fault : SnapshotFault)
deriving DecidableEq, Repr

/-- The wording of a fault. -/
def DeliveryFault.message : DeliveryFault → String
  | send reason => "send failed: " ++ reason
  | snapshot fault => "resync failed: " ++ fault.message

/-- What a delivery loop hands to the client. -/
inductive Dispatch where
  /-- A frame of the queue. -/
  | frame (frame : Outbound)
  /-- The state of a resource. -/
  | snapshot (key : String) (resource : Json.Value) (seq : Seq)
  /-- The notice that a snapshot could not be fetched, before the loop ends. -/
  | notice (fault : SnapshotFault)
deriving Repr

/-- The message that asks the client to connect again. -/
def ServerMessage.reconnect : ServerMessage :=
  .error ⟨503, by decide⟩ "snapshot unavailable, reconnect"

/-- The text sent to the client. -/
def Dispatch.text : Dispatch → String
  | frame outbound => outbound.text
  | snapshot key resource seq => (ServerMessage.snapshot key resource seq).encode
  | notice _ => ServerMessage.reconnect.encode

/-- Where a delivery loop stands. -/
inductive Phase where
  /-- About to take the next step. -/
  | ready
  /-- Asleep until it is called. -/
  | parked
  /-- Waiting for the resource of a key. -/
  | fetching (key : String) (seq : Seq)
  /-- Waiting for a send to be over. -/
  | sending (dispatch : Dispatch)
  /-- Over. -/
  | ended (result : Except DeliveryFault Unit)
deriving Repr

/-- A connection and its delivery loop, if one runs. -/
structure Session where
  connection : Connection
  loop : Option Phase
  /-- Whether the connection is attended: its client's messages are heeded, and it is
  closed as soon as the client or the delivery loop is gone. -/
  attended : Bool
deriving Repr

namespace Session

/-- A session whose loop has not begun. -/
def accept (id : Nat) (identity : Identity) (capacity : Nat) : Session :=
  ⟨.accept id identity capacity, none, false⟩

/-- Begins a delivery loop. -/
def start (s : Session) : Session := { s with loop := some .ready }

/-- Drops the delivery loop wherever it stands. -/
def abandon (s : Session) : Session := { s with loop := none }

@[simp]
theorem start_connection (s : Session) : s.start.connection = s.connection :=
  rfl

@[simp]
theorem start_loop (s : Session) : s.start.loop = some .ready :=
  rfl

@[simp]
theorem abandon_connection (s : Session) : s.abandon.connection = s.connection :=
  rfl

@[simp]
theorem abandon_loop (s : Session) : s.abandon.loop = none :=
  rfl

/-- Changes the connection. -/
def onConnection (s : Session) (f : Connection → Connection) : Session :=
  { s with connection := f s.connection }

/-- Brings the loop into a phase. -/
def enter (s : Session) (connection : Connection) (phase : Phase) : Session :=
  { s with connection, loop := some phase }

@[simp]
theorem onConnection_connection (s : Session) (f : Connection → Connection) :
    (s.onConnection f).connection = f s.connection :=
  rfl

@[simp]
theorem onConnection_loop (s : Session) (f : Connection → Connection) :
    (s.onConnection f).loop = s.loop :=
  rfl

@[simp]
theorem enter_connection (s : Session) (connection : Connection) (phase : Phase) :
    (s.enter connection phase).connection = connection :=
  rfl

@[simp]
theorem enter_loop (s : Session) (connection : Connection) (phase : Phase) :
    (s.enter connection phase).loop = some phase :=
  rfl

/-- Takes the next step of the connection. -/
def take (s : Session) : Session :=
  match s.connection.nextStep with
  | (.closed, c) => s.enter c (.ended (.ok ()))
  | (.idle, c) => s.enter c .parked
  | (.frame frame, c) => s.enter c (.sending (.frame frame))
  | (.resync key seq, c) => s.enter c (.fetching key seq)

/-- Wakes a sleeping loop if it was called. -/
def wake (s : Session) : Session :=
  if s.connection.signal then s.enter { s.connection with signal := false } .ready else s

/-- Goes on after a send with this outcome. -/
def sent (s : Session) (dispatch : Dispatch) (outcome : Except String Unit) : Session :=
  match dispatch, outcome with
  | .notice fault, _ => s.enter s.connection (.ended (.error (.snapshot fault)))
  | _, .ok () => s.enter s.connection.finishSend .ready
  | _, .error reason => s.enter s.connection (.ended (.error (.send reason)))

/-- Goes on after a fetch with this answer. -/
def fetched (s : Session) (key : String) (seq : Seq)
    (answer : Except SnapshotFault Json.Value) : Session :=
  match answer with
  | .ok resource =>
      if s.connection.isClosed then s.enter s.connection (.ended (.ok ()))
      else s.enter s.connection (.sending (.snapshot key resource seq))
  | .error fault => s.enter s.connection (.sending (.notice fault))

/-- The loop of a closed connection ends. -/
theorem take_closed {s : Session} (h : s.connection.state = .closed) :
    s.take = s.enter s.connection (.ended (.ok ())) := by
  simp [take, h]

/-- A sleeping loop wakes only when called. -/
theorem wake_without_signal {s : Session} (h : s.connection.signal = false) : s.wake = s := by
  simp [wake, h]

/-- A sleeping loop that is called wakes, and the call is spent. -/
theorem wake_of_signal {s : Session} (h : s.connection.signal = true) :
    s.wake = s.enter { s.connection with signal := false } .ready := by
  simp [wake, h]

/-! ## Deliveries at once -/

/-- Delivers as far as possible when a send takes no time and a fetch is answered at
once; {lit}`ask` may keep a state, such as what has been asked already.  Gives the
texts sent, in order. -/
def deliver {σ : Type} (ask : σ → String → Except SnapshotFault Json.Value × σ) :
    Nat → Session → σ → Session × List String × σ
  | 0, s, world => (s, [], world)
  | fuel + 1, s, world =>
      match s.loop with
      | some .ready => deliver ask fuel s.take world
      | some .parked =>
          if s.connection.signal then deliver ask fuel s.wake world else (s, [], world)
      | some (.fetching key seq) =>
          let (answer, world) := ask world key
          deliver ask fuel (s.fetched key seq answer) world
      | some (.sending dispatch) =>
          let (s, texts, world) := deliver ask fuel (s.sent dispatch (.ok ())) world
          (s, dispatch.text :: texts, world)
      | some (.ended _) | none => (s, [], world)

/-- Enough steps for everything that waits: each frame takes two, a snapshot three, and
falling asleep twice four. -/
def work (s : Session) : Nat := 2 * s.connection.queue.items.length + 10

end Session
end Gatehouse
