import Gatehouse.Relay.Queue
import Gatehouse.Role.Permission

/-!
# Connections

A connection is a client that has been let in: who it is, what it is subscribed to, and
the frames it is still to receive.  Whoever delivers its frames sleeps while there are
none; each change that may matter leaves one wake-up call, and calls do not add up.

Main results:

- Theorem {lit}`Connection.offerEvent_closed`: a closed connection takes no event.
- Theorem {lit}`Connection.nextStep_closed`: a closed connection hands out no frame.

Current gaps:

- Each operation is one step, as if a lock were held around it.  Which task calls it is
  left out.
-/

namespace Gatehouse

/-- The life of a connection. -/
inductive ConnectionState where
  /-- Receives broadcast events alone. -/
  | authenticated
  /-- Receives broadcast events and those for a key. -/
  | subscribed (key : String)
  /-- Receives nothing any more. -/
  | closed
deriving DecidableEq, Repr, Inhabited

namespace ConnectionState

/-- The key subscribed to. -/
def key? : ConnectionState → Option String
  | subscribed key => some key
  | _ => none

end ConnectionState

/-- What became of an event that was offered to a connection. -/
inductive Delivery where
  /-- The connection is closed or the event does not concern it. -/
  | skipped
  /-- It does, with this outcome. -/
  | offered (offer : Offer)
deriving DecidableEq, Repr

/-- A client. -/
structure Connection where
  id : Nat
  identity : Identity
  state : ConnectionState
  queue : Queue
  /-- Whether a wake-up call waits to be heard. -/
  signal : Bool
deriving Repr

/-- What is to be done next for a connection. -/
inductive Step where
  /-- Nothing ever again. -/
  | closed
  /-- Nothing for now. -/
  | idle
  /-- Fetch the resource of the key and send its snapshot. -/
  | resync (key : String) (seq : Seq)
  /-- Send the frame. -/
  | frame (frame : Outbound)
deriving Repr

namespace Connection

/-- A new connection. -/
def accept (id : Nat) (identity : Identity) (capacity : Nat) : Connection :=
  ⟨id, identity, .authenticated, .ofCapacity capacity, false⟩

/-- The name of a connection. -/
def name (id : Nat) : String := "conn-" ++ toString id

/-- Whether a connection is closed. -/
def isClosed (c : Connection) : Bool := c.state == .closed

/-- How many frames wait, not counting the one being sent. -/
def queued (c : Connection) : Nat := c.queue.items.length

/-- Leaves a wake-up call. -/
def notify (c : Connection) : Connection := { c with signal := true }

/-- Offers an event: it is put into the queue if it concerns the connection. -/
def offerEvent (c : Connection) (e : Event) : Connection × Delivery :=
  if c.isClosed || !e.isFor c.state.key? then (c, .skipped)
  else
    let (queue, offer) := c.queue.pushEvent e c.state.key?.isSome
    ({ c with queue }.notify, .offered offer)

/-- Offers a message; tells whether it was taken. -/
def offerControl (c : Connection) (m : ServerMessage) : Connection × Bool :=
  if c.isClosed then (c, false)
  else
    match c.queue.pushControl m with
    | (queue, true) => ({ c with queue }.notify, true)
    | (_, false) => (c, false)

/-- Subscribes to a key.  With a sequence number a snapshot is owed and replaces the
queued events for a key; without one they are dropped if the key changes. -/
def subscribe (c : Connection) (key : String) (seq : Option Seq) : Connection × Bool :=
  if c.isClosed then (c, false)
  else
    let queue := match seq with
      | some seq => c.queue.dropKeyed.requestResync seq
      | none => if c.state == .subscribed key then c.queue else c.queue.dropKeyed
    ({ c with state := .subscribed key, queue }.notify, true)

/-- Ends the subscription and drops the queued events for its key. -/
def unsubscribe (c : Connection) : Connection × Bool :=
  if c.isClosed then (c, false)
  else ({ c with state := .authenticated, queue := c.queue.dropKeyed }, true)

/-- Closes the connection. -/
def close (c : Connection) : Connection := { c with state := .closed }.notify

/-- A snapshot without a subscription is not owed: the oldest frame is next. -/
def nextFrame (c : Connection) : Step × Connection :=
  match ({ c.queue with resync := none } : Queue).pop with
  | some (.frame frame, queue) => (.frame frame, { c with queue := queue.startSend })
  | _ => (.idle, { c with queue := { c.queue with resync := none } })

/-- Takes out what is to be done next; what is taken counts as being sent. -/
def nextStep (c : Connection) : Step × Connection :=
  match c.state with
  | .closed => (.closed, c)
  | .authenticated => c.nextFrame
  | .subscribed key =>
      match c.queue.pop with
      | some (.resync seq, queue) => (.resync key seq, { c with queue := queue.startSend })
      | some (.frame frame, queue) => (.frame frame, { c with queue := queue.startSend })
      | none => (.idle, c)

/-- Records that the frame taken last has been sent. -/
def finishSend (c : Connection) : Connection := { c with queue := c.queue.finishSend }

@[simp]
theorem notify_state (c : Connection) : c.notify.state = c.state :=
  rfl

@[simp]
theorem notify_queue (c : Connection) : c.notify.queue = c.queue :=
  rfl

/-- A closed connection takes no event. -/
@[simp]
theorem offerEvent_closed {c : Connection} (h : c.state = .closed) (e : Event) :
    c.offerEvent e = (c, .skipped) := by
  simp [offerEvent, isClosed, h]

/-- A closed connection takes no message. -/
@[simp]
theorem offerControl_closed {c : Connection} (h : c.state = .closed) (m : ServerMessage) :
    c.offerControl m = (c, false) := by
  simp [offerControl, isClosed, h]

/-- A closed connection cannot subscribe. -/
@[simp]
theorem subscribe_closed {c : Connection} (h : c.state = .closed) (key : String)
    (seq : Option Seq) : c.subscribe key seq = (c, false) := by
  simp [subscribe, isClosed, h]

/-- A closed connection hands out no frame. -/
@[simp]
theorem nextStep_closed {c : Connection} (h : c.state = .closed) :
    c.nextStep = (.closed, c) := by
  simp [nextStep, h]

end Connection
end Gatehouse
