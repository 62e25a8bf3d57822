import Gatehouse.Relay.Session
import Gatehouse.Message.Client

/-!
# The hub

The hub knows every connection it ever made, and which of them are registered.  An
event that comes in is offered to each registered connection; a client's message
concerns its own connection alone.

Main results:

- Theorem {lit}`Hub.ingest_malformed`: a frame that is no event changes nothing.
-/

namespace Gatehouse

/-- How many connections took an event, and how. -/
structure Fanout where
  queued : Nat
  resyncs : Nat
  truncated : Nat
deriving DecidableEq, Repr, Inhabited

namespace Fanout

/-- No connection. -/
def none : Fanout := ⟨0, 0, 0⟩

/-- Counts one more connection. -/
def count (f : Fanout) : Delivery → Fanout
  | .skipped => f
  | .offered .queued => { f with queued := f.queued + 1 }
  | .offered .resync => { f with resyncs := f.resyncs + 1 }
  | .offered .truncated => { f with truncated := f.truncated + 1 }

end Fanout

/-- The connections of the gate. -/
structure Hub where
  /-- How many frames may wait for one connection. -/
  capacity : Nat
  /-- The highest sequence number of an event so far. -/
  lastSeq : Seq
  /-- The sessions of all connections ever made, in order of their ids. -/
  sessions : List Session
  /-- The ids of the registered connections, in order. -/
  live : List Nat
deriving Repr

namespace Hub

/-- A hub without connections. -/
def ofCapacity (capacity : Nat) : Hub := ⟨max 1 capacity, 0, [], []⟩

/-- The id of the next connection. -/
def nextId (h : Hub) : Nat := h.sessions.length + 1

/-- The session of a connection. -/
def session? (h : Hub) (id : Nat) : Option Session :=
  h.sessions.find? fun s => s.connection.id == id

/-- Whether a connection is registered. -/
def isLive (h : Hub) (id : Nat) : Bool := h.live.contains id

/-- Changes the session of one connection. -/
def update (h : Hub) (id : Nat) (f : Session → Session) : Hub :=
  { h with sessions := h.sessions.map fun s => if s.connection.id == id then f s else s }

/-- Applies an operation to one connection and gives its result, which is
{lit}`absent` if there is no such connection. -/
def apply {α : Type} (h : Hub) (id : Nat) (absent : α)
    (f : Connection → Connection × α) : Hub × α :=
  match h.session? id with
  | some s => (h.update id fun s => s.onConnection fun c => (f c).1, (f s.connection).2)
  | none => (h, absent)

/-- Registers a new connection. -/
def register (h : Hub) (identity : Identity) : Hub × Nat :=
  ({ h with
      sessions := h.sessions ++ [.accept h.nextId identity h.capacity]
      live := h.live ++ [h.nextId] }, h.nextId)

/-- Closes a registered connection; tells whether it was registered. -/
def close (h : Hub) (id : Nat) : Hub × Bool :=
  if h.isLive id then
    ({ h with live := h.live.filter (· != id) }.update id fun s => s.onConnection .close,
      true)
  else (h, false)

/-- Subscribes a registered connection to a key. -/
def subscribe (h : Hub) (id : Nat) (key : String) (seq : Option Seq) : Hub × Bool :=
  if h.isLive id then h.apply id false fun c => c.subscribe key seq else (h, false)

/-- Ends the subscription of a registered connection. -/
def unsubscribe (h : Hub) (id : Nat) : Hub × Bool :=
  if h.isLive id then h.apply id false Connection.unsubscribe else (h, false)

/-- Offers an event to the registered connections. -/
def publish (h : Hub) (e : Event) : Hub × Fanout :=
  let offer (s : Session) : Session × Delivery :=
    if h.isLive s.connection.id then
      let (c, delivery) := s.connection.offerEvent e
      ({ s with connection := c }, delivery)
    else (s, .skipped)
  let offered := h.sessions.map offer
  ({ h with lastSeq := Seq.latest h.lastSeq e.seq, sessions := offered.map Prod.fst },
    (offered.map Prod.snd).foldl Fanout.count .none)

/-- Takes in a frame of the change feed; one that is no event is dropped. -/
def ingest (h : Hub) (frame : String) : Hub × Option Fanout :=
  match Event.decode frame with
  | .ok e => let (h, fanout) := h.publish e; (h, some fanout)
  | .error _ => (h, none)

/-- Offers a message to the registered connections. -/
def announce (h : Hub) (m : ServerMessage) : Hub :=
  { h with sessions := h.sessions.map fun s =>
      if h.isLive s.connection.id then s.onConnection fun c => (c.offerControl m).1 else s }

/-- Acts on a text of a client, and answers one that is no message with an error. -/
def heed (c : Connection) (text : String) : Connection :=
  match ClientMessage.decode text with
  | .ok (.subscribe key seq) => (c.subscribe key seq).1
  | .ok .unsubscribe => c.unsubscribe.1
  | .ok .ping => (c.offerControl .pong).1
  | .error fault =>
      (c.offerControl (.error ⟨400, by decide⟩ ("invalid message: " ++ fault.message))).1

/-- Acts on a text of the client of a connection. -/
def clientText (h : Hub) (id : Nat) (text : String) : Hub :=
  h.update id fun s => s.onConnection fun c => heed c text

/-- A frame that is no event changes nothing. -/
theorem ingest_malformed {h : Hub} {frame : String} {fault : Json.Fault}
    (hf : Event.decode frame = .error fault) : h.ingest frame = (h, none) := by
  simp [ingest, hf]

/-! ## Attended connections -/

/-- Registers a connection and attends to it: its frames are delivered and its client's
messages heeded. -/
def attend (h : Hub) (identity : Identity) : Hub × Nat :=
  let (h, id) := h.register identity
  (h.update id fun s => { s.start with attended := true }, id)

/-- Ends the attendance of a connection: its delivery loop is dropped wherever it stands,
and the connection is closed. -/
def release (h : Hub) (id : Nat) : Hub :=
  ((h.update id fun s => { s.abandon with attended := false }).close id).1

/-- Ends the attendance of a connection if its delivery loop is over. -/
def reap (h : Hub) (id : Nat) : Hub :=
  match h.session? id with
  | some { attended := true, loop := some (.ended _), .. } => h.release id
  | _ => h

/-- Ends the attendance of a connection whose client is gone. -/
def hangUp (h : Hub) (id : Nat) : Hub :=
  match h.session? id with
  | some { attended := true, .. } => h.release id
  | _ => h

/-- Heeds a text of an attended connection's client. -/
def incoming (h : Hub) (id : Nat) (text : String) : Hub :=
  match h.session? id with
  | some { attended := true, .. } => h.clientText id text
  | _ => h

/-! ## What becomes of the sessions and of the registry -/

section

variable (h : Hub) (id : Nat)

@[simp]
theorem update_sessions (f : Session → Session) :
    (h.update id f).sessions =
      h.sessions.map fun s => if s.connection.id == id then f s else s :=
  rfl

@[simp]
theorem update_live (f : Session → Session) : (h.update id f).live = h.live :=
  rfl

@[simp]
theorem update_capacity (f : Session → Session) : (h.update id f).capacity = h.capacity :=
  rfl

/-- Attending adds a session whose delivery loop begins. -/
theorem attend_sessions (identity : Identity) :
    (h.attend identity).1.sessions =
      (h.sessions ++ [Session.accept h.nextId identity h.capacity]).map fun s =>
        if s.connection.id == h.nextId then { s.start with attended := true } else s :=
  rfl

@[simp]
theorem announce_sessions (m : ServerMessage) :
    (h.announce m).sessions = h.sessions.map fun s =>
      if h.isLive s.connection.id then s.onConnection fun c => (c.offerControl m).1 else s :=
  rfl

/-- An event is offered to each registered connection. -/
theorem publish_sessions (e : Event) :
    (h.publish e).1.sessions = h.sessions.map fun s =>
      if h.isLive s.connection.id then s.onConnection fun c => (c.offerEvent e).1 else s := by
  simp only [publish, List.map_map]
  refine List.map_congr_left fun s _ => ?_
  simp only [Function.comp_apply]
  split <;> rfl

/-- An operation is applied to the session of its connection. -/
theorem apply_sessions {α : Type} (absent : α) (f : Connection → Connection × α) :
    (h.apply id absent f).1.sessions = h.sessions.map fun s =>
      if s.connection.id == id then s.onConnection fun c => (f c).1 else s := by
  unfold apply
  cases hfound : h.session? id with
  | some s => rfl
  | none =>
      have hother : ∀ s ∈ h.sessions,
          (if s.connection.id == id then s.onConnection fun c => (f c).1 else s) = s := by
        intro s hmem
        rw [if_neg (List.find?_eq_none.1 hfound s hmem)]
      rw [List.map_congr_left hother, List.map_id']

@[simp]
theorem apply_live {α : Type} (absent : α) (f : Connection → Connection × α) :
    (h.apply id absent f).1.live = h.live := by
  unfold apply
  split <;> rfl

@[simp]
theorem apply_capacity {α : Type} (absent : α) (f : Connection → Connection × α) :
    (h.apply id absent f).1.capacity = h.capacity := by
  unfold apply
  split <;> rfl

/-- Subscribing changes the session of a registered connection. -/
theorem subscribe_sessions (key : String) (seq : Option Seq) :
    (h.subscribe id key seq).1.sessions = h.sessions.map fun s =>
      if s.connection.id == id then
        if h.isLive id then s.onConnection fun c => (c.subscribe key seq).1 else s
      else s := by
  unfold subscribe
  split
  · exact h.apply_sessions id _ _
  · simp

/-- Ending a subscription changes the session of a registered connection. -/
theorem unsubscribe_sessions :
    (h.unsubscribe id).1.sessions = h.sessions.map fun s =>
      if s.connection.id == id then
        if h.isLive id then s.onConnection fun c => c.unsubscribe.1 else s
      else s := by
  unfold unsubscribe
  split
  · exact h.apply_sessions id _ _
  · simp

/-- Closing changes the session of a registered connection. -/
theorem close_sessions :
    (h.close id).1.sessions = h.sessions.map fun s =>
      if s.connection.id == id then
        if h.isLive id then s.onConnection .close else s
      else s := by
  unfold close
  split <;> simp

/-- What is closed is registered no longer. -/
theorem close_live : (h.close id).1.live = h.live.filter (· != id) := by
  unfold close
  split
  · rfl
  · rename_i hgone
    refine (List.filter_eq_self.2 ?_).symm
    intro other hmem
    have hother : other ≠ id := by
      rintro rfl
      exact hgone (List.contains_iff_mem.2 hmem)
    simpa using hother

/-- What is closed was registered. -/
theorem close_result : (h.close id).2 = h.isLive id := by
  unfold close
  cases hlive : h.isLive id <;> simp

@[simp]
theorem close_capacity : (h.close id).1.capacity = h.capacity := by
  unfold close
  split <;> rfl

/-- Ending the attendance drops the delivery loop and closes what is registered. -/
theorem release_sessions :
    (h.release id).sessions = h.sessions.map fun s =>
      if s.connection.id == id then
        if h.isLive id then { s.abandon with attended := false }.onConnection .close
        else { s.abandon with attended := false }
      else s := by
  have hlive : (h.update id fun s => { s.abandon with attended := false }).isLive id =
      h.isLive id := rfl
  rw [release, close_sessions, update_sessions, List.map_map]
  refine List.map_congr_left fun s _ => ?_
  simp only [Function.comp_apply, hlive]
  cases hid : s.connection.id == id <;> simp [hid]

/-- What has been attended is registered no longer. -/
theorem release_live : (h.release id).live = h.live.filter (· != id) := by
  rw [release, close_live, update_live]

@[simp]
theorem release_capacity : (h.release id).capacity = h.capacity := by
  simp [release]

variable {h id}

/-- The attendance ends when the client is gone. -/
theorem hangUp_of_attended {s : Session} (hs : h.session? id = some s)
    (hattended : s.attended = true) : h.hangUp id = h.release id := by
  cases s
  simp_all [hangUp]

/-- The attendance ends when the delivery loop is over. -/
theorem reap_of_ended {s : Session} {result : Except DeliveryFault Unit}
    (hs : h.session? id = some s) (hattended : s.attended = true)
    (hended : s.loop = some (.ended result)) : h.reap id = h.release id := by
  cases s
  simp_all [reap]

/-- The session that is found has the id. -/
theorem mem_of_session? {s : Session} (hs : h.session? id = some s) :
    s ∈ h.sessions ∧ s.connection.id = id := by
  unfold session? at hs
  exact ⟨List.mem_of_find?_eq_some hs, by simpa using List.find?_some hs⟩

end

end Hub
end Gatehouse
