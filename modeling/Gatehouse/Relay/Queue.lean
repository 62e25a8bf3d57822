import Gatehouse.Message.Event
import Gatehouse.Message.Server

/-!
# The outbound queue of a connection

A connection holds back a bounded number of frames.  When an event finds the queue
full the whole backlog is given up: a connection that is subscribed to a resource is
owed a snapshot instead, any other keeps the newest event alone.  The frame being sent
keeps its place until the send is over.

Main results:

- Theorem {lit}`Queue.room_iff`: when a queue takes another frame.
- Theorem {lit}`Queue.pop_of_resync`: a snapshot that is owed comes before the frames.
-/

namespace Gatehouse

/-- A frame that waits to be sent. -/
inductive Outbound where
  /-- A change event. -/
  | event (event : Event)
  /-- A message of the gate itself. -/
  | control (message : ServerMessage)
deriving Repr, Inhabited

namespace Outbound

/-- The text of a frame. -/
def text : Outbound → String
  | event e => e.encode
  | control m => m.encode

/-- Whether a frame is an event for one key. -/
def isKeyed : Outbound → Bool
  | event e => !e.isBroadcast
  | control _ => false

end Outbound

/-- What became of an event that was put into a queue. -/
inductive Offer where
  /-- It waits for its turn. -/
  | queued
  /-- A snapshot will stand for it and for the backlog. -/
  | resync
  /-- The backlog was given up for it. -/
  | truncated
deriving DecidableEq, Repr

/-- A bounded queue of frames. -/
structure Queue where
  /-- The frames that wait, the oldest first. -/
  items : List Outbound
  /-- How many frames may wait, the one being sent included. -/
  capacity : Nat
  /-- The sequence number of the snapshot that is owed. -/
  resync : Option Seq
  /-- Whether a frame is being sent. -/
  inFlight : Bool
deriving Repr, Inhabited

/-- What a queue hands out next. -/
inductive Pending where
  /-- A snapshot with this sequence number. -/
  | resync (seq : Seq)
  /-- A frame. -/
  | frame (frame : Outbound)
deriving Repr

namespace Queue

/-- An empty queue, with room for at least one frame. -/
def ofCapacity (capacity : Nat) : Queue := ⟨[], max 1 capacity, none, false⟩

/-- The places taken. -/
def occupied (q : Queue) : Nat := q.items.length + q.inFlight.toNat

/-- Whether no place is left. -/
def isFull (q : Queue) : Bool := q.capacity ≤ q.occupied

/-- A queue has room exactly if fewer places are taken than it has. -/
theorem room_iff {q : Queue} : q.isFull = false ↔ q.occupied < q.capacity := by
  simp [isFull]

/-- Puts a frame at the end. -/
def append (q : Queue) (frame : Outbound) : Queue :=
  { q with items := q.items ++ [frame] }

/-- Owes a snapshot with at least this sequence number. -/
def requestResync (q : Queue) (seq : Seq) : Queue :=
  { q with resync := some ((q.resync.map (Seq.latest seq)).getD seq) }

/-- The snapshot that is owed has the number that is asked for or the one that it had, whichever
is later. -/
theorem requestResync_cases (q : Queue) (seq : Seq) :
    ∃ tag, (q.requestResync seq).resync = some tag ∧ seq ≤ tag ∧
      (∀ old, q.resync = some old → old ≤ tag) ∧ (tag = seq ∨ q.resync = some tag) := by
  unfold requestResync
  cases hresync : q.resync with
  | none => exact ⟨seq, rfl, Fin.le_refl seq, by simp, .inl rfl⟩
  | some old =>
      refine ⟨Seq.latest seq old, rfl, Seq.le_latest_left seq old, ?_, ?_⟩
      · rintro _ ⟨⟩
        exact Seq.le_latest_right seq old
      · rcases Seq.latest_eq_or seq old with hnew | hsame
        · exact .inl hnew
        · exact .inr (by rw [hsame])

/-- If the snapshot that is owed has no later number, it gets the one that is asked for. -/
theorem requestResync_of_le {q : Queue} {seq : Seq}
    (h : ∀ old, q.resync = some old → old ≤ seq) : (q.requestResync seq).resync = some seq := by
  rcases q.requestResync_cases seq with ⟨tag, htag, hle, -, rfl | hsame⟩
  · exact htag
  · rw [htag, Fin.le_antisymm (h tag hsame) hle]

/-- Gives up the backlog. -/
def discard (q : Queue) : Queue := { q with items := [] }

/-- Puts an event into a queue whose places are all taken. -/
def overflow (q : Queue) (e : Event) (resyncable : Bool) : Queue × Offer :=
  let emptied := q.discard
  if resyncable then (emptied.requestResync e.seq, .resync)
  else if emptied.isFull then (emptied, .truncated)
  else (emptied.append (.event e), .truncated)

/-- Puts an event at the end, or gives up the backlog.  An event for one key is covered
by a snapshot that is owed already. -/
def pushEvent (q : Queue) (e : Event) (resyncable : Bool) : Queue × Offer :=
  if !e.isBroadcast && q.resync.isSome then (q.requestResync e.seq, .resync)
  else if q.isFull then q.overflow e resyncable
  else (q.append (.event e), .queued)

/-- Puts a message at the end if there is room; tells whether there was. -/
def pushControl (q : Queue) (m : ServerMessage) : Queue × Bool :=
  if q.isFull then (q, false) else (q.append (.control m), true)

/-- Removes the events for one key and forgets the snapshot that is owed. -/
def dropKeyed (q : Queue) : Queue :=
  { q with items := q.items.filter fun frame => !frame.isKeyed, resync := none }

/-- Takes out the snapshot that is owed, or else the oldest frame. -/
def pop (q : Queue) : Option (Pending × Queue) :=
  match q.resync, q.items with
  | some seq, _ => some (.resync seq, { q with resync := none })
  | none, frame :: rest => some (.frame frame, { q with items := rest })
  | none, [] => none

/-- A snapshot that is owed comes before the frames. -/
theorem pop_of_resync {q : Queue} {seq : Seq} (h : q.resync = some seq) :
    q.pop = some (.resync seq, { q with resync := none }) := by
  simp [pop, h]

/-- Begins a send, which takes a place. -/
def startSend (q : Queue) : Queue := { q with inFlight := true }

/-- Ends a send. -/
def finishSend (q : Queue) : Queue := { q with inFlight := false }

/-! ## What the operations leave alone -/

@[simp]
theorem append_items (q : Queue) (frame : Outbound) :
    (q.append frame).items = q.items ++ [frame] :=
  rfl

@[simp]
theorem append_capacity (q : Queue) (frame : Outbound) :
    (q.append frame).capacity = q.capacity :=
  rfl

@[simp]
theorem append_resync (q : Queue) (frame : Outbound) : (q.append frame).resync = q.resync :=
  rfl

@[simp]
theorem append_inFlight (q : Queue) (frame : Outbound) :
    (q.append frame).inFlight = q.inFlight :=
  rfl

@[simp]
theorem requestResync_items (q : Queue) (seq : Seq) : (q.requestResync seq).items = q.items :=
  rfl

@[simp]
theorem requestResync_capacity (q : Queue) (seq : Seq) :
    (q.requestResync seq).capacity = q.capacity :=
  rfl

@[simp]
theorem requestResync_inFlight (q : Queue) (seq : Seq) :
    (q.requestResync seq).inFlight = q.inFlight :=
  rfl

@[simp]
theorem discard_items (q : Queue) : q.discard.items = [] :=
  rfl

@[simp]
theorem discard_capacity (q : Queue) : q.discard.capacity = q.capacity :=
  rfl

@[simp]
theorem discard_inFlight (q : Queue) : q.discard.inFlight = q.inFlight :=
  rfl

@[simp]
theorem dropKeyed_items (q : Queue) :
    q.dropKeyed.items = q.items.filter fun frame => !frame.isKeyed :=
  rfl

@[simp]
theorem dropKeyed_capacity (q : Queue) : q.dropKeyed.capacity = q.capacity :=
  rfl

@[simp]
theorem dropKeyed_inFlight (q : Queue) : q.dropKeyed.inFlight = q.inFlight :=
  rfl

end Queue
end Gatehouse
