/-!
# A change feed within the process

Frames are published to a ring that keeps the newest few.  Each stream reads them in
order at its own pace; one that falls so far behind that frames it has not read are
gone is told how many, and then ends.

Main results:

- Theorem {lit}`Channel.capacity_pos`: the ring keeps at least one frame.
-/

namespace Gatehouse

/-- Where a stream stands. -/
inductive Stream where
  /-- The next frame it reads is the one published after so many. -/
  | reading (position : Nat)
  /-- It has been told that it lagged. -/
  | lagged
  /-- It has ended. -/
  | ended
  /-- It has been dropped. -/
  | dropped
deriving DecidableEq, Repr

/-- Whether a stream still counts as a subscription. -/
def Stream.isSubscribed : Stream → Bool
  | .reading _ | .lagged => true
  | .ended | .dropped => false

/-- What a stream answers when it is polled. -/
inductive Polled where
  /-- There is no frame yet. -/
  | pending
  /-- The next frame. -/
  | frame (text : String)
  /-- So many frames were missed. -/
  | lagged (skipped : Nat)
  /-- It has ended. -/
  | ended
deriving DecidableEq, Repr

/-- The wording of a lag. -/
def lagMessage (skipped : Nat) : String :=
  "feed consumer lagged, " ++ toString skipped ++ " frames skipped"

/-- A feed with its streams. -/
structure Channel where
  /-- How many frames the ring keeps. -/
  capacity : Nat
  /-- How many frames have been published. -/
  published : Nat
  /-- The newest frames, the oldest of them first. -/
  ring : List String
  /-- The streams, in the order in which they were opened. -/
  streams : List Stream
  /-- Whether the feed still publishes. -/
  isOpen : Bool
deriving Repr

namespace Channel

/-- The least power of two that is at least {lit}`n`. -/
def ceilPower (n : Nat) : Nat := if n ≤ 1 then 1 else Nat.pow 2 (Nat.log2 (n - 1) + 1)

/-- A feed whose ring keeps at least so many frames. -/
def ofCapacity (capacity : Nat) : Channel := ⟨ceilPower capacity, 0, [], [], true⟩

/-- The ring keeps at least one frame. -/
theorem capacity_pos (capacity : Nat) : 0 < (ofCapacity capacity).capacity := by
  simp only [ofCapacity, ceilPower]
  split
  · decide
  · exact Nat.two_pow_pos _

/-- The number of subscriptions. -/
def subscribers (c : Channel) : Nat := c.streams.countP Stream.isSubscribed

/-- Opens a stream that reads what is published from now on; gives its index. -/
def connect (c : Channel) : Channel × Nat :=
  ({ c with streams := c.streams ++ [.reading c.published] }, c.streams.length)

/-- Publishes a frame; gives the number of subscriptions.  Without any, the frame is
lost. -/
def publish (c : Channel) (frame : String) : Channel × Nat :=
  if c.subscribers = 0 then (c, 0)
  else
    ({ c with
        published := c.published + 1
        ring := (c.ring ++ [frame]).drop (c.ring.length + 1 - c.capacity) }, c.subscribers)

/-- The position of the oldest frame in the ring. -/
def oldest (c : Channel) : Nat := c.published - c.ring.length

/-- Polls a stream at a position. -/
def pollAt (c : Channel) (position : Nat) : Stream × Polled :=
  if position < c.oldest then (.lagged, .lagged (c.oldest - position))
  else
    match c.ring[position - c.oldest]? with
    | some frame => (.reading (position + 1), .frame frame)
    | none => if c.isOpen then (.reading position, .pending) else (.ended, .ended)

/-- Polls a stream; there is no answer if it was never opened or has been dropped. -/
def poll (c : Channel) (index : Nat) : Channel × Option Polled :=
  match c.streams[index]? with
  | some (.reading position) =>
      let (stream, polled) := c.pollAt position
      ({ c with streams := c.streams.set index stream }, some polled)
  | some .lagged => ({ c with streams := c.streams.set index .ended }, some .ended)
  | some .ended => (c, some .ended)
  | some .dropped | none => (c, none)

/-- Drops a stream. -/
def drop (c : Channel) (index : Nat) : Channel :=
  { c with streams := c.streams.set index .dropped }

/-- Ends the feed; what is in the ring can still be read. -/
def shutdown (c : Channel) : Channel := { c with isOpen := false }

end Channel
end Gatehouse
