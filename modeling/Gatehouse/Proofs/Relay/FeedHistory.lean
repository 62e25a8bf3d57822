import Mathlib.Data.List.TakeWhile
import Gatehouse.Relay.Channel

/-!
# What happens to a feed

Streams of a feed are opened, polled and dropped, and frames are published, in any order, until
the feed is shut down.  From what happened to a feed follows what is due to a stream: the frames
that were published since it was opened, as long as the ring keeps them.

Main results:

- Theorem {lit}`Channel.ceilPower_isLeast`: how many frames the ring keeps.
- Theorem {lit}`Channel.Holds.reads`: what a stream at a position reads from the ring.
-/

namespace Gatehouse
namespace Channel

/-! ## What happens to a feed -/

/-- Something that happens to a feed. -/
inductive Event where
  /-- A stream was opened. -/
  | connected (index : Nat)
  /-- A frame was published. -/
  | published (frame : String)
  /-- A stream was polled, with this answer. -/
  | polled (index : Nat) (answer : Polled)
  /-- A stream was dropped. -/
  | dropped (index : Nat)
  /-- The feed was shut down. -/
  | shutDown
deriving DecidableEq, Repr

/-- What may happen to a feed, and what becomes of it.  Streams are opened and frames are published
while it is open. -/
inductive Step : Channel → Event → Channel → Prop where
  | connect {c : Channel} (hopen : c.isOpen = true) : Step c (.connected c.connect.2) c.connect.1
  | publish {c : Channel} (hopen : c.isOpen = true) (frame : String) :
      Step c (.published frame) (c.publish frame).1
  | poll {c : Channel} {index : Nat} {answer : Polled} (hanswer : (c.poll index).2 = some answer) :
      Step c (.polled index answer) (c.poll index).1
  | drop {c : Channel} {index : Nat} (hopened : index < c.streams.length) :
      Step c (.dropped index) (c.drop index)
  | shutdown {c : Channel} : Step c .shutDown c.shutdown

/-- What happens to a feed from its beginning, the first of it first. -/
inductive Run (capacity : Nat) : List Event → Channel → Prop where
  | begin : Run capacity [] (ofCapacity capacity)
  | step {history : List Event} {c c' : Channel} {e : Event} (h : Run capacity history c)
      (hstep : Step c e c') : Run capacity (history ++ [e]) c'

/-! ## What a history says about a stream -/

/-- The stream that is opened, polled or dropped. -/
def Event.index? : Event → Option Nat
  | .connected index | .polled index _ | .dropped index => some index
  | .published _ | .shutDown => none

/-- The frame that is published. -/
def Event.frame? : Event → Option String
  | .published frame => some frame
  | _ => none

/-- The frame that a stream yields. -/
def Event.yield? (index : Nat) : Event → Option String
  | .polled i (.frame frame) => if i = index then some frame else none
  | _ => none

/-- Whether a stream is told that it lagged or that it has ended. -/
def Event.finishes (index : Nat) : Event → Bool
  | .polled i (.lagged _) | .polled i .ended => i == index
  | _ => false

/-- The frames that were published since a stream was opened. -/
def sentTo (index : Nat) (history : List Event) : List String :=
  (history.dropWhile (· != .connected index)).filterMap Event.frame?

/-- The frames that a stream yielded. -/
def yielded (index : Nat) (history : List Event) : List String :=
  history.filterMap (Event.yield? index)

/-- The frames that a stream has not read. -/
def unread (index : Nat) (history : List Event) : List String :=
  (sentTo index history).drop (yielded index history).length

/-- Whether a stream has been told that it lagged or that it has ended. -/
def Told (index : Nat) (history : List Event) : Prop :=
  ∃ e ∈ history, e.finishes index = true

instance (index : Nat) (history : List Event) : Decidable (Told index history) :=
  inferInstanceAs (Decidable (∃ e ∈ history, e.finishes index = true))

/-- Whether a stream was opened and not dropped. -/
def Held (index : Nat) (history : List Event) : Prop :=
  .connected index ∈ history ∧ .dropped index ∉ history

instance (index : Nat) (history : List Event) : Decidable (Held index history) :=
  inferInstanceAs (Decidable (_ ∧ _))

/-- What a poll of a stream has to answer. -/
def due (capacity index : Nat) (history : List Event) : Polled :=
  if Told index history then .ended
  else if ceilPower capacity < (unread index history).length then
    .lagged ((unread index history).length - ceilPower capacity)
  else
    match unread index history with
    | frame :: _ => .frame frame
    | [] => if .shutDown ∈ history then .ended else .pending

variable {capacity index : Nat} {history : List Event} {e : Event} {c : Channel}
  {all : List String}

/-- A frame that is published is sent to every stream that has been opened. -/
theorem sentTo_append (hconnected : .connected index ∈ history) (e : Event) :
    sentTo index (history ++ [e]) = sentTo index history ++ e.frame?.toList := by
  have hleft : (history.dropWhile (· != .connected index)).isEmpty = false := by
    rw [List.isEmpty_eq_false_iff, Ne, List.dropWhile_eq_nil_iff]
    intro hall
    exact absurd (hall _ hconnected) (by simp)
  rw [sentTo, List.dropWhile_append, hleft, if_neg Bool.false_ne_true, List.filterMap_append]
  rw [sentTo, List.filterMap_cons, List.filterMap_nil]
  cases e.frame? <;> rfl

/-- What is no frame is not sent. -/
theorem sentTo_append_of_no_frame (hconnected : .connected index ∈ history)
    (hframe : e.frame? = none) : sentTo index (history ++ [e]) = sentTo index history := by
  rw [sentTo_append hconnected, hframe, Option.toList_none, List.append_nil]

/-- Nothing was published since a stream that is new was opened. -/
theorem sentTo_of_fresh (hfresh : .connected index ∉ history) :
    sentTo index (history ++ [.connected index]) = [] := by
  have hnone : history.dropWhile (· != .connected index) = [] := by
    rw [List.dropWhile_eq_nil_iff]
    intro e he
    rw [bne_iff_ne]
    rintro rfl
    exact hfresh he
  rw [sentTo, List.dropWhile_append, hnone]
  simp [Event.frame?]

theorem yielded_append (index : Nat) (history : List Event) (e : Event) :
    yielded index (history ++ [e]) = yielded index history ++ (e.yield? index).toList := by
  rw [yielded, List.filterMap_append, List.filterMap_cons, List.filterMap_nil]
  cases e.yield? index <;> rfl

theorem yielded_append_of_no_yield (hyield : e.yield? index = none) :
    yielded index (history ++ [e]) = yielded index history := by
  rw [yielded_append, hyield, Option.toList_none, List.append_nil]

/-- A stream that yields nothing further has yielded frames that were published since it was
opened, if it had before. -/
theorem yielded_append_isPrefix (hconnected : .connected index ∈ history)
    (hyield : e.yield? index = none) (h : yielded index history <+: sentTo index history) :
    yielded index (history ++ [e]) <+: sentTo index (history ++ [e]) := by
  rw [sentTo_append hconnected, yielded_append_of_no_yield hyield]
  exact h.trans (List.prefix_append _ _)

/-- What a stream has not read comes behind what it yielded. -/
theorem unread_of_sent {rest : List String}
    (hsent : sentTo index history = yielded index history ++ rest) :
    unread index history = rest := by
  rw [unread, hsent, List.drop_left]

theorem told_append :
    Told index (history ++ [e]) ↔ Told index history ∨ e.finishes index = true := by
  simp [Told, or_and_right, exists_or]

/-- What does not concern a stream neither yields a frame of it nor finishes or drops it. -/
theorem Event.of_unconcerned (h : e.index? ≠ some index) :
    e.yield? index = none ∧ e.finishes index = false ∧ e ≠ .dropped index := by
  cases e with
  | connected i | dropped i => simp_all [Event.index?, Event.yield?, Event.finishes]
  | polled i answer =>
      have hother : i ≠ index := by simpa [Event.index?] using h
      cases answer <;> simp [Event.yield?, Event.finishes, hother]
  | published frame | shutDown => simp [Event.yield?, Event.finishes]

/-- A stream that nothing concerned so far has not yielded a frame. -/
theorem yielded_of_unconcerned (h : ∀ e ∈ history, e.index? ≠ some index) :
    yielded index history = [] :=
  List.filterMap_eq_nil_iff.2 fun e he => (Event.of_unconcerned (h e he)).1

/-! ## What is due -/

/-- A stream that has been told that it lagged or that it has ended only ends from then on. -/
theorem due_of_told (h : Told index history) : due capacity index history = .ended :=
  if_pos h

/-- A stream lags if it has not read more frames than the ring keeps. -/
theorem due_of_lost (htold : ¬Told index history)
    (hlost : ceilPower capacity < (unread index history).length) :
    due capacity index history = .lagged ((unread index history).length - ceilPower capacity) := by
  rw [due, if_neg htold, if_pos hlost]

/-- A stream ends when it has been told to, or after the feed was shut down and all frames have
been read. -/
theorem due_eq_ended (h : due capacity index history = .ended) :
    Told index history ∨ .shutDown ∈ history ∧ unread index history = [] := by
  unfold due at h
  split at h
  · exact .inl ‹_›
  · split at h
    · contradiction
    · split at h
      · contradiction
      · rename_i hunread
        split at h
        · exact .inr ⟨‹_›, hunread⟩
        · contradiction

/-! ## The ring -/

/-- The ring keeps as many frames as asked for, rounded up to a power of two. -/
theorem ceilPower_isLeast (capacity : Nat) :
    (∃ k, ceilPower capacity = Nat.pow 2 k) ∧ capacity ≤ ceilPower capacity ∧
      ∀ k, capacity ≤ Nat.pow 2 k → ceilPower capacity ≤ Nat.pow 2 k := by
  unfold ceilPower
  by_cases hle : capacity ≤ 1
  · rw [if_pos hle]
    exact ⟨⟨0, rfl⟩, hle, fun k _ => Nat.two_pow_pos k⟩
  · rw [if_neg hle]
    have hne : capacity - 1 ≠ 0 := by omega
    have hself : capacity - 1 < Nat.pow 2 ((capacity - 1).log2 + 1) := Nat.lt_log2_self
    refine ⟨⟨_, rfl⟩, by omega, fun k hk => Nat.pow_le_pow_right (by decide) ?_⟩
    have hbelow : capacity - 1 < Nat.pow 2 k := by omega
    exact (Nat.log2_lt hne).2 hbelow

/-- Whether a ring keeps the newest of some frames, all of which have been published. -/
structure Holds (c : Channel) (all : List String) : Prop where
  published : c.published = all.length
  ring : c.ring = all.drop (all.length - c.capacity)

/-- What a stream at a position answers to a poll and where it stands then, by the frames that it
has not read. -/
inductive Reads (c : Channel) (unread : List String) (position : Nat) : Stream × Polled → Prop where
  | behind (hlost : c.capacity < unread.length) :
      Reads c unread position (.lagged, .lagged (unread.length - c.capacity))
  | next {frame : String} {rest : List String} (hunread : unread = frame :: rest)
      (hkept : unread.length ≤ c.capacity) :
      Reads c unread position (.reading (position + 1), .frame frame)
  | idle (hunread : unread = []) (hopen : c.isOpen = true) :
      Reads c unread position (.reading position, .pending)
  | closed (hunread : unread = []) (hclosed : c.isOpen = false) :
      Reads c unread position (.ended, .ended)

theorem Holds.oldest_eq (h : c.Holds all) : c.oldest = all.length - c.capacity := by
  rw [oldest, h.published, h.ring, List.length_drop]
  omega

/-- A poll reads the frames that have not been read, as far as the ring keeps them. -/
theorem Holds.reads (h : c.Holds all) (position : Nat) :
    c.Reads (all.drop position) position (c.pollAt position) := by
  unfold pollAt
  rw [h.oldest_eq, h.ring]
  have hlength : (all.drop position).length = all.length - position := List.length_drop
  by_cases hlost : position < all.length - c.capacity
  · rw [if_pos hlost]
    have hskipped :
        all.length - c.capacity - position = (all.drop position).length - c.capacity := by
      omega
    rw [hskipped]
    exact .behind (by omega)
  · have hplace : all.length - c.capacity + (position - (all.length - c.capacity)) = position := by
      omega
    rw [if_neg hlost, List.getElem?_drop, hplace]
    cases hframe : all[position]? with
    | some frame =>
        rcases List.getElem?_eq_some_iff.1 hframe with ⟨hposition, hget⟩
        have hunread := List.drop_eq_getElem_cons hposition
        rw [hget] at hunread
        exact .next hunread (by omega)
    | none =>
        have hunread : all.drop position = [] :=
          List.drop_eq_nil_iff.2 (List.getElem?_eq_none_iff.1 hframe)
        dsimp only
        split
        · exact .idle hunread ‹_›
        · exact .closed hunread (Bool.eq_false_iff.2 ‹_›)

/-- A frame that is published pushes the oldest one out of a full ring. -/
theorem Holds.publish (h : c.Holds all) (frame : String) (hsubscribed : c.subscribers ≠ 0) :
    (c.publish frame).1.Holds (all ++ [frame]) := by
  rw [Channel.publish, if_neg hsubscribed]
  refine ⟨?_, ?_⟩
  · change c.published + 1 = _
    rw [h.published, List.length_append, List.length_singleton]
  · have hring : c.ring ++ [frame] = (all ++ [frame]).drop (all.length - c.capacity) := by
      rw [h.ring, List.drop_append_of_le_length (Nat.sub_le _ _)]
    have hlength : c.ring.length = all.length - (all.length - c.capacity) := by
      rw [h.ring, List.length_drop]
    change (c.ring ++ [frame]).drop (c.ring.length + 1 - c.capacity) =
      (all ++ [frame]).drop ((all ++ [frame]).length - c.capacity)
    rw [hring, List.drop_drop, hlength, List.length_append, List.length_singleton]
    congr 1
    omega

end Channel
end Gatehouse
