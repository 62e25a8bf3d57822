import Gatehouse.Proofs.Relay.Ascent
import Gatehouse.Proofs.Relay.Registry

/-!
# What waits without a subscription

A connection without a subscription is offered events for everyone.  When one finds no room, all
that waits is given up and the event alone waits; with two places at least there is always room
for it then, even if a frame is being sent.  So the events that wait are the newest ones, without
a gap, and the newest of all waits or has been sent.

Main results:

- Theorem {lit}`Connection.operate_backlog`: what an operation does to the events that wait.
- Theorem {lit}`Session.Run.backlog`: in every run the last events wait.
- Theorem {lit}`Session.Run.keeps_newest`: which events wait, and where the newest is.
-/

namespace Gatehouse

/-! ## Events for everyone -/

/-- The event that a frame is, if it is one. -/
def Outbound.event? : Outbound → Option Event
  | .event e => some e
  | .control _ => none

/-- The events among some frames, in order. -/
def Outbound.events (frames : List Outbound) : List Event :=
  frames.filterMap Outbound.event?

/-- The events of frames that are put behind others come last. -/
theorem Outbound.events_append (frames more : List Outbound) :
    Outbound.events (frames ++ more) = Outbound.events frames ++ Outbound.events more := by
  simp [Outbound.events]

/-- The events for everyone that are offered in some moves, in order. -/
def Move.broadcasts (moves : List Move) : List Event :=
  (Move.events moves).filter Event.isBroadcast

/-- The events for everyone in later moves come behind. -/
theorem Move.broadcasts_append (moves more : List Move) :
    Move.broadcasts (moves ++ more) = Move.broadcasts moves ++ Move.broadcasts more := by
  simp [Move.broadcasts, Move.events]

/-- An event for everyone that is offered is among the broadcasts. -/
theorem Move.mem_broadcasts {moves : List Move} {e : Event}
    (hmem : .operation (.event e) ∈ moves) (hcast : e.isBroadcast = true) :
    e ∈ Move.broadcasts moves := by
  have hevent : e ∈ Move.events moves := List.mem_filterMap.2 ⟨_, hmem, rfl⟩
  exact List.mem_filter.2 ⟨hevent, hcast⟩

/-- A move that offers no event offers none for everyone. -/
theorem Move.broadcasts_of_event? {move : Move} (h : move.event? = none) :
    Move.broadcasts [move] = [] := by
  simp [Move.broadcasts, Move.events, h]

/-- With two places at least there is room when the backlog has been given up. -/
theorem Queue.discard_isFull {q : Queue} (hplaces : 2 ≤ q.capacity) :
    q.discard.isFull = false := by
  have hone : q.discard.occupied ≤ 1 := by
    cases hflight : q.inFlight <;> simp [Queue.occupied, hflight]
  have hcapacity : q.discard.capacity = q.capacity := q.discard_capacity
  apply Queue.room_iff.2
  omega

namespace Connection

variable {c c' : Connection} {op : Operation} {e : Event}

/-- Without a subscription no event for a key waits, so that nothing is lost when these are
removed. -/
theorem Agrees.dropKeyed_items (h : c.Agrees) (hstate : c.state = .authenticated) :
    c.queue.dropKeyed.items = c.queue.items := by
  have hopen : c.state ≠ .closed := by simp [hstate]
  rw [Queue.dropKeyed_items, List.filter_eq_self]
  intro frame hmem
  cases frame with
  | control m => rfl
  | event e =>
      have hfor : e.isFor c.state.key? = true := h.concerns hopen e hmem
      simpa [hstate, ConnectionState.key?, Event.isFor, Outbound.isKeyed] using hfor

/-- A connection with two places and without a subscription stays without one if the operation is
none.  Such an operation either offers no event for everyone and leaves the events that wait as
they are, or offers one that enters the queue. -/
theorem operate_backlog (hstate : c.state = .authenticated) (hagrees : c.Agrees)
    (hplaces : 2 ≤ c.queue.capacity) (hplain : ∀ key seq, op ≠ .subscribe key seq)
    (hopen : (c.operate op).state ≠ .closed) :
    (c.operate op).state = .authenticated ∧
      (Move.broadcasts [.operation op] = [] ∧
          Outbound.events (c.operate op).queue.items = Outbound.events c.queue.items ∨
        ∃ e, op = .event e ∧ e.isBroadcast = true ∧ c.Takes op (.event e)) := by
  have hchange : c.Change op (c.operate op) := c.operate_change op
  unfold Takes
  generalize c.operate op = c' at hchange hopen ⊢
  cases hchange with
  | ignored hignored =>
      refine ⟨hstate, .inl ⟨?_, rfl⟩⟩
      cases hignored with
      | closed hclosed => exact absurd hclosed hopen
      | @foreign e hfor =>
          have hkeyed : e.isBroadcast = false := by
            simpa [hstate, ConnectionState.key?, Event.isFor] using hfor
          simp [Move.broadcasts, Move.events, Move.event?, hkeyed]
      | crowded => exact Move.broadcasts_of_event? rfl
  | @queued e _ hfor =>
      have hcast : e.isBroadcast = true := by
        simpa [hstate, ConnectionState.key?, Event.isFor] using hfor
      exact ⟨hstate, .inr ⟨e, rfl, hcast, rfl, .inl rfl⟩⟩
  | covered hsubscribed => simp [hstate] at hsubscribed
  | overflowed hsubscribed => simp [hstate] at hsubscribed
  | @truncated e _ hcast hfull =>
      have hover : c.Overflows (.event e) :=
        ⟨e, rfl, by simp [hstate], Event.isFor_iff.2 (.inl hcast), .inl hcast, hfull⟩
      have hitems : (c.queue.restart e).items = [.event e] := by
        rcases c.queue.restart_items e with ⟨hcrowded, -⟩ | ⟨-, hitems⟩
        · rw [Queue.discard_isFull hplaces] at hcrowded
          contradiction
        · exact hitems
      exact ⟨hstate, .inr ⟨e, rfl, hcast, rfl, .inr ⟨hover, hitems⟩⟩⟩
  | @taken m =>
      refine ⟨hstate, .inl ⟨Move.broadcasts_of_event? rfl, ?_⟩⟩
      rw [notify_queue, Queue.append_items, Outbound.events_append]
      exact List.append_nil _
  | refreshed => exact absurd rfl (hplain _ _)
  | kept => exact absurd rfl (hplain _ _)
  | switched => exact absurd rfl (hplain _ _)
  | unsubscribed =>
      refine ⟨rfl, .inl ⟨Move.broadcasts_of_event? rfl, ?_⟩⟩
      exact congrArg Outbound.events (hagrees.dropKeyed_items hstate)
  | closed => exact absurd rfl hopen

/-- A step of a delivery loop takes frames from the front alone. -/
theorem Handout.items_suffix {step : Step} (h : c.Handout step c') :
    c'.queue.items <:+ c.queue.items := by
  cases h with
  | @frame frame rest _ _ hfirst =>
      rw [hfirst]
      exact List.suffix_cons frame rest
  | _ => exact List.suffix_rfl

/-- An event that enters the queue is the last that waits, and before it waits what waited
before or nothing. -/
theorem Takes.events (h : c.Takes op (.event e)) :
    Outbound.events (c.operate op).queue.items = Outbound.events c.queue.items ++ [e] ∨
      Outbound.events (c.operate op).queue.items = [e] := by
  rcases h with ⟨-, hitems | ⟨-, hitems⟩⟩
  · left
    rw [hitems, Outbound.events_append]
    rfl
  · right
    rw [hitems]
    rfl

end Connection

/-! ## The newest events -/

namespace Session

variable {s t : Session} {moves : List Move} {done now : List Undertaking} {move : Move} {e : Event}

/-- A move that leaves the queue as it is offers no event. -/
theorem LeavesQueue.broadcasts_eq_nil (h : LeavesQueue s move now t) :
    Move.broadcasts [move] = [] := by
  apply Move.broadcasts_of_event?
  cases move with
  | operation op => exact absurd rfl (h.not_operation op)
  | _ => rfl

/-- A move opens no connection. -/
theorem Moves.open_before (h : Moves s move now t) (hopen : t.connection.state ≠ .closed) :
    s.connection.state ≠ .closed :=
  fun hclosed => hopen (h.closed_iff.2 (.inl hclosed))

/-- A connection that is open has been open all along. -/
theorem Run.open_before (hrun : Run s moves done t) (hopen : t.connection.state ≠ .closed) :
    s.connection.state ≠ .closed :=
  fun hclosed => hopen (hrun.closed_iff.2 (.inl hclosed))

section

variable {id n : Nat} {identity : Identity}

/-- In every run in which the client never subscribes, the events that wait at an open connection
with two places are the last events for everyone. -/
theorem Run.backlog (hrun : Run (accept id identity n) moves done t) (hplaces : 2 ≤ n)
    (hplain : ∀ key seq, .operation (.subscribe key seq) ∉ moves)
    (hopen : t.connection.state ≠ .closed) :
    t.connection.state = .authenticated ∧
      Outbound.events t.connection.queue.items <:+ Move.broadcasts moves := by
  induction hrun with
  | refl => exact ⟨rfl, List.nil_suffix⟩
  | @tail t u moves move done now hrun hmove ih =>
      have hbefore : ∀ key seq, .operation (.subscribe key seq) ∉ moves :=
        fun key seq hmem => hplain key seq (List.mem_append_left _ hmem)
      rcases ih hbefore (hmove.open_before hopen) with ⟨hstate, hsuffix⟩
      rw [Move.broadcasts_append]
      rcases hmove.queue_cases with ⟨op, rfl, -, rfl⟩ | ⟨step, c, rfl, hhandout, -, rfl⟩ | hleaves
      · have hcapacity : 2 ≤ t.connection.queue.capacity := by
          rw [hrun.capacity_eq]
          omega
        have hlast : ∀ key seq, op ≠ .subscribe key seq := by
          rintro key seq rfl
          exact hplain key seq (List.mem_append_right _ List.mem_cons_self)
        rcases Connection.operate_backlog hstate hrun.agrees hcapacity hlast hopen with
          ⟨hafter, ⟨hnone, hsame⟩ | ⟨e, rfl, hcast, htakes⟩⟩
        · refine ⟨hafter, ?_⟩
          rw [hnone, List.append_nil, onConnection_connection, hsame]
          exact hsuffix
        · refine ⟨hafter, ?_⟩
          have hnew : Move.broadcasts [.operation (.event e)] = [e] := by
            simp [Move.broadcasts, Move.events, Move.event?, hcast]
          rw [hnew, onConnection_connection]
          rcases htakes.events with hbehind | halone
          · rw [hbehind, List.suffix_append_inj_of_length_eq rfl]
            exact ⟨hsuffix, rfl⟩
          · rw [halone]
            exact List.suffix_append _ _
      · have hrest : Outbound.events c.queue.items <:+
            Outbound.events t.connection.queue.items := hhandout.items_suffix.filterMap _
        have hnone : Move.broadcasts [.take] = [] := Move.broadcasts_of_event? rfl
        rw [hnone, List.append_nil]
        exact ⟨hhandout.state_eq.trans hstate, hrest.trans hsuffix⟩
      · rw [hleaves.broadcasts_eq_nil, List.append_nil, hleaves.items_eq]
        exact ⟨hleaves.state_eq.trans hstate, hsuffix⟩

/-- An event for everyone that is offered to a connection with two places, whose client has never
subscribed, enters the queue. -/
theorem Run.takes_broadcast (hrun : Run (accept id identity n) moves done s) (hplaces : 2 ≤ n)
    (hplain : ∀ key seq, .operation (.subscribe key seq) ∉ moves) (hcast : e.isBroadcast = true)
    (hopen : (s.connection.operate (.event e)).state ≠ .closed) :
    s.connection.Takes (.event e) (.event e) := by
  have hmove : Moves s (.operation (.event e)) [] _ := .operation (.event e)
  rcases hrun.backlog hplaces hplain (hmove.open_before hopen) with ⟨hstate, -⟩
  have hcapacity : 2 ≤ s.connection.queue.capacity := by
    rw [hrun.capacity_eq]
    omega
  have hnew : e ∈ Move.broadcasts [.operation (.event e)] :=
    Move.mem_broadcasts List.mem_cons_self hcast
  rcases Connection.operate_backlog hstate hrun.agrees hcapacity (by simp) hopen with
    ⟨-, ⟨hnone, -⟩ | ⟨_, ⟨⟩, -, htakes⟩⟩
  · simp [hnone] at hnew
  · exact htakes

/-- The newest event for everyone is not lost. -/
theorem Run.not_loses {after : List Move} (hplaces : 2 ≤ n)
    (hplain : ∀ key seq, .operation (.subscribe key seq) ∉ moves ++ after)
    (hcast : e.isBroadcast = true) (hnewest : Move.broadcasts after = []) :
    ¬ (accept id identity n).Loses moves after (.event e) := by
  rintro ⟨between, op, rest, earlier, t, rfl, hrun, -, ⟨other, rfl, hopen, hfor, -⟩ | ⟨hkeyed, -⟩⟩
  · have hbefore : ∀ key seq, .operation (.subscribe key seq) ∉ moves ++ between := by
      intro key seq hmem
      apply hplain key seq
      rw [← List.append_assoc]
      exact List.mem_append_left _ hmem
    rcases hrun.backlog hplaces hbefore hopen with ⟨hstate, -⟩
    have hother : other.isBroadcast = true := by
      simpa [hstate, ConnectionState.key?, Event.isFor] using hfor
    have hlater : other ∈ Move.broadcasts (between ++ .operation (.event other) :: rest) :=
      Move.mem_broadcasts (List.mem_append_right _ List.mem_cons_self) hother
    simp [hnewest] at hlater
  · simp [Outbound.isKeyed, hcast] at hkeyed

/-- Let a connection have two places at least, let its client never have subscribed, and let it be
open.  The events that wait are the last of the events for everyone that have been offered, in
order and without a gap.  The newest of these, by its number among all that has been offered,
waits or has been handed to the client: with their numbers, what has been handed over and what
waits are offers in order, each once at most, and the newest event for everyone is among them. -/
theorem Run.keeps_newest (hrun : Run (accept id identity n) moves done t) (hplaces : 2 ≤ n)
    (hplain : ∀ key seq, .operation (.subscribe key seq) ∉ moves)
    (hopen : t.connection.state ≠ .closed) :
    Outbound.events t.connection.queue.items <:+ Move.broadcasts moves ∧
      ∃ sent waiting : List (Outbound × Nat),
        (sent ++ waiting).Sublist (Move.offers moves).zipIdx ∧
        sent.map Prod.fst = Undertaking.frames done ∧
        waiting.map Prod.fst = t.connection.queue.items ∧
        ∀ before e after, moves = before ++ .operation (.event e) :: after →
          e.isBroadcast = true → Move.broadcasts after = [] →
          (.event e, (Move.offers before).length) ∈ sent ++ waiting := by
  refine ⟨(hrun.backlog hplaces hplain hopen).2, ?_⟩
  rcases hrun.books rfl with ⟨sent, waiting, hbooks⟩
  refine ⟨sent, waiting, hbooks.ordered, hbooks.handed, hbooks.lined, ?_⟩
  rintro before e after rfl hcast hnewest
  rcases hrun.split with ⟨earlier, later, u, hbefore, hafter, -⟩
  have hoffered : Run u ([.operation (.event e)] ++ after) later t := hafter
  rcases hoffered.split with ⟨first, rest, v, hfirst, hrest, -⟩
  have hevent : Run u [.operation (.event e)] [] (u.onConnection fun c => c.operate (.event e)) :=
    (Moves.operation (.event e)).run
  rcases hfirst.deterministic hevent with ⟨-, rfl⟩
  have htakes : u.connection.Takes (.event e) (.event e) := by
    refine hbefore.takes_broadcast hplaces ?_ hcast (hrest.open_before hopen)
    exact fun key seq hmem => hplain key seq (List.mem_append_left _ hmem)
  rcases hbooks.complete before (.event e) after earlier u (.event e) rfl hbefore htakes with
    hentry | hloses
  · exact hentry
  · refine absurd hloses (Run.not_loses hplaces ?_ hcast hnewest)
    simpa using hplain

end

/-! ### A backlog that is given up -/

/-- A notice for everyone. -/
def notice (seq : Nat) : Event := .broadcast "notice" (.ofNat seq) default

/-- What happens at a connection with two places: two notices come, and while the first is being
sent neither a third nor the answer to a ping finds room. -/
def flooding : List Move :=
  [.operation (.event (notice 1)), .operation (.event (notice 2)), .start, .take,
    .operation (.event (notice 3)), .operation (.control .pong)]

/-- The notice that found no room waits alone. -/
theorem Run.keeps_newest_of_flooding :
    ∃ t, Run (accept 1 ⟨"ada", none, [], .empty⟩ 2) flooding
        [.send (.frame (.event (notice 1)))] t ∧
      t.connection.queue.items = [.event (notice 3)] ∧
      Outbound.events t.connection.queue.items <:+ [notice 1, notice 2, notice 3] := by
  have hrun : Run (accept 1 ⟨"ada", none, [], .empty⟩ 2) flooding
      [.send (.frame (.event (notice 1)))] _ :=
    .tail (.tail (.tail (.tail (.tail (.tail (.refl _) (.operation _)) (.operation _))
      (.start (.inl rfl))) (.take rfl)) (.operation _)) (.operation _)
  have hplain : ∀ key seq, .operation (.subscribe key seq) ∉ flooding := by simp [flooding]
  rcases hrun.keeps_newest (Nat.le_refl 2) hplain (by decide) with ⟨hsuffix, -⟩
  exact ⟨_, hrun, rfl, hsuffix⟩

end Session
end Gatehouse
