import Gatehouse.Relay.Hub

/-!
# Runs of a session

A session goes on by moves.  From outside come operations on its connection; its
delivery loop begins, takes the next step, wakes, learns that a send is over or that a
fetch is answered, or is dropped.  A run is a sequence of moves, each possible after the
one before, together with what the delivery loop undertakes: the frames it hands to the
client and the resources it asks for, in order.

Main results:

- Theorem {lit}`Connection.operate_change`: all that an operation can do to a connection.
- Theorem {lit}`Connection.nextStep_handout`: all that a delivery loop can be told to do.
- Theorem {lit}`Session.Moves.queue_cases`: all that a move can do to the queue of a session.
- Theorem {lit}`Session.Run.invariant`: what every move keeps, every run keeps.
- Theorem {lit}`Hub.heed_operate`: a client's text is an operation on its connection.
-/

namespace Gatehouse

/-! ## Putting an event into a queue -/

namespace Queue

/-- Whether an event needs a place of its own: it is broadcast, or no snapshot is owed that
would cover it. -/
def NeedsPlace (q : Queue) (e : Event) : Prop :=
  e.isBroadcast = true ∨ q.resync = none

/-- Gives up the backlog for an event, and the event as well if a frame being sent takes the
only place. -/
def restart (q : Queue) (e : Event) : Queue :=
  if q.discard.isFull then q.discard else q.discard.append (.event e)

/-- Starting anew leaves the event alone in the queue, if there is room for it, or nothing. -/
theorem restart_items (q : Queue) (e : Event) :
    (q.discard.isFull = true ∧ (q.restart e).items = []) ∨
      (q.discard.isFull = false ∧ (q.restart e).items = [.event e]) := by
  unfold restart
  cases hfull : q.discard.isFull with
  | true => exact .inl ⟨rfl, rfl⟩
  | false => exact .inr ⟨rfl, rfl⟩

@[simp]
theorem restart_resync (q : Queue) (e : Event) : (q.restart e).resync = q.resync := by
  unfold restart
  split <;> rfl

/-- An event that needs no place is covered by the snapshot that is owed. -/
theorem needsPlace_or_covered (q : Queue) (e : Event) :
    q.NeedsPlace e ∨ e.isBroadcast = false ∧ ∃ seq, q.resync = some seq := by
  unfold NeedsPlace
  cases hcast : e.isBroadcast with
  | true => exact .inl (.inl rfl)
  | false =>
      cases howed : q.resync with
      | none => exact .inl (.inr rfl)
      | some seq => exact .inr ⟨rfl, seq, rfl⟩

/-- A covered event only raises the sequence number of the snapshot. -/
theorem pushEvent_covered {q : Queue} {e : Event} {seq : Seq} (hkeyed : e.isBroadcast = false)
    (howed : q.resync = some seq) (resyncable : Bool) :
    (q.pushEvent e resyncable).1 = q.requestResync e.seq := by
  simp [pushEvent, hkeyed, howed]

/-- The test of an event that needs a place. -/
theorem NeedsPlace.not_covered {q : Queue} {e : Event} (h : q.NeedsPlace e) :
    (!e.isBroadcast && q.resync.isSome) = false := by
  rcases h with hcast | hfresh
  · simp [hcast]
  · simp [hfresh]

/-- With room an event is queued. -/
theorem pushEvent_queued {q : Queue} {e : Event} (hneeds : q.NeedsPlace e)
    (hroom : q.isFull = false) (resyncable : Bool) :
    (q.pushEvent e resyncable).1 = q.append (.event e) := by
  simp [pushEvent, hneeds.not_covered, hroom]

/-- Without room the backlog is given up for a snapshot, if there can be one. -/
theorem pushEvent_overflowed {q : Queue} {e : Event} (hneeds : q.NeedsPlace e)
    (hfull : q.isFull = true) :
    (q.pushEvent e true).1 = q.discard.requestResync e.seq := by
  simp [pushEvent, hneeds.not_covered, hfull, overflow]

/-- Without room and without a snapshot the backlog is given up for the event. -/
theorem pushEvent_truncated {q : Queue} {e : Event} (hneeds : q.NeedsPlace e)
    (hfull : q.isFull = true) : (q.pushEvent e false).1 = q.restart e := by
  simp only [pushEvent, hneeds.not_covered, hfull, overflow, restart, Bool.false_eq_true,
    if_false, if_true]
  split <;> rfl

end Queue

/-! ## Operations on a connection -/

/-- What is done to a connection from outside. -/
inductive Operation where
  /-- An event is offered. -/
  | event (event : Event)
  /-- A message of the gate is offered. -/
  | control (message : ServerMessage)
  /-- The client subscribes. -/
  | subscribe (key : String) (seq : Option Seq)
  /-- The client ends its subscription. -/
  | unsubscribe
  /-- The connection is closed. -/
  | close

/-- Only a subscription has a key. -/
theorem ConnectionState.key?_eq_some {state : ConnectionState} {key : String} :
    state.key? = some key ↔ state = .subscribed key := by
  cases state <;> simp [key?]

namespace Connection

/-- The connection after an operation. -/
def operate (c : Connection) : Operation → Connection
  | .event e => (c.offerEvent e).1
  | .control m => (c.offerControl m).1
  | .subscribe key seq => (c.subscribe key seq).1
  | .unsubscribe => c.unsubscribe.1
  | .close => c.close

/-- Why an operation passes a connection by. -/
inductive Ignores (c : Connection) : Operation → Prop where
  /-- A closed connection can only be closed again. -/
  | closed {op : Operation} (hclosed : c.state = .closed) (hop : op ≠ .close) : Ignores c op
  /-- The event concerns others. -/
  | foreign {e : Event} (hfor : e.isFor c.state.key? = false) : Ignores c (.event e)
  /-- There is no room for the message. -/
  | crowded {m : ServerMessage} (hfull : c.queue.isFull = true) : Ignores c (.control m)

/-- What an operation does to a connection, case by case. -/
inductive Change (c : Connection) : Operation → Connection → Prop where
  /-- Nothing. -/
  | ignored {op : Operation} (h : c.Ignores op) : Change c op c
  /-- The event waits for its turn. -/
  | queued {e : Event} (hopen : c.state ≠ .closed) (hfor : e.isFor c.state.key? = true)
      (hneeds : c.queue.NeedsPlace e) (hroom : c.queue.isFull = false) :
      Change c (.event e) (notify { c with queue := c.queue.append (.event e) })
  /-- The snapshot that is owed covers the event. -/
  | covered {e : Event} {key : String} {seq : Seq} (hstate : c.state = .subscribed key)
      (hkeyed : e.isBroadcast = false) (hkey : e.key = some key)
      (howed : c.queue.resync = some seq) :
      Change c (.event e) (notify { c with queue := c.queue.requestResync e.seq })
  /-- The backlog is given up for a snapshot. -/
  | overflowed {e : Event} {key : String} (hstate : c.state = .subscribed key)
      (hfor : e.isFor (some key) = true) (hneeds : c.queue.NeedsPlace e)
      (hfull : c.queue.isFull = true) :
      Change c (.event e) (notify { c with queue := c.queue.discard.requestResync e.seq })
  /-- The backlog is given up, and the event as well if a frame being sent takes the only
  place. -/
  | truncated {e : Event} (hstate : c.state = .authenticated) (hcast : e.isBroadcast = true)
      (hfull : c.queue.isFull = true) :
      Change c (.event e) (notify { c with queue := c.queue.restart e })
  /-- The message waits for its turn. -/
  | taken {m : ServerMessage} (hopen : c.state ≠ .closed) (hroom : c.queue.isFull = false) :
      Change c (.control m) (notify { c with queue := c.queue.append (.control m) })
  /-- The client subscribes and is owed a snapshot. -/
  | refreshed {key : String} {seq : Seq} (hopen : c.state ≠ .closed) :
      Change c (.subscribe key (some seq)) (notify { c with
        state := .subscribed key, queue := c.queue.dropKeyed.requestResync seq })
  /-- The client subscribes to the key that it has. -/
  | kept {key : String} (hstate : c.state = .subscribed key) :
      Change c (.subscribe key none) c.notify
  /-- The client subscribes to another key. -/
  | switched {key : String} (hopen : c.state ≠ .closed) (hother : c.state ≠ .subscribed key) :
      Change c (.subscribe key none) (notify { c with
        state := .subscribed key, queue := c.queue.dropKeyed })
  /-- The client ends its subscription. -/
  | unsubscribed (hopen : c.state ≠ .closed) :
      Change c .unsubscribe { c with state := .authenticated, queue := c.queue.dropKeyed }
  /-- The connection is closed. -/
  | closed : Change c .close (notify { c with state := .closed })

/-- An open connection is subscribed or not. -/
theorem open_cases (c : Connection) (hopen : c.state ≠ .closed) :
    c.state = .authenticated ∨ ∃ key, c.state = .subscribed key := by
  cases hstate : c.state with
  | authenticated => exact .inl rfl
  | subscribed key => exact .inr ⟨key, rfl⟩
  | closed => exact absurd hstate hopen

theorem isClosed_eq_false {c : Connection} : c.isClosed = false ↔ c.state ≠ .closed := by
  simp [isClosed]

/-- An event that concerns an open connection is put into its queue. -/
theorem offerEvent_of_isFor {c : Connection} {e : Event} (hopen : c.state ≠ .closed)
    (hfor : e.isFor c.state.key? = true) :
    (c.offerEvent e).1 =
      notify { c with queue := (c.queue.pushEvent e c.state.key?.isSome).1 } := by
  simp [offerEvent, isClosed_eq_false.2 hopen, hfor]

/-- What offering an event does. -/
theorem offerEvent_change (c : Connection) (e : Event) :
    c.Change (.event e) (c.offerEvent e).1 := by
  by_cases hclosed : c.state = .closed
  · rw [offerEvent_closed hclosed]
    exact .ignored (.closed hclosed (by simp))
  cases hfor : e.isFor c.state.key? with
  | false =>
      simp only [offerEvent, hfor, Bool.not_false, Bool.or_true, if_true]
      exact .ignored (.foreign hfor)
  | true =>
      rw [offerEvent_of_isFor hclosed hfor]
      rcases c.queue.needsPlace_or_covered e with hneeds | ⟨hkeyed, seq, howed⟩
      · cases hfull : c.queue.isFull with
        | false =>
            rw [Queue.pushEvent_queued hneeds hfull]
            exact .queued hclosed hfor hneeds hfull
        | true =>
            rcases c.open_cases hclosed with hstate | ⟨key, hstate⟩
            · have hcast : e.isBroadcast = true := by
                simpa [hstate, ConnectionState.key?, Event.isFor] using hfor
              have hnokey : c.state.key?.isSome = false := by rw [hstate]; rfl
              rw [hnokey, Queue.pushEvent_truncated hneeds hfull]
              exact .truncated hstate hcast hfull
            · have hkey : c.state.key? = some key := by rw [hstate]; rfl
              rw [hkey] at hfor ⊢
              rw [Option.isSome_some, Queue.pushEvent_overflowed hneeds hfull]
              exact .overflowed hstate hfor hneeds hfull
      · rcases Event.isFor_iff.1 hfor with hcast | ⟨key, hstate, hkey⟩
        · rw [hkeyed] at hcast
          contradiction
        · rw [Queue.pushEvent_covered hkeyed howed]
          exact .covered (ConnectionState.key?_eq_some.1 hstate) hkeyed hkey howed

/-- Whether a message that is offered to the connection is taken. -/
def HasRoom (c : Connection) : Prop := c.state ≠ .closed ∧ c.queue.isFull = false

instance (c : Connection) : Decidable c.HasRoom := inferInstanceAs (Decidable (_ ∧ _))

/-- A connection at whose end of the queue a frame has been put. -/
def enqueue (c : Connection) (frame : Outbound) : Connection :=
  notify { c with queue := c.queue.append frame }

/-- A message that is offered is put at the end of the queue, or nothing changes. -/
theorem offerControl_fst (c : Connection) (m : ServerMessage) :
    (c.offerControl m).1 = if c.HasRoom then c.enqueue (.control m) else c := by
  by_cases hclosed : c.state = .closed
  · rw [offerControl_closed hclosed, if_neg fun hroom => hroom.1 hclosed]
  · have hopen : c.isClosed = false := isClosed_eq_false.2 hclosed
    cases hfull : c.queue.isFull with
    | true =>
        have hnone : ¬ c.HasRoom := by simp [HasRoom, hfull]
        simp [offerControl, hopen, Queue.pushControl, hfull, hnone]
    | false =>
        have hroom : c.HasRoom := ⟨hclosed, hfull⟩
        simp [offerControl, hopen, Queue.pushControl, hfull, hroom, enqueue]

/-- What offering a message does. -/
theorem offerControl_change (c : Connection) (m : ServerMessage) :
    c.Change (.control m) (c.offerControl m).1 := by
  rw [offerControl_fst]
  by_cases hroom : c.HasRoom
  · rw [if_pos hroom]
    exact .taken hroom.1 hroom.2
  · rw [if_neg hroom]
    by_cases hclosed : c.state = .closed
    · exact .ignored (.closed hclosed (by simp))
    · have hfull : c.queue.isFull = true := by simpa [HasRoom, hclosed] using hroom
      exact .ignored (.crowded hfull)

/-- What subscribing does. -/
theorem subscribe_change (c : Connection) (key : String) (seq : Option Seq) :
    c.Change (.subscribe key seq) (c.subscribe key seq).1 := by
  by_cases hclosed : c.state = .closed
  · rw [subscribe_closed hclosed]
    exact .ignored (.closed hclosed (by simp))
  · have hopen : c.isClosed = false := isClosed_eq_false.2 hclosed
    simp only [subscribe, hopen, Bool.false_eq_true, if_false]
    cases seq with
    | some seq => exact .refreshed hclosed
    | none =>
        by_cases hsame : c.state = .subscribed key
        · have hc : { c with state := .subscribed key } = c := by rw [← hsame]
          simpa [hsame, hc] using Change.kept hsame
        · simpa [hsame] using Change.switched hclosed hsame

/-- What an operation does to a connection is one of these cases. -/
theorem operate_change (c : Connection) (op : Operation) : c.Change op (c.operate op) := by
  cases op with
  | event e => exact c.offerEvent_change e
  | control m => exact c.offerControl_change m
  | subscribe key seq => exact c.subscribe_change key seq
  | unsubscribe =>
      by_cases hclosed : c.state = .closed
      · have hignored : c.operate .unsubscribe = c := by
          simp [operate, unsubscribe, isClosed, hclosed]
        rw [hignored]
        exact .ignored (.closed hclosed (by simp))
      · have hopen : c.isClosed = false := isClosed_eq_false.2 hclosed
        simpa [operate, unsubscribe, hopen] using Change.unsubscribed hclosed
  | close => exact .closed

/-! ## Steps of a delivery loop -/

/-- Whether a connection owes no snapshot to a subscription. -/
def OwesNothing (c : Connection) : Prop :=
  ∀ key, c.state = .subscribed key → c.queue.resync = none

/-- What a delivery loop is told to do, case by case, and what is left. -/
inductive Handout (c : Connection) : Step → Connection → Prop where
  /-- The connection is closed. -/
  | closed (hclosed : c.state = .closed) : Handout c .closed c
  /-- Nothing waits. -/
  | idle (hopen : c.state ≠ .closed) (hclear : c.OwesNothing) (hempty : c.queue.items = []) :
      Handout c .idle { c with queue := { c.queue with resync := none } }
  /-- The snapshot that is owed. -/
  | resync {key : String} {seq : Seq} (hstate : c.state = .subscribed key)
      (howed : c.queue.resync = some seq) :
      Handout c (.resync key seq)
        { c with queue := { c.queue with resync := none, inFlight := true } }
  /-- The oldest frame. -/
  | frame {frame : Outbound} {rest : List Outbound} (hopen : c.state ≠ .closed)
      (hclear : c.OwesNothing) (hfirst : c.queue.items = frame :: rest) :
      Handout c (.frame frame)
        { c with queue := { c.queue with items := rest, resync := none, inFlight := true } }

/-- No step of a delivery loop opens or closes a connection or changes its subscription. -/
theorem Handout.state_eq {c c' : Connection} {step : Step} (h : c.Handout step c') :
    c'.state = c.state := by
  cases h <;> rfl

/-- Without a snapshot that is owed the oldest frame is next, if there is one. -/
theorem nextFrame_handout {c : Connection} (hopen : c.state ≠ .closed) (hclear : c.OwesNothing) :
    c.Handout c.nextFrame.1 c.nextFrame.2 := by
  cases hitems : c.queue.items with
  | nil =>
      have hnext : c.nextFrame =
          (.idle, { c with queue := { c.queue with resync := none } }) := by
        simp [nextFrame, Queue.pop, hitems]
      rw [hnext]
      exact .idle hopen hclear hitems
  | cons frame rest =>
      have hnext : c.nextFrame = (.frame frame,
          { c with queue :=
            { c.queue with items := rest, resync := none, inFlight := true } }) := by
        simp [nextFrame, Queue.pop, hitems, Queue.startSend]
      rw [hnext]
      exact .frame hopen hclear hitems

/-- Without a snapshot that is owed a subscription makes no difference. -/
theorem nextStep_eq_nextFrame {c : Connection} (hopen : c.state ≠ .closed)
    (hclear : c.OwesNothing) : c.nextStep = c.nextFrame := by
  rcases c.open_cases hopen with hstate | ⟨key, hstate⟩
  · simp [nextStep, hstate]
  · have hnone : c.queue.resync = none := hclear key hstate
    have hqueue : ({ c.queue with resync := none } : Queue) = c.queue := by rw [← hnone]
    cases hitems : c.queue.items with
    | nil =>
        have hpop : c.queue.pop = none := by simp [Queue.pop, hnone, hitems]
        have hstep : c.nextStep = (.idle, c) := by simp [nextStep, hstate, hpop]
        have hframe : c.nextFrame = (.idle, c) := by simp only [nextFrame, hqueue, hpop]
        rw [hstep, hframe]
    | cons frame rest => simp [nextStep, nextFrame, hstate, Queue.pop, hnone, hitems]

/-- A snapshot that is owed to a subscription is next. -/
theorem nextStep_of_owed {c : Connection} {key : String} {seq : Seq}
    (hstate : c.state = .subscribed key) (howed : c.queue.resync = some seq) :
    c.nextStep = (.resync key seq,
      { c with queue := { c.queue with resync := none, inFlight := true } }) := by
  simp [nextStep, hstate, Queue.pop_of_resync howed, Queue.startSend]

/-- What a delivery loop is told to do is one of these cases. -/
theorem nextStep_handout (c : Connection) : c.Handout c.nextStep.1 c.nextStep.2 := by
  by_cases hclosed : c.state = .closed
  · rw [nextStep_closed hclosed]
    exact .closed hclosed
  by_cases hclear : c.OwesNothing
  · rw [nextStep_eq_nextFrame hclosed hclear]
    exact nextFrame_handout hclosed hclear
  · simp only [OwesNothing, Classical.not_forall] at hclear
    rcases hclear with ⟨key, hstate, howes⟩
    rcases Option.ne_none_iff_exists'.1 howes with ⟨seq, howed⟩
    rw [nextStep_of_owed hstate howed]
    exact .resync hstate howed

end Connection

/-- A client's text is an operation on its connection. -/
theorem Hub.heed_operate (c : Connection) (text : String) :
    ∃ op, Hub.heed c text = c.operate op := by
  cases hread : ClientMessage.decode text with
  | error fault =>
      exact ⟨.control (.error ⟨400, by decide⟩ ("invalid message: " ++ fault.message)), by
        simp [Hub.heed, hread, Connection.operate]⟩
  | ok message =>
      cases message with
      | subscribe key seq =>
          exact ⟨.subscribe key seq, by simp [Hub.heed, hread, Connection.operate]⟩
      | unsubscribe => exact ⟨.unsubscribe, by simp [Hub.heed, hread, Connection.operate]⟩
      | ping => exact ⟨.control .pong, by simp [Hub.heed, hread, Connection.operate]⟩

/-! ## Moves of a session -/

/-- What a delivery loop undertakes and then waits for. -/
inductive Undertaking where
  /-- It hands something to the client. -/
  | send (dispatch : Dispatch)
  /-- It asks for the resource of a key. -/
  | fetch (key : String) (seq : Seq)

/-- What a loop in a phase has undertaken. -/
def Phase.undertaking? : Phase → Option Undertaking
  | .sending dispatch => some (.send dispatch)
  | .fetching key seq => some (.fetch key seq)
  | _ => none

/-- What may happen to a session. -/
inductive Move where
  /-- An operation on the connection. -/
  | operation (op : Operation)
  /-- A delivery loop begins. -/
  | start
  /-- The delivery loop is dropped. -/
  | abandon
  /-- The delivery loop takes the next step. -/
  | take
  /-- The delivery loop wakes. -/
  | wake
  /-- A send is over. -/
  | sent (outcome : Except String Unit)
  /-- A fetch is answered. -/
  | fetched (answer : Except SnapshotFault Json.Value)

/-- Where a step brings a delivery loop. -/
def Step.phase : Step → Phase
  | .closed => .ended (.ok ())
  | .idle => .parked
  | .resync key seq => .fetching key seq
  | .frame outbound => .sending (.frame outbound)

namespace Session

/-- Taking the next step is one of the cases of a handout. -/
theorem take_handout (s : Session) :
    ∃ step c, s.connection.Handout step c ∧ s.take = s.enter c step.phase := by
  refine ⟨_, _, s.connection.nextStep_handout, ?_⟩
  unfold take
  rcases s.connection.nextStep with ⟨step, c⟩
  cases step <;> rfl

/-- After a send the loop goes on, unless the send failed or was its last. -/
theorem sent_cases (s : Session) (dispatch : Dispatch) (outcome : Except String Unit) :
    (outcome = .ok () ∧ (∀ fault, dispatch ≠ .notice fault) ∧
      s.sent dispatch outcome = s.enter s.connection.finishSend .ready) ∨
    (∃ reason, outcome = .error reason ∧ (∀ fault, dispatch ≠ .notice fault) ∧
      s.sent dispatch outcome = s.enter s.connection (.ended (.error (.send reason)))) ∨
    (∃ fault, dispatch = .notice fault ∧
      s.sent dispatch outcome = s.enter s.connection (.ended (.error (.snapshot fault)))) := by
  cases dispatch with
  | notice fault => exact .inr (.inr ⟨fault, rfl, rfl⟩)
  | frame frame =>
      cases outcome with
      | ok => exact .inl ⟨rfl, by simp, rfl⟩
      | error reason => exact .inr (.inl ⟨reason, rfl, by simp, rfl⟩)
  | snapshot key resource seq =>
      cases outcome with
      | ok => exact .inl ⟨rfl, by simp, rfl⟩
      | error reason => exact .inr (.inl ⟨reason, rfl, by simp, rfl⟩)

/-- After a fetch the loop sends what was fetched, unless the connection has been closed, or
a notice that nothing was fetched. -/
theorem fetched_cases (s : Session) (key : String) (seq : Seq)
    (answer : Except SnapshotFault Json.Value) :
    (∃ resource, answer = .ok resource ∧ s.connection.state ≠ .closed ∧
      s.fetched key seq answer =
        s.enter s.connection (.sending (.snapshot key resource seq))) ∨
    (∃ resource, answer = .ok resource ∧ s.connection.state = .closed ∧
      s.fetched key seq answer = s.enter s.connection (.ended (.ok ()))) ∨
    (∃ fault, answer = .error fault ∧
      s.fetched key seq answer = s.enter s.connection (.sending (.notice fault))) := by
  cases answer with
  | error fault => exact .inr (.inr ⟨fault, rfl, rfl⟩)
  | ok resource =>
      by_cases hclosed : s.connection.state = .closed
      · refine .inr (.inl ⟨resource, rfl, hclosed, ?_⟩)
        simp [fetched, Connection.isClosed, hclosed]
      · refine .inl ⟨resource, rfl, hclosed, ?_⟩
        simp [fetched, Connection.isClosed_eq_false.2 hclosed]

/-- What the loop of a session has undertaken. -/
def undertakings (s : Session) : List Undertaking :=
  (s.loop.bind Phase.undertaking?).toList

@[simp]
theorem undertakings_enter (s : Session) (connection : Connection) (phase : Phase) :
    (s.enter connection phase).undertakings = phase.undertaking?.toList :=
  rfl

/-- Whether no delivery loop is under way. -/
def AtRest (s : Session) : Prop :=
  s.loop = none ∨ ∃ result, s.loop = some (.ended result)

/-- When a move is possible, what the delivery loop undertakes with it, and where it
leads. -/
inductive Moves (s : Session) : Move → List Undertaking → Session → Prop where
  | operation (op : Operation) :
      Moves s (.operation op) [] (s.onConnection fun c => c.operate op)
  | start (hrest : s.AtRest) : Moves s .start [] s.start
  | abandon : Moves s .abandon [] s.abandon
  | take (hready : s.loop = some .ready) : Moves s .take s.take.undertakings s.take
  | wake (hparked : s.loop = some .parked) (hsignal : s.connection.signal = true) :
      Moves s .wake [] s.wake
  | sent {dispatch : Dispatch} (hsending : s.loop = some (.sending dispatch))
      (outcome : Except String Unit) : Moves s (.sent outcome) [] (s.sent dispatch outcome)
  | fetched {key : String} {seq : Seq} (hfetching : s.loop = some (.fetching key seq))
      (answer : Except SnapshotFault Json.Value) :
      Moves s (.fetched answer) (s.fetched key seq answer).undertakings
        (s.fetched key seq answer)

/-- What every move leaves as it is but an operation and a step of the delivery loop. -/
structure LeavesQueue (s : Session) (move : Move) (now : List Undertaking) (t : Session) :
    Prop where
  id_eq : t.connection.id = s.connection.id
  identity_eq : t.connection.identity = s.connection.identity
  state_eq : t.connection.state = s.connection.state
  items_eq : t.connection.queue.items = s.connection.queue.items
  resync_eq : t.connection.queue.resync = s.connection.queue.resync
  not_operation : ∀ op, move ≠ .operation op
  asks_nothing : ∀ key seq, .fetch key seq ∉ now

/-- A move is an operation, or the delivery loop takes the next step, or it leaves the queue and
the subscription as they are. -/
theorem Moves.queue_cases {s t : Session} {move : Move} {now : List Undertaking}
    (h : Moves s move now t) :
    (∃ op, move = .operation op ∧ now = [] ∧ t = s.onConnection fun c => c.operate op) ∨
    (∃ step c, move = .take ∧ s.connection.Handout step c ∧
      now = step.phase.undertaking?.toList ∧ t = s.enter c step.phase) ∨
    LeavesQueue s move now t := by
  cases h with
  | operation op => exact .inl ⟨op, rfl, rfl, rfl⟩
  | start => exact .inr (.inr ⟨rfl, rfl, rfl, rfl, rfl, by simp, by simp⟩)
  | abandon => exact .inr (.inr ⟨rfl, rfl, rfl, rfl, rfl, by simp, by simp⟩)
  | take =>
      rcases s.take_handout with ⟨step, c, hhandout, htake⟩
      exact .inr (.inl ⟨step, c, rfl, hhandout, by rw [htake, undertakings_enter], htake⟩)
  | wake _ hsignal =>
      rw [wake_of_signal hsignal]
      exact .inr (.inr ⟨rfl, rfl, rfl, rfl, rfl, by simp, by simp⟩)
  | @sent dispatch _ outcome =>
      rcases s.sent_cases dispatch outcome with
        ⟨-, -, hsent⟩ | ⟨_, -, -, hsent⟩ | ⟨_, -, hsent⟩ <;>
        rw [hsent] <;>
        exact .inr (.inr ⟨rfl, rfl, rfl, rfl, rfl, by simp, by simp⟩)
  | @fetched key seq _ answer =>
      rcases s.fetched_cases key seq answer with
        ⟨_, -, -, hfetched⟩ | ⟨_, -, -, hfetched⟩ | ⟨_, -, hfetched⟩ <;>
        rw [hfetched] <;>
        exact .inr (.inr ⟨rfl, rfl, rfl, rfl, rfl, by simp, by simp [Phase.undertaking?]⟩)

/-- A sequence of moves, what the delivery loop undertakes in it, and where it leads. -/
inductive Run : Session → List Move → List Undertaking → Session → Prop where
  | refl (s : Session) : Run s [] [] s
  | tail {s t u : Session} {moves : List Move} {move : Move} {done now : List Undertaking}
      (hrun : Run s moves done t) (hmove : Moves t move now u) :
      Run s (moves ++ [move]) (done ++ now) u

/-- A move is a run. -/
theorem Moves.run {s t : Session} {move : Move} {now : List Undertaking}
    (h : Moves s move now t) : Run s [move] now t :=
  .tail (.refl s) h

/-- Runs follow each other. -/
theorem Run.trans {s t u : Session} {moves more : List Move} {done now : List Undertaking}
    (hrun : Run s moves done t) (hmore : Run t more now u) :
    Run s (moves ++ more) (done ++ now) u := by
  induction hmore with
  | refl => simpa using hrun
  | tail _ hmove ih =>
      rw [← List.append_assoc, ← List.append_assoc]
      exact ih.tail hmove

/-- A run of some moves and then others is a run of these after one of those. -/
theorem Run.split {s u : Session} {moves more : List Move} {done : List Undertaking}
    (hrun : Run s (moves ++ more) done u) :
    ∃ earlier later t, Run s moves earlier t ∧ Run t more later u ∧ done = earlier ++ later := by
  generalize hall : moves ++ more = all at hrun
  induction hrun generalizing more with
  | refl =>
      rcases List.append_eq_nil_iff.1 hall with ⟨rfl, rfl⟩
      exact ⟨[], [], s, .refl s, .refl s, rfl⟩
  | @tail t u before move done now hrun hmove ih =>
      rcases List.eq_nil_or_concat more with rfl | ⟨rest, last, rfl⟩
      · rw [List.append_nil] at hall
        subst hall
        exact ⟨done ++ now, [], u, hrun.tail hmove, .refl u, (List.append_nil _).symm⟩
      · rw [List.concat_eq_append, ← List.append_assoc] at hall
        rcases List.append_inj' hall rfl with ⟨hbefore, hlast⟩
        rw [List.cons.injEq] at hlast
        rcases ih hbefore with ⟨earlier, later, middle, hfirst, hsecond, rfl⟩
        rw [List.concat_eq_append, hlast.1]
        exact ⟨earlier, later ++ now, middle, hfirst, hsecond.tail hmove,
          List.append_assoc _ _ _⟩

/-- What every move keeps, every run keeps. -/
theorem Run.invariant {P : Session → Prop}
    (hkeeps : ∀ {s t : Session} {move : Move} {now : List Undertaking},
      Moves s move now t → P s → P t)
    {s t : Session} {moves : List Move} {done : List Undertaking}
    (hrun : Run s moves done t) (hs : P s) : P t := by
  induction hrun with
  | refl => exact hs
  | tail _ hmove ih => exact hkeeps hmove ih

end Session
end Gatehouse
