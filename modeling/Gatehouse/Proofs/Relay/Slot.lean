import Gatehouse.Proofs.Relay.Occupancy
import Gatehouse.Proofs.Relay.Order

/-!
# The place of the frame being sent

A delivery loop that takes a frame or fetches a snapshot takes a place of the queue for it, and
gives the place back when the send is over.  It gives it back on that way alone: a send that
fails, a fetch that fails or comes too late, and a loop that is dropped leave the place taken,
although nothing is being sent.  The next send that is over frees it.

Main results:

- Theorem {lit}`Session.Run.inFlight_iff`: when the place is taken.
- Theorem {lit}`Connection.foldl_operate_items_iff`: how many more frames find room.
- Theorem {lit}`Session.Run.slot_kept_iff`: when a place stays taken for nothing, and how many
  frames find room then.
-/

namespace Gatehouse

/-! ## How a step ends -/

/-- How a step that a delivery loop has taken comes to its end. -/
inductive Ending where
  /-- The frame has been sent. -/
  | completed
  /-- The send failed. -/
  | unsent (reason : String)
  /-- The fetch failed, and the client has been told or not. -/
  | unfetched (fault : SnapshotFault)
  /-- The connection was closed before the fetch was answered. -/
  | overtaken
  /-- The delivery loop was dropped. -/
  | dropped
deriving DecidableEq, Repr

/-- Whether the last of some steps has ended otherwise than by a send that is over. -/
def Ending.Strands (endings : List Ending) : Prop :=
  ∃ e ∈ endings.getLast?, e ≠ .completed

@[simp]
theorem Ending.not_strands_nil : ¬ Ending.Strands [] := by
  simp [Ending.Strands]

@[simp]
theorem Ending.strands_append_singleton {endings : List Ending} {e : Ending} :
    Ending.Strands (endings ++ [e]) ↔ e ≠ .completed := by
  simp [Ending.Strands]

namespace Session

/-- Whether the delivery loop is between taking a step and the end of its send. -/
def IsMidway (s : Session) : Prop := s.loop.bind Phase.undertaking? ≠ none

instance (s : Session) : Decidable s.IsMidway :=
  decidable_of_iff ((s.loop.bind Phase.undertaking?).isSome = true)
    Option.isSome_iff_ne_none

theorem isMidway_of_loop {s : Session} {phase : Phase} (h : s.loop = some phase) :
    s.IsMidway ↔ phase.undertaking? ≠ none := by
  simp [IsMidway, h]

@[simp]
theorem isMidway_enter (s : Session) (c : Connection) (phase : Phase) :
    (s.enter c phase).IsMidway ↔ phase.undertaking? ≠ none :=
  isMidway_of_loop rfl

@[simp]
theorem isMidway_onConnection (s : Session) (f : Connection → Connection) :
    (s.onConnection f).IsMidway ↔ s.IsMidway :=
  Iff.rfl

/-- A delivery loop that is not under way has taken no step. -/
theorem not_isMidway_of_atRest {s : Session} (h : s.AtRest) : ¬ s.IsMidway := by
  rcases h with hnone | ⟨result, hended⟩
  · simp [IsMidway, hnone]
  · simp [isMidway_of_loop hended, Phase.undertaking?]

/-- How a move ends the step that the delivery loop has taken, if it does. -/
def ending? (s : Session) : Move → Option Ending
  | .sent outcome =>
      match s.loop, outcome with
      | some (.sending (.notice fault)), _ => some (.unfetched fault)
      | some (.sending _), .ok () => some .completed
      | some (.sending _), .error reason => some (.unsent reason)
      | _, _ => none
  | .fetched (.ok _) => if s.connection.isClosed then some .overtaken else none
  | .abandon => if s.IsMidway then some .dropped else none
  | _ => none

/-- Where a move leads if it is possible. -/
def after (s : Session) : Move → Session
  | .operation op => s.onConnection fun c => c.operate op
  | .start => s.start
  | .abandon => s.abandon
  | .take => s.take
  | .wake => s.wake
  | .sent outcome =>
      match s.loop with
      | some (.sending dispatch) => s.sent dispatch outcome
      | _ => s
  | .fetched answer =>
      match s.loop with
      | some (.fetching key seq) => s.fetched key seq answer
      | _ => s

/-- How the steps that were taken end in some moves, in order. -/
def endings : Session → List Move → List Ending
  | _, [] => []
  | s, move :: rest => (s.ending? move).toList ++ (s.after move).endings rest

variable {s t : Session} {move : Move} {moves : List Move} {done now : List Undertaking}

theorem Moves.after_eq (h : Moves s move now t) : s.after move = t := by
  cases h with
  | sent hsending => simp [after, hsending]
  | fetched hfetching => simp [after, hfetching]
  | _ => rfl

theorem endings_append (s : Session) (moves more : List Move) :
    s.endings (moves ++ more) = s.endings moves ++ (moves.foldl after s).endings more := by
  induction moves generalizing s with
  | nil => rfl
  | cons move moves ih => simp [endings, ih]

theorem Run.foldl_after (hrun : Run s moves done t) : moves.foldl after s = t := by
  induction hrun with
  | refl => rfl
  | tail _ hmove ih => simp [ih, hmove.after_eq]

/-- The steps that have ended after one more move. -/
theorem Run.endings_snoc (hrun : Run s moves done t) (move : Move) :
    s.endings (moves ++ [move]) = s.endings moves ++ (t.ending? move).toList := by
  rw [endings_append, hrun.foldl_after]
  simp [endings]

/-! ## When the place is taken -/

/-- If the place is taken exactly while a step is under way or because the last one has not
been completed, this is so after a move. -/
theorem Moves.inFlight_iff (h : Moves s move now t) {ends : List Ending}
    (hbefore : s.connection.queue.inFlight = true ↔ s.IsMidway ∨ Ending.Strands ends) :
    t.connection.queue.inFlight = true ↔
      t.IsMidway ∨ Ending.Strands (ends ++ (s.ending? move).toList) := by
  cases h with
  | operation op =>
      have hflight := (s.connection.operate_change op).inFlight_eq
      simp [hflight, hbefore, ending?]
  | start hrest =>
      have hstill : ¬ s.IsMidway := not_isMidway_of_atRest hrest
      have hready : ¬ s.start.IsMidway := by simp [isMidway_of_loop, Phase.undertaking?]
      simp [hbefore, hstill, hready, ending?]
  | abandon =>
      have hgone : ¬ s.abandon.IsMidway := not_isMidway_of_atRest (.inl rfl)
      by_cases hmidway : s.IsMidway
      · simp [hbefore, hmidway, hgone, ending?]
      · simp [hbefore, hmidway, hgone, ending?]
  | take hready =>
      have hstill : ¬ s.IsMidway := by simp [isMidway_of_loop hready, Phase.undertaking?]
      rcases s.take_handout with ⟨step, c, hhandout, htake⟩
      rw [htake]
      cases hhandout with
      | closed => simp [hbefore, hstill, ending?, Step.phase, Phase.undertaking?]
      | idle => simp [hbefore, hstill, ending?, Step.phase, Phase.undertaking?]
      | resync => simp [Step.phase, Phase.undertaking?]
      | frame => simp [Step.phase, Phase.undertaking?]
  | wake hparked hsignal =>
      have hstill : ¬ s.IsMidway := by simp [isMidway_of_loop hparked, Phase.undertaking?]
      rw [wake_of_signal hsignal]
      simp [hbefore, hstill, ending?, Phase.undertaking?]
  | @sent dispatch hsending outcome =>
      have hmidway : s.IsMidway := by simp [isMidway_of_loop hsending, Phase.undertaking?]
      have htaken : s.connection.queue.inFlight = true := hbefore.2 (.inl hmidway)
      rcases s.sent_cases dispatch outcome with
        ⟨rfl, hframe, hsent⟩ | ⟨reason, rfl, hframe, hsent⟩ | ⟨fault, rfl, hsent⟩
      · have hending : s.ending? (.sent (.ok ())) = some .completed := by
          cases dispatch <;> simp_all [ending?]
        simp [hsent, hending, Connection.finishSend, Queue.finishSend, Phase.undertaking?]
      · have hending : s.ending? (.sent (.error reason)) = some (.unsent reason) := by
          cases dispatch <;> simp_all [ending?]
        simp [hsent, hending, htaken, Phase.undertaking?]
      · have hending : s.ending? (.sent outcome) = some (.unfetched fault) := by
          simp [ending?, hsending]
        simp [hsent, hending, htaken, Phase.undertaking?]
  | @fetched key seq hfetching answer =>
      have hmidway : s.IsMidway := by simp [isMidway_of_loop hfetching, Phase.undertaking?]
      have htaken : s.connection.queue.inFlight = true := hbefore.2 (.inl hmidway)
      rcases s.fetched_cases key seq answer with
        ⟨resource, rfl, hopen, hfetched⟩ | ⟨resource, rfl, hclosed, hfetched⟩ |
        ⟨fault, rfl, hfetched⟩
      · simp [hfetched, htaken, Phase.undertaking?]
      · simp [hfetched, htaken, ending?, Connection.isClosed, hclosed, Phase.undertaking?]
      · simp [hfetched, htaken, Phase.undertaking?]

/-- In every run the place is taken exactly while a step is under way or because the last one
has not been completed. -/
theorem Run.inFlight_iff {id n : Nat} {identity : Identity}
    (hrun : Run (accept id identity n) moves done s) :
    s.connection.queue.inFlight = true ↔
      s.IsMidway ∨ Ending.Strands ((accept id identity n).endings moves) := by
  induction hrun with
  | refl => simp [accept, Connection.accept, Queue.ofCapacity, endings, IsMidway]
  | tail hbefore hmove ih =>
      rw [hbefore.endings_snoc]
      exact hmove.inFlight_iff ih

end Session

/-! ## How many frames find room -/

namespace Connection

/-- Whether an operation offers a frame that is for the connection and needs a place of its
own. -/
def Seeks (c : Connection) : Operation → Prop
  | .event e => e.isFor c.state.key? = true ∧ c.queue.NeedsPlace e
  | .control _ => True
  | _ => False

variable {c : Connection} {op : Operation} {ops : List Operation}

theorem offer?_isSome (hseeks : c.Seeks op) : op.offer?.isSome = true := by
  cases op with
  | event | control => rfl
  | _ => exact hseeks.elim

/-- With room the frame that is offered is put behind those that wait, and nothing else
changes. -/
theorem operate_of_room (hopen : c.state ≠ .closed) (hseeks : c.Seeks op)
    (hroom : c.queue.isFull = false) :
    ∃ frame, op.offer? = some frame ∧
      c.operate op = notify { c with queue := c.queue.append frame } := by
  cases op with
  | event e =>
      rcases hseeks with ⟨hfor, hneeds⟩
      refine ⟨.event e, rfl, ?_⟩
      rw [operate, offerEvent_of_isFor hopen hfor, Queue.pushEvent_queued hneeds hroom]
  | control m =>
      have htaken : c.HasRoom := ⟨hopen, hroom⟩
      refine ⟨.control m, rfl, ?_⟩
      rw [operate, offerControl_fst, if_pos htaken, enqueue]
  | _ => exact hseeks.elim

/-- Operations one after another keep the place of the frame being sent and take no place that
is not there. -/
theorem foldl_operate_occupied_le (c : Connection) (ops : List Operation) :
    (ops.foldl operate c).queue.inFlight = c.queue.inFlight ∧
      (ops.foldl operate c).queue.occupied ≤ max c.queue.occupied c.queue.capacity := by
  induction ops generalizing c with
  | nil => exact ⟨rfl, Nat.le_max_left _ _⟩
  | cons op ops ih =>
      have hchange := c.operate_change op
      have hoccupied := hchange.occupied_le
      rcases ih (c.operate op) with ⟨hflight, hlater⟩
      rw [hchange.capacity_eq] at hlater
      refine ⟨hflight.trans hchange.inFlight_eq, ?_⟩
      rw [List.foldl_cons]
      omega

/-- If there are places for them, the frames that are offered to an open connection are put
behind those that wait. -/
theorem foldl_operate_of_places (hopen : c.state ≠ .closed) (hseeks : ∀ op ∈ ops, c.Seeks op)
    (hplaces : ops.length ≤ c.queue.capacity - c.queue.occupied) :
    (ops.foldl operate c).queue.items = c.queue.items ++ ops.filterMap Operation.offer? := by
  induction ops generalizing c with
  | nil => simp
  | cons op ops ih =>
      rw [List.forall_mem_cons] at hseeks
      rw [List.length_cons] at hplaces
      rcases operate_of_room hopen hseeks.1 (Queue.room_iff.2 (by omega)) with
        ⟨frame, hoffer, hqueued⟩
      have hleft : ops.length ≤
          (c.operate op).queue.capacity - (c.operate op).queue.occupied := by
        simp only [hqueued, notify_queue, Queue.append_capacity, Queue.occupied,
          Queue.append_items, Queue.append_inFlight, List.length_append,
          List.length_singleton] at hplaces ⊢
        omega
      -- A frame behind the others changes nothing that the later offers depend on.
      have hlater := ih (c := c.operate op) (by rwa [hqueued]) (by rw [hqueued]; exact hseeks.2)
        hleft
      rw [List.foldl_cons, hlater, hqueued, List.filterMap_cons_some hoffer]
      simp

/-- The frames that are offered to an open connection are put behind those that wait, one after
another, exactly if there are places for them. -/
theorem foldl_operate_items_iff (hopen : c.state ≠ .closed) (hseeks : ∀ op ∈ ops, c.Seeks op) :
    (ops.foldl operate c).queue.items = c.queue.items ++ ops.filterMap Operation.offer? ↔
      ops.length ≤ c.queue.capacity - c.queue.occupied := by
  constructor
  · intro hitems
    have hoffers : (ops.filterMap Operation.offer?).length = ops.length := by
      rw [List.length_filterMap_eq_countP, List.countP_eq_length]
      exact fun op hop => offer?_isSome (hseeks op hop)
    rcases c.foldl_operate_occupied_le ops with ⟨hflight, hoccupied⟩
    simp only [Queue.occupied, hitems, hflight, List.length_append, hoffers] at hoccupied ⊢
    omega
  · exact foldl_operate_of_places hopen hseeks

end Connection

/-! ## Places that stay taken -/

namespace Session

variable {s : Session} {moves : List Move} {done : List Undertaking} {id n : Nat}
  {identity : Identity}

/-- The places of a session that no step is under way at. -/
theorem Run.occupied_eq (hrun : Run (accept id identity n) moves done s)
    (hidle : ¬ s.IsMidway) :
    (Ending.Strands ((accept id identity n).endings moves) →
      s.connection.queue.occupied = s.connection.queued + 1) ∧
    (¬ Ending.Strands ((accept id identity n).endings moves) →
      s.connection.queue.occupied = s.connection.queued) := by
  have hflight := hrun.inFlight_iff
  rw [or_iff_right hidle] at hflight
  constructor
  · intro hstrands
    simp [Queue.occupied, Connection.queued, hflight.2 hstrands]
  · intro hcompleted
    have hfree : s.connection.queue.inFlight = false :=
      Bool.eq_false_iff.2 (mt hflight.1 hcompleted)
    simp [Queue.occupied, Connection.queued, hfree]

/-- While no delivery loop is between taking a step and the end of its send, the place of the
frame being sent is taken exactly if the last step that was taken has ended otherwise than by a
send that is over.  An open connection then has room for one frame less: the frames that are
offered to it are put behind those that wait exactly if there is a place for each of them and
for the one that is not being sent.  Otherwise they are exactly if the queue has a place for
each of them. -/
theorem Run.slot_kept_iff (hrun : Run (accept id identity n) moves done s)
    (hidle : ¬ s.IsMidway) :
    (s.connection.queue.inFlight = true ↔
      Ending.Strands ((accept id identity n).endings moves)) ∧
    (s.connection.state ≠ .closed → ∀ ops, (∀ op ∈ ops, s.connection.Seeks op) →
      (Ending.Strands ((accept id identity n).endings moves) →
        ((ops.foldl Connection.operate s.connection).queue.items =
            s.connection.queue.items ++ ops.filterMap Operation.offer? ↔
          ops = [] ∨ s.connection.queued + 1 + ops.length ≤ max 1 n)) ∧
      (¬ Ending.Strands ((accept id identity n).endings moves) →
        ((ops.foldl Connection.operate s.connection).queue.items =
            s.connection.queue.items ++ ops.filterMap Operation.offer? ↔
          s.connection.queued + ops.length ≤ max 1 n))) := by
  have hflight := hrun.inFlight_iff
  rw [or_iff_right hidle] at hflight
  refine ⟨hflight, ?_⟩
  intro hopen ops hseeks
  have hcapacity := hrun.capacity_eq
  have hqueued := hrun.beyond_capacity_iff.1
  rcases hrun.occupied_eq hidle with ⟨hstranded, hcompleted⟩
  rw [Connection.foldl_operate_items_iff hopen hseeks, hcapacity, ← List.length_eq_zero_iff]
  constructor
  · intro hstrands
    rw [hstranded hstrands]
    omega
  · intro hfree
    rw [hcompleted hfree]
    omega

/-! ### A send that fails -/

/-- A session with one place whose delivery loop has ended with a send that failed. -/
def failing : Session :=
  (((accept 1 ⟨"ada", none, [], .empty⟩ 1).onConnection fun c =>
    c.operate (.event (.broadcast "notice" (.ofNat 6) default))).start.take).sent
      (.frame (.event (.broadcast "notice" (.ofNat 6) default))) (.error "gone")

theorem failing_run :
    Run (accept 1 ⟨"ada", none, [], .empty⟩ 1)
      [.operation (.event (.broadcast "notice" (.ofNat 6) default)), .start, .take,
        .sent (.error "gone")]
      [.send (.frame (.event (.broadcast "notice" (.ofNat 6) default)))] failing :=
  .tail (.tail (.tail (.tail (.refl _) (.operation _)) (.start (.inl rfl))) (.take rfl))
    (.sent rfl (.error "gone"))

theorem not_isMidway_failing : ¬ failing.IsMidway :=
  not_isMidway_of_atRest (.inr ⟨_, rfl⟩)

/-- The only place stays taken, so that the answer to a ping finds none. -/
theorem Run.slot_kept_of_failing :
    ¬ failing.IsMidway ∧ failing.connection.state ≠ .closed ∧
      failing.connection.queue.inFlight = true ∧ failing.connection.queued = 0 ∧
      ([Operation.control .pong].foldl Connection.operate failing.connection).queue.items ≠
        failing.connection.queue.items ++ [Outbound.control .pong] := by
  have hopen : failing.connection.state ≠ .closed := by
    have hstate : failing.connection.state = .authenticated := rfl
    simp [hstate]
  have hstrands : Ending.Strands
      ((accept 1 ⟨"ada", none, [], .empty⟩ 1).endings
        [.operation (.event (.broadcast "notice" (.ofNat 6) default)), .start, .take,
          .sent (.error "gone")]) :=
    ⟨.unsent "gone", rfl, by simp⟩
  rcases failing_run.slot_kept_iff not_isMidway_failing with ⟨hflight, hroom⟩
  refine ⟨not_isMidway_failing, hopen, hflight.2 hstrands, rfl, ?_⟩
  intro hitems
  have hseeks : ∀ op ∈ [Operation.control .pong], failing.connection.Seeks op := by
    simp [Connection.Seeks]
  have hplaces := ((hroom hopen _ hseeks).1 hstrands).1 hitems
  simp at hplaces

/-- The place of the frame being sent can stay taken when no step is under way. -/
theorem not_always_freed :
    ¬ ∀ (id n : Nat) (identity : Identity) (moves : List Move) (done : List Undertaking)
      (s : Session), Run (accept id identity n) moves done s → ¬ s.IsMidway →
        s.connection.queue.inFlight = false := by
  intro hfreed
  have hfree : failing.connection.queue.inFlight = false :=
    hfreed _ _ _ _ _ _ failing_run not_isMidway_failing
  have htaken : failing.connection.queue.inFlight = true := rfl
  rw [htaken] at hfree
  contradiction

end Session
end Gatehouse
