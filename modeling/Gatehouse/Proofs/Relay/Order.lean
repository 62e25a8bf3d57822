import Gatehouse.Proofs.Relay.Retention

/-!
# Frames are sent in the order of the offers

The offers to a connection are numbered in the order in which they are made.  The frames
that have been sent and those that wait are offers with rising numbers, so that none is sent
twice and none overtakes another.  A frame that has entered the queue leaves it unsent in two
ways only: an event finds no room and the backlog is given up, or the frame is an event for a
key and the client ends its subscription, chooses another key or asks for a snapshot.

Main results:

- Theorem {lit}`Connection.Change.items_cases`: what an operation does to the frames that
  wait.
- Theorem {lit}`Session.Run.deterministic`: moves decide where they lead and what is
  undertaken.
- Theorem {lit}`Session.Run.sends_in_order`: which offers are sent, and what becomes of the
  others.
-/

namespace Gatehouse

/-! ## Offers -/

/-- The frame that an operation offers. -/
def Operation.offer? : Operation → Option Outbound
  | .event e => some (.event e)
  | .control m => some (.control m)
  | _ => none

/-- The frame that a move offers. -/
def Move.offer? : Move → Option Outbound
  | .operation op => op.offer?
  | _ => none

/-- The frames that are offered in some moves, in order. -/
def Move.offers (moves : List Move) : List Outbound :=
  moves.filterMap Move.offer?

/-- Frames that are offered later come behind. -/
theorem Move.offers_append (moves : List Move) (move : Move) :
    Move.offers (moves ++ [move]) = Move.offers moves ++ move.offer?.toList := by
  cases hoffer : move.offer? <;> simp [Move.offers, hoffer]

/-- A frame that is offered is numbered behind the earlier ones. -/
theorem Move.zipIdx_offers_append (moves : List Move) (move : Move) :
    (Move.offers (moves ++ [move])).zipIdx = (Move.offers moves).zipIdx ++
      (move.offer?.map fun frame => (frame, (Move.offers moves).length)).toList := by
  rw [Move.offers_append, List.zipIdx_append]
  cases move.offer? <;> simp

/-- Earlier offers keep their numbers. -/
theorem Move.sublist_zipIdx_append {moves : List Move} {entries : List (Outbound × Nat)}
    (h : entries.Sublist (Move.offers moves).zipIdx) (move : Move) :
    entries.Sublist (Move.offers (moves ++ [move])).zipIdx := by
  rw [Move.zipIdx_offers_append]
  exact List.sublist_append_of_sublist_left h

/-- A new offer gets the next number. -/
theorem Move.sublist_zipIdx_snoc {moves : List Move} {entries : List (Outbound × Nat)}
    (h : entries.Sublist (Move.offers moves).zipIdx) {op : Operation} {frame : Outbound}
    (hoffer : op.offer? = some frame) :
    (entries ++ [(frame, (Move.offers moves).length)]).Sublist
      (Move.offers (moves ++ [.operation op])).zipIdx := by
  have hnew : (Move.operation op).offer? = some frame := hoffer
  rw [Move.zipIdx_offers_append, hnew]
  exact h.append (List.Sublist.refl _)

namespace Connection

/-- Whether an operation is an event that concerns a connection and finds no room, so that
the backlog is given up. -/
def Overflows (c : Connection) (op : Operation) : Prop :=
  ∃ e, op = .event e ∧ c.state ≠ .closed ∧ e.isFor c.state.key? = true ∧
    c.queue.NeedsPlace e ∧ c.queue.isFull = true

/-- Whether an operation removes the events for a key: it ends the subscription, chooses
another key or asks for a snapshot. -/
def Drops (c : Connection) : Operation → Prop
  | .subscribe key none => c.state ≠ .closed ∧ c.state ≠ .subscribed key
  | .subscribe _ (some _) => c.state ≠ .closed
  | .unsubscribe => c.state ≠ .closed
  | _ => False

/-- Whether the frame that an operation offers enters the queue: it is put behind those that
wait, or it is all that waits after the backlog has been given up for it. -/
def Takes (c : Connection) (op : Operation) (frame : Outbound) : Prop :=
  op.offer? = some frame ∧
    ((c.operate op).queue.items = c.queue.items ++ [frame] ∨
      c.Overflows op ∧ (c.operate op).queue.items = [frame])

variable {c c' : Connection} {op : Operation}

/-- An operation leaves the frames that wait as they are, puts the frame that it offers
behind them, gives them up, perhaps for the frame that it offers, or removes the events for a
key. -/
theorem Change.items_cases (h : c.Change op c') :
    (¬ c.Overflows op ∧ c'.queue.items = c.queue.items) ∨
    (∃ frame, op.offer? = some frame ∧ c'.queue.items = c.queue.items ++ [frame]) ∨
    (c.Overflows op ∧ c'.queue.items = []) ∨
    (c.Overflows op ∧ ∃ frame, op.offer? = some frame ∧ c'.queue.items = [frame]) ∨
    (c.Drops op ∧ op.offer? = none ∧ c'.queue.items = c.queue.dropKeyed.items) := by
  cases h with
  | ignored hignored =>
      refine .inl ⟨?_, rfl⟩
      rintro ⟨e, rfl, hopen, hfor, -⟩
      cases hignored with
      | closed hclosed => exact hopen hclosed
      | foreign hforeign => simp [hforeign] at hfor
  | @queued e => exact .inr (.inl ⟨.event e, rfl, rfl⟩)
  | @covered e _ _ _ hkeyed _ howed =>
      refine .inl ⟨?_, rfl⟩
      rintro ⟨other, heq, -, -, hneeds, -⟩
      rw [Operation.event.injEq] at heq
      subst heq
      rcases hneeds with hcast | hnone
      · simp [hkeyed] at hcast
      · simp [howed] at hnone
  | @overflowed e _ hstate hfor hneeds hfull =>
      refine .inr (.inr (.inl ⟨⟨e, rfl, by simp [hstate], ?_, hneeds, hfull⟩, rfl⟩))
      rwa [ConnectionState.key?_eq_some.2 hstate]
  | @truncated e hstate hcast hfull =>
      have hover : c.Overflows (.event e) :=
        ⟨e, rfl, by simp [hstate], Event.isFor_iff.2 (.inl hcast), .inl hcast, hfull⟩
      rcases c.queue.restart_items e with ⟨-, hitems⟩ | ⟨-, hitems⟩
      · exact .inr (.inr (.inl ⟨hover, hitems⟩))
      · exact .inr (.inr (.inr (.inl ⟨hover, .event e, rfl, hitems⟩)))
  | @taken m => exact .inr (.inl ⟨.control m, rfl, rfl⟩)
  | refreshed hopen => exact .inr (.inr (.inr (.inr ⟨hopen, rfl, rfl⟩)))
  | kept => exact .inl ⟨by simp [Overflows], rfl⟩
  | switched hopen hother => exact .inr (.inr (.inr (.inr ⟨⟨hopen, hother⟩, rfl, rfl⟩)))
  | unsubscribed hopen => exact .inr (.inr (.inr (.inr ⟨hopen, rfl, rfl⟩)))
  | closed => exact .inl ⟨by simp [Overflows], rfl⟩

end Connection

/-! ## Moves decide -/

namespace Session

variable {s t u : Session} {moves : List Move} {done : List Undertaking}

/-- A move decides where it leads and what is undertaken with it. -/
theorem Moves.deterministic {move : Move} {now now' : List Undertaking} {t' : Session}
    (h : Moves s move now t) (h' : Moves s move now' t') : now = now' ∧ t = t' := by
  cases h with
  | operation => cases h'; exact ⟨rfl, rfl⟩
  | start => cases h'; exact ⟨rfl, rfl⟩
  | abandon => cases h'; exact ⟨rfl, rfl⟩
  | take => cases h'; exact ⟨rfl, rfl⟩
  | wake => cases h'; exact ⟨rfl, rfl⟩
  | sent hsending =>
      cases h' with
      | sent hsending' =>
          rw [hsending, Option.some.injEq, Phase.sending.injEq] at hsending'
          exact ⟨rfl, by rw [hsending']⟩
  | fetched hfetching =>
      cases h' with
      | fetched hfetching' =>
          rw [hfetching, Option.some.injEq, Phase.fetching.injEq] at hfetching'
          rw [hfetching'.1, hfetching'.2]
          exact ⟨rfl, rfl⟩

/-- Moves decide where they lead and what is undertaken in them. -/
theorem Run.deterministic {done' : List Undertaking} {t' : Session} (h : Run s moves done t)
    (h' : Run s moves done' t') : done = done' ∧ t = t' := by
  induction h generalizing done' t' with
  | refl =>
      generalize hmoves : ([] : List Move) = moves at h'
      cases h' with
      | refl => exact ⟨rfl, rfl⟩
      | tail => simp at hmoves
  | @tail t u moves move done now _ hmove ih =>
      generalize hmoves : moves ++ [move] = moves' at h'
      cases h' with
      | refl => simp at hmoves
      | tail hrun' hmove' =>
          rcases List.append_inj' hmoves rfl with ⟨hbefore, hlast⟩
          rw [List.cons.injEq] at hlast
          rcases hlast with ⟨hlast, -⟩
          subst hbefore hlast
          rcases ih hrun' with ⟨rfl, rfl⟩
          rcases hmove.deterministic hmove' with ⟨rfl, rfl⟩
          exact ⟨rfl, rfl⟩

/-- A move is an operation, or it hands the oldest frame to the client, or it leaves the
frames that wait as they are and sends none. -/
theorem Moves.items_cases {move : Move} {now : List Undertaking} (h : Moves s move now t) :
    (∃ op, move = .operation op ∧ now = [] ∧ t = s.onConnection fun c => c.operate op) ∨
    (move.offer? = none ∧ ∃ frame, Undertaking.frames now = [frame] ∧
      s.connection.queue.items = frame :: t.connection.queue.items) ∨
    (move.offer? = none ∧ Undertaking.frames now = [] ∧
      t.connection.queue.items = s.connection.queue.items) := by
  cases h with
  | operation op => exact .inl ⟨op, rfl, rfl, rfl⟩
  | start => exact .inr (.inr ⟨rfl, rfl, rfl⟩)
  | abandon => exact .inr (.inr ⟨rfl, rfl, rfl⟩)
  | take =>
      rcases s.take_handout with ⟨step, c, hhandout, htake⟩
      rw [htake, undertakings_enter]
      cases hhandout with
      | closed => exact .inr (.inr ⟨rfl, rfl, rfl⟩)
      | idle => exact .inr (.inr ⟨rfl, rfl, rfl⟩)
      | resync => exact .inr (.inr ⟨rfl, rfl, rfl⟩)
      | @frame frame _ _ _ hfirst => exact .inr (.inl ⟨rfl, frame, rfl, hfirst⟩)
  | wake _ hsignal =>
      rw [wake_of_signal hsignal]
      exact .inr (.inr ⟨rfl, rfl, rfl⟩)
  | @sent dispatch _ outcome =>
      rcases s.sent_cases dispatch outcome with
        ⟨-, -, hsent⟩ | ⟨_, -, -, hsent⟩ | ⟨_, -, hsent⟩ <;>
        rw [hsent] <;> exact .inr (.inr ⟨rfl, rfl, rfl⟩)
  | @fetched key seq _ answer =>
      rcases s.fetched_cases key seq answer with
        ⟨_, -, -, hfetched⟩ | ⟨_, -, -, hfetched⟩ | ⟨_, -, hfetched⟩ <;>
        rw [hfetched] <;> exact .inr (.inr ⟨rfl, rfl, rfl⟩)

/-! ## The order of the frames -/

/-- Whether a frame that entered the queue before some moves is lost in them: it waits when
the backlog is given up, or it is an event for a key and waits when these are removed. -/
def Loses (s : Session) (before after : List Move) (frame : Outbound) : Prop :=
  ∃ between op rest earlier t, after = between ++ .operation op :: rest ∧
    Run s (before ++ between) earlier t ∧ frame ∈ t.connection.queue.items ∧
    (t.connection.Overflows op ∨ frame.isKeyed = true ∧ t.connection.Drops op)

/-- What is lost stays lost. -/
theorem Loses.append {before after : List Move} {frame : Outbound}
    (h : s.Loses before after frame) (more : List Move) :
    s.Loses before (after ++ more) frame := by
  rcases h with ⟨between, op, rest, earlier, t, hafter, hlost⟩
  exact ⟨between, op, rest ++ more, earlier, t, by simp [hafter], hlost⟩

/-- The books of a run: which of the numbered offers have been sent and which wait.  All that
entered the queue are there, unless they are lost. -/
structure Books (s : Session) (moves : List Move) (done : List Undertaking) (t : Session)
    (sent waiting : List (Outbound × Nat)) : Prop where
  ordered : (sent ++ waiting).Sublist (Move.offers moves).zipIdx
  handed : sent.map Prod.fst = Undertaking.frames done
  lined : waiting.map Prod.fst = t.connection.queue.items
  complete : ∀ before op after earlier u frame, moves = before ++ .operation op :: after →
    Run s before earlier u → u.connection.Takes op frame →
      (frame, (Move.offers before).length) ∈ sent ++ waiting ∨
        s.Loses (before ++ [.operation op]) after frame

variable {sent waiting sent' waiting' : List (Outbound × Nat)} {now : List Undertaking}

theorem books_refl (h : s.connection.queue.items = []) : Books s [] [] s [] [] where
  ordered := List.Sublist.refl _
  handed := rfl
  lined := h.symm
  complete := by simp

/-- The books stay complete if no entry is struck out but what is lost with the last
operation, and what enters the queue with it is put down. -/
theorem Books.complete_append (h : Books s moves done t sent waiting)
    (hrun : Run s moves done t) {move : Move}
    (hkept : ∀ entry ∈ sent ++ waiting, entry ∈ sent' ++ waiting' ∨
      entry ∈ waiting ∧ ∃ op, move = .operation op ∧
        (t.connection.Overflows op ∨ entry.1.isKeyed = true ∧ t.connection.Drops op))
    (hput : ∀ op frame, move = .operation op → t.connection.Takes op frame →
      (frame, (Move.offers moves).length) ∈ sent' ++ waiting')
    (before : List Move) (op : Operation) (after : List Move) (earlier : List Undertaking)
    (u : Session) (frame : Outbound)
    (hmoves : moves ++ [move] = before ++ .operation op :: after)
    (hbefore : Run s before earlier u) (htakes : u.connection.Takes op frame) :
    (frame, (Move.offers before).length) ∈ sent' ++ waiting' ∨
      s.Loses (before ++ [.operation op]) after frame := by
  rcases List.eq_nil_or_concat after with rfl | ⟨between, last, hafter⟩
  · rcases List.append_inj' hmoves rfl with ⟨rfl, hlast⟩
    rw [List.cons.injEq] at hlast
    rcases hrun.deterministic hbefore with ⟨-, rfl⟩
    exact .inl (hput op frame hlast.1 htakes)
  · rw [List.concat_eq_append] at hafter
    subst hafter
    have hsplit : moves ++ [move] = (before ++ .operation op :: between) ++ [last] := by
      simpa using hmoves
    rcases List.append_inj' hsplit rfl with ⟨rfl, hlast⟩
    rw [List.cons.injEq] at hlast
    rcases hlast with ⟨rfl, -⟩
    rcases h.complete before op between earlier u frame rfl hbefore htakes with
      hentry | hlost
    · rcases hkept _ hentry with hstays | ⟨hwaits, final, rfl, hreason⟩
      · exact .inl hstays
      · refine .inr ⟨between, final, [], done, t, rfl, by simpa using hrun, ?_, hreason⟩
        rw [← h.lined]
        exact List.mem_map_of_mem hwaits
    · exact .inr (hlost.append [move])

/-- The books after a move that leaves the frames that wait as they are and sends none. -/
theorem Books.unchanged (h : Books s moves done t sent waiting) (hrun : Run s moves done t)
    {move : Move} (hframes : Undertaking.frames now = [])
    (hitems : u.connection.queue.items = t.connection.queue.items)
    (htakes : ∀ op frame, move = .operation op → ¬ t.connection.Takes op frame) :
    Books s (moves ++ [move]) (done ++ now) u sent waiting where
  ordered := Move.sublist_zipIdx_append h.ordered move
  handed := by rw [Undertaking.frames_append, hframes, List.append_nil, h.handed]
  lined := h.lined.trans hitems.symm
  complete := h.complete_append hrun (fun _ hmem => .inl hmem)
    (fun op frame hmove hnew => absurd hnew (htakes op frame hmove))

/-- The books after the oldest frame is handed to the client. -/
theorem Books.hand (h : Books s moves done t sent waiting) (hrun : Run s moves done t)
    {move : Move} {frame : Outbound} (hoffer : move.offer? = none)
    (hframes : Undertaking.frames now = [frame])
    (hitems : t.connection.queue.items = frame :: u.connection.queue.items) :
    ∃ sent' waiting', Books s (moves ++ [move]) (done ++ now) u sent' waiting' := by
  have hlined := h.lined
  rw [hitems] at hlined
  rcases List.map_eq_cons_iff.1 hlined with ⟨first, rest, rfl, hfirst, hrest⟩
  have hsame : sent ++ first :: rest = (sent ++ [first]) ++ rest := by simp
  refine ⟨sent ++ [first], rest, ?_, ?_, hrest, ?_⟩
  · rw [← hsame]
    exact Move.sublist_zipIdx_append h.ordered move
  · rw [Undertaking.frames_append, hframes, List.map_append, h.handed, ← hfirst]
    rfl
  · refine h.complete_append hrun (fun _ hmem => .inl (hsame ▸ hmem)) ?_
    rintro op _ rfl ⟨hnew, -⟩
    rw [show op.offer? = none from hoffer] at hnew
    contradiction

/-- The books after the backlog is given up for the entries that wait now. -/
theorem Books.restart (h : Books s moves done t sent waiting) (hrun : Run s moves done t)
    {op : Operation} (hover : t.connection.Overflows op)
    (hordered : (sent ++ waiting').Sublist (Move.offers (moves ++ [.operation op])).zipIdx)
    (hlined : waiting'.map Prod.fst = (t.connection.operate op).queue.items)
    (hput : ∀ frame, t.connection.Takes op frame →
      (frame, (Move.offers moves).length) ∈ waiting') :
    Books s (moves ++ [.operation op]) done (t.onConnection fun c => c.operate op) sent
      waiting' where
  ordered := hordered
  handed := h.handed
  lined := hlined
  complete := by
    refine h.complete_append hrun ?_ ?_
    · intro entry hmem
      rcases List.mem_append.1 hmem with hsent | hwaits
      · exact .inl (List.mem_append_left _ hsent)
      · exact .inr ⟨hwaits, op, rfl, .inl hover⟩
    · rintro _ frame ⟨⟩ htakes
      exact List.mem_append_right _ (hput frame htakes)

/-- The books after the events for a key are removed. -/
theorem Books.drop (h : Books s moves done t sent waiting) (hrun : Run s moves done t)
    {op : Operation} (hdrops : t.connection.Drops op) (hoffer : op.offer? = none)
    (hitems : (t.connection.operate op).queue.items = t.connection.queue.dropKeyed.items) :
    Books s (moves ++ [.operation op]) done (t.onConnection fun c => c.operate op) sent
      (waiting.filter fun entry => !entry.1.isKeyed) where
  ordered :=
    ((List.Sublist.refl sent).append List.filter_sublist).trans
      (Move.sublist_zipIdx_append h.ordered _)
  handed := h.handed
  lined := by
    rw [onConnection_connection, hitems, Queue.dropKeyed_items, ← h.lined, List.filter_map]
    rfl
  complete := by
    refine h.complete_append hrun ?_ ?_
    · intro entry hmem
      rcases List.mem_append.1 hmem with hsent | hwaits
      · exact .inl (List.mem_append_left _ hsent)
      · cases hkeyed : entry.1.isKeyed with
        | true => exact .inr ⟨hwaits, op, rfl, .inr ⟨rfl, hdrops⟩⟩
        | false => exact .inl (by simp [hwaits, hkeyed])
    · rintro _ frame ⟨⟩ ⟨hnew, -⟩
      rw [hoffer] at hnew
      contradiction

/-- The books after the frame that an operation offers is put behind those that wait. -/
theorem Books.put (h : Books s moves done t sent waiting) (hrun : Run s moves done t)
    {op : Operation} {frame : Outbound} (hoffer : op.offer? = some frame)
    (hitems : (t.connection.operate op).queue.items = t.connection.queue.items ++ [frame]) :
    Books s (moves ++ [.operation op]) done (t.onConnection fun c => c.operate op) sent
      (waiting ++ [(frame, (Move.offers moves).length)]) where
  ordered := by
    rw [← List.append_assoc]
    exact Move.sublist_zipIdx_snoc h.ordered hoffer
  handed := h.handed
  lined := by
    rw [List.map_append, h.lined, onConnection_connection, hitems]
    rfl
  complete := by
    refine h.complete_append hrun (fun _ hmem => .inl ?_) ?_
    · rw [← List.append_assoc]
      exact List.mem_append_left _ hmem
    · rintro _ other ⟨⟩ ⟨hnew, -⟩
      rw [hoffer, Option.some.injEq] at hnew
      simp [hnew]

/-- There are books after an operation. -/
theorem Books.operate (h : Books s moves done t sent waiting) (hrun : Run s moves done t)
    (op : Operation) :
    ∃ waiting', Books s (moves ++ [.operation op]) done
      (t.onConnection fun c => c.operate op) sent waiting' := by
  have hsent : sent.Sublist (Move.offers moves).zipIdx :=
    (List.sublist_append_left sent waiting).trans h.ordered
  rcases (t.connection.operate_change op).items_cases with ⟨hfits, hitems⟩ |
    ⟨frame, hoffer, hitems⟩ | ⟨hover, hitems⟩ | ⟨hover, frame, hoffer, hitems⟩ |
    ⟨hdrops, hoffer, hitems⟩
  · have hbooks : Books s (moves ++ [.operation op]) (done ++ [])
        (t.onConnection fun c => c.operate op) sent waiting := by
      refine h.unchanged hrun rfl hitems ?_
      rintro _ frame ⟨⟩ ⟨-, happended | ⟨hover, -⟩⟩
      · simp [hitems] at happended
      · exact hfits hover
    rw [List.append_nil] at hbooks
    exact ⟨waiting, hbooks⟩
  · exact ⟨_, h.put hrun hoffer hitems⟩
  · refine ⟨[], h.restart hrun hover ?_ hitems.symm ?_⟩
    · rw [List.append_nil]
      exact Move.sublist_zipIdx_append hsent _
    · rintro frame ⟨-, hnew | ⟨-, hnew⟩⟩ <;> simp [hitems] at hnew
  · refine ⟨_, h.restart hrun hover (Move.sublist_zipIdx_snoc hsent hoffer) hitems.symm ?_⟩
    rintro other ⟨hnew, -⟩
    rw [hoffer, Option.some.injEq] at hnew
    simp [hnew]
  · exact ⟨_, h.drop hrun hdrops hoffer hitems⟩

/-- Every run has books. -/
theorem Run.books (hrun : Run s moves done t) (hempty : s.connection.queue.items = []) :
    ∃ sent waiting, Books s moves done t sent waiting := by
  induction hrun with
  | refl => exact ⟨[], [], books_refl hempty⟩
  | tail hrun hmove ih =>
      rcases ih with ⟨sent, waiting, hbooks⟩
      rcases hmove.items_cases with ⟨op, rfl, rfl, rfl⟩ |
        ⟨hoffer, frame, hframes, hitems⟩ | ⟨hoffer, hframes, hitems⟩
      · rw [List.append_nil]
        exact ⟨sent, hbooks.operate hrun op⟩
      · exact hbooks.hand hrun hoffer hframes hitems
      · refine ⟨sent, waiting, hbooks.unchanged hrun hframes hitems ?_⟩
        rintro op _ rfl ⟨hnew, -⟩
        rw [show op.offer? = none from hoffer] at hnew
        contradiction

/-- In every run the frames of the queue that are sent are offers in the order in which they
were made, each once at most.  With their numbers, they are followed by the frames that wait.
An offer that entered the queue has been sent or waits, unless it was lost: it waited when an
event found no room and the backlog was given up, or it was an event for a key and waited
when the client ended its subscription, chose another key or asked for a snapshot. -/
theorem Run.sends_in_order {id n : Nat} {identity : Identity}
    (hrun : Run (accept id identity n) moves done t) :
    (Undertaking.frames done).Sublist (Move.offers moves) ∧
      ∃ sent waiting : List (Outbound × Nat),
        (sent ++ waiting).Sublist (Move.offers moves).zipIdx ∧
        sent.map Prod.fst = Undertaking.frames done ∧
        waiting.map Prod.fst = t.connection.queue.items ∧
        ∀ before op after earlier u frame, moves = before ++ .operation op :: after →
          Run (accept id identity n) before earlier u → u.connection.Takes op frame →
            (frame, (Move.offers before).length) ∈ sent ++ waiting ∨
              (accept id identity n).Loses (before ++ [.operation op]) after frame := by
  rcases hrun.books rfl with ⟨sent, waiting, hbooks⟩
  refine ⟨?_, sent, waiting, hbooks.ordered, hbooks.handed, hbooks.lined, hbooks.complete⟩
  have hsent : sent.Sublist (Move.offers moves).zipIdx :=
    (List.sublist_append_left sent waiting).trans hbooks.ordered
  have hframes := hsent.map Prod.fst
  rwa [hbooks.handed, List.zipIdx_map_fst] at hframes

/-! ### An event that is lost -/

/-- A session whose client has sent a ping and subscribed. -/
def subscribedAfterPing : Session :=
  ((accept 1 ⟨"ada", none, [], .empty⟩ 2).onConnection fun c =>
    c.operate (.control .pong)).onConnection fun c => c.operate (.subscribe "k" none)

/-- An event for the key that the client has subscribed to. -/
def update : Event := .forKey "update" "k" (.ofNat 1) default

/-- What happens then: the event is offered, the answer to the ping is sent and the client
ends its subscription. -/
def unsubscribing : List Move := [.start, .take, .operation .unsubscribe]

theorem subscribedAfterPing_run :
    Run (accept 1 ⟨"ada", none, [], .empty⟩ 2)
      [.operation (.control .pong), .operation (.subscribe "k" none)] [] subscribedAfterPing :=
  .tail (.tail (.refl _) (.operation _)) (.operation _)

theorem unsubscribing_run :
    Run (accept 1 ⟨"ada", none, [], .empty⟩ 2)
      ([.operation (.control .pong), .operation (.subscribe "k" none)] ++
        .operation (.event update) :: unsubscribing)
      [.send (.frame (.control .pong))]
      ((subscribedAfterPing.onConnection fun c => c.operate (.event update)).start.take
        |>.onConnection fun c => c.operate .unsubscribe) :=
  .tail (.tail (.tail (.tail subscribedAfterPing_run (.operation _)) (.start (.inl rfl)))
    (.take rfl)) (.operation _)

/-- The event entered the queue and is lost when the client ends its subscription. -/
theorem Run.sends_in_order_of_unsubscribing :
    subscribedAfterPing.connection.Takes (.event update) (.event update) ∧
      (accept 1 ⟨"ada", none, [], .empty⟩ 2).Loses
        ([.operation (.control .pong), .operation (.subscribe "k" none)] ++
          [.operation (.event update)]) unsubscribing (.event update) := by
  have htakes : subscribedAfterPing.connection.Takes (.event update) (.event update) :=
    ⟨rfl, .inl rfl⟩
  rcases unsubscribing_run.sends_in_order with
    ⟨-, sent, waiting, -, hsent, hwaiting, hcomplete⟩
  refine ⟨htakes, ?_⟩
  rcases hcomplete _ _ _ _ _ _ rfl subscribedAfterPing_run htakes with hentry | hlost
  · have hframe : Outbound.event update ∈ (sent ++ waiting).map Prod.fst :=
      List.mem_map_of_mem hentry
    have hframes : (sent ++ waiting).map Prod.fst = [.control .pong] := by
      rw [List.map_append, hsent, hwaiting]
      rfl
    rw [hframes] at hframe
    simp at hframe
  · exact hlost

end Session
end Gatehouse
