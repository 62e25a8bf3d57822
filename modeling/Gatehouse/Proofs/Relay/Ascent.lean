import Gatehouse.Proofs.Relay.Agreement
import Gatehouse.Proofs.Relay.Order
import Gatehouse.Proofs.Relay.Snapshots

/-!
# Sequence numbers never fall

If the sequence numbers of the events that are offered never fall, neither do those that a
client sees: of the events for a key and of the snapshots, in the order in which the delivery
loop takes them from the queue and hands them over.  A snapshot comes with a number that is
at least that of every event it stands for.

Main results:

- Theorem {lit}`Connection.Change.marks_sublist`: which numbers an operation puts into a queue.
- Theorem {lit}`Connection.Covers.change`: a snapshot that is owed stands for all events for
  its key.
- Theorem {lit}`Session.Run.marks_ascend`: no run shows a client falling numbers.
-/

namespace Gatehouse

/-! ## Events and their numbers -/

/-- The event that a move offers. -/
def Move.event? : Move → Option Event
  | .operation (.event e) => some e
  | _ => none

/-- The events that are offered in some moves, in order. -/
def Move.events (moves : List Move) : List Event :=
  moves.filterMap Move.event?

/-- An event that is offered later comes behind. -/
theorem Move.events_append (moves : List Move) (move : Move) :
    Move.events (moves ++ [move]) = Move.events moves ++ move.event?.toList := by
  cases hevent : move.event? <;> simp [Move.events, hevent]

/-- Whether the numbers of the events that are offered in some moves never fall. -/
def Move.Rising (moves : List Move) : Prop :=
  (Move.events moves).Pairwise fun a b => a.seq ≤ b.seq

/-- Fewer moves are rising as well. -/
theorem Move.Rising.left {moves more : List Move} (h : Move.Rising (moves ++ more)) :
    Move.Rising moves := by
  unfold Move.Rising Move.events at *
  rw [List.filterMap_append] at h
  exact (List.pairwise_append.1 h).1

/-- The last event has the highest number. -/
theorem Move.Rising.le_last {moves : List Move} {e : Event}
    (h : Move.Rising (moves ++ [.operation (.event e)])) {x : Event}
    (hx : x ∈ Move.events (moves ++ [.operation (.event e)])) : x.seq ≤ e.seq := by
  unfold Move.Rising at h
  rw [Move.events_append] at h hx
  rcases List.mem_append.1 hx with hearlier | hlast
  · exact (List.pairwise_append.1 h).2.2 x hearlier e List.mem_cons_self
  · have hsame : x = e := List.mem_singleton.1 hlast
    subst hsame
    exact Fin.le_refl _

/-- The number of a frame that is an event for a key. -/
def Outbound.mark? : Outbound → Option Seq
  | .event e => if e.isBroadcast then none else some e.seq
  | .control _ => none

/-- Other frames have no number to look at. -/
theorem Outbound.mark?_eq_none {frame : Outbound} (h : frame.isKeyed = false) :
    frame.mark? = none := by
  cases frame with
  | control m => rfl
  | event e =>
      have hcast : e.isBroadcast = true := by simpa [isKeyed] using h
      simp [mark?, hcast]

/-- The number of an event for a key or of a snapshot, which is asked for or sent. -/
def Undertaking.mark? : Undertaking → Option Seq
  | .fetch _ seq | .send (.snapshot _ _ seq) => some seq
  | .send (.frame frame) => frame.mark?
  | .send (.notice _) => none

/-- The numbers of the events for a key and of the snapshots, in the order in which they are
taken and sent. -/
def Undertaking.marks (done : List Undertaking) : List Seq :=
  done.filterMap Undertaking.mark?

/-- What is undertaken later comes behind. -/
theorem Undertaking.marks_append (done now : List Undertaking) :
    Undertaking.marks (done ++ now) = Undertaking.marks done ++ Undertaking.marks now := by
  simp [Undertaking.marks]

namespace Queue

/-- The numbers of the events for a key that wait and of the snapshot that is owed. -/
def marks (q : Queue) : List Seq :=
  q.items.filterMap Outbound.mark? ++ q.resync.toList

/-- A frame that is no event for a key adds no number. -/
theorem append_marks_of_mark?_eq_none (q : Queue) {frame : Outbound}
    (h : frame.mark? = none) : (q.append frame).marks = q.marks := by
  simp [marks, h]

/-- An event for a key adds its number, if no snapshot is owed. -/
theorem append_marks_of_resync_eq_none {q : Queue} (hresync : q.resync = none)
    (frame : Outbound) : (q.append frame).marks = q.marks ++ frame.mark?.toList := by
  cases hmark : frame.mark? <;> simp [marks, hresync, hmark]

/-- Without the events for a key no number is left. -/
@[simp]
theorem dropKeyed_marks (q : Queue) : q.dropKeyed.marks = [] := by
  have hnone : ∀ frame ∈ q.dropKeyed.items, frame.mark? = none := fun frame hmem =>
    Outbound.mark?_eq_none (not_isKeyed_of_mem_dropKeyed hmem)
  simp only [marks, List.filterMap_eq_nil_iff.2 hnone]
  rfl

/-- Asking for a snapshot with a number above the others replaces the number of the one that
is owed. -/
theorem requestResync_marks {q : Queue} {seq : Seq} (h : ∀ mark ∈ q.marks, mark ≤ seq) :
    (q.requestResync seq).marks = q.items.filterMap Outbound.mark? ++ [seq] := by
  have howed : ∀ old, q.resync = some old → old ≤ seq := by
    intro old hold
    exact h old (by simp [marks, hold])
  rw [marks, requestResync_of_le howed]
  rfl

/-- The snapshot that is owed has at least the number that is asked for. -/
theorem le_of_requestResync {q : Queue} {seq tag : Seq}
    (h : (q.requestResync seq).resync = some tag) : seq ≤ tag := by
  rcases q.requestResync_cases seq with ⟨other, hother, hle, -, -⟩
  rw [h, Option.some.injEq] at hother
  rwa [hother]

end Queue

/-! ## Operations and steps -/

namespace Connection

variable {c c' : Connection} {op : Operation} {step : Step}

/-- If no number in the queue is above that of the event that is offered, an operation puts
at most the number of the event behind them. -/
theorem Change.marks_sublist (h : c.Change op c')
    (hplain : ∀ key seq, op ≠ .subscribe key (some seq))
    (hbelow : ∀ e, op = .event e → ∀ mark ∈ c.queue.marks, mark ≤ e.seq) :
    c'.queue.marks.Sublist
      (c.queue.marks ++ (Move.operation op).event?.toList.map Event.seq) := by
  have hstays : ∀ {more : List Seq}, c.queue.marks.Sublist (c.queue.marks ++ more) :=
    List.sublist_append_left _ _
  cases h with
  | ignored => exact hstays
  | @queued e _ _ hneeds =>
      rw [notify_queue]
      cases hcast : e.isBroadcast with
      | true =>
          rw [Queue.append_marks_of_mark?_eq_none _ (by simp [Outbound.mark?, hcast])]
          exact hstays
      | false =>
          have hnone : c.queue.resync = none := hneeds.resolve_left (by simp [hcast])
          rw [Queue.append_marks_of_resync_eq_none hnone]
          simp [Outbound.mark?, hcast, Move.event?]
  | @covered e =>
      -- The number of the event takes the place of the one that was owed.
      rw [notify_queue, Queue.requestResync_marks (hbelow e rfl)]
      exact (List.sublist_append_left _ _).append (.refl _)
  | @overflowed e =>
      have hdiscard : ∀ mark ∈ c.queue.discard.marks, mark ≤ e.seq := by
        intro mark hmem
        exact hbelow e rfl mark (List.mem_append_right _ hmem)
      rw [notify_queue, Queue.requestResync_marks hdiscard]
      exact List.sublist_append_right _ _
  | @truncated e _ hcast =>
      have hmarks : (c.queue.restart e).marks = c.queue.resync.toList := by
        rcases c.queue.restart_items e with ⟨-, hitems⟩ | ⟨-, hitems⟩ <;>
          simp [Queue.marks, hitems, Outbound.mark?, hcast]
      rw [notify_queue, hmarks]
      exact (List.sublist_append_right _ _).trans hstays
  | taken =>
      rw [notify_queue, Queue.append_marks_of_mark?_eq_none _ rfl]
      exact hstays
  | refreshed => exact absurd rfl (hplain _ _)
  | kept => exact hstays
  | switched => simp
  | unsubscribed => simp
  | closed => exact hstays

/-- What a delivery loop takes has the first number in the queue. -/
theorem Handout.marks_sublist (h : c.Handout step c') (hagrees : c.Agrees) :
    (Undertaking.marks step.phase.undertaking?.toList ++ c'.queue.marks).Sublist
      c.queue.marks := by
  cases h with
  | closed => exact .refl _
  | idle => simp [Undertaking.marks, Queue.marks, Step.phase, Phase.undertaking?]
  | @resync key seq _ howed =>
      have hnone : ∀ frame ∈ c.queue.items, frame.mark? = none := fun frame hmem =>
        Outbound.mark?_eq_none (hagrees.unmixed (by simp [howed]) frame hmem)
      simp [Undertaking.marks, Undertaking.mark?, Queue.marks, Step.phase, Phase.undertaking?,
        howed, List.filterMap_eq_nil_iff.2 hnone]
  | @frame frame rest _ _ hfirst =>
      have hline : c.queue.marks = (frame.mark?.toList ++ rest.filterMap Outbound.mark?) ++
          c.queue.resync.toList := by
        rw [Queue.marks, hfirst]
        cases hmark : frame.mark? <;> simp [hmark]
      have hmark : Undertaking.marks
          (Step.frame frame).phase.undertaking?.toList = frame.mark?.toList := by
        cases hmark : frame.mark? <;>
          simp [Undertaking.marks, Undertaking.mark?, Step.phase, Phase.undertaking?, hmark]
      rw [hline, hmark]
      simp [Queue.marks]

/-- Whether a snapshot that is owed has a number at least that of every event for its key that
was offered in some moves. -/
def Covers (c : Connection) (moves : List Move) : Prop :=
  ∀ key tag, c.state = .subscribed key → c.queue.resync = some tag →
    ∀ e ∈ Move.events moves, e.isBroadcast = false → e.key = some key → e.seq ≤ tag

/-- Moves that offer no event for the key and owe no other snapshot keep this. -/
theorem Covers.unchanged {moves more : List Move} (hcovers : c.Covers moves)
    (hstate : c'.state = c.state)
    (hresync : ∀ tag, c'.queue.resync = some tag → c.queue.resync = some tag)
    (hforeign : ∀ key, c.state = .subscribed key → c.queue.resync ≠ none →
      ∀ e ∈ Move.events more, e.isBroadcast = false → e.key ≠ some key) :
    c'.Covers (moves ++ more) := by
  intro key tag hsubscribed howed e hmem hkeyed hkey
  rw [hstate] at hsubscribed
  have hbefore := hresync tag howed
  rw [Move.events, List.filterMap_append, List.mem_append] at hmem
  rcases hmem with hearlier | hlast
  · exact hcovers key tag hsubscribed hbefore e hearlier hkeyed hkey
  · exact absurd hkey (hforeign key hsubscribed (by simp [hbefore]) e hlast hkeyed)

/-- A snapshot that is owed with at least the number of the last event covers all. -/
theorem covers_of_last {moves : List Move} {e : Event}
    (hrising : Move.Rising (moves ++ [.operation (.event e)]))
    (hlast : ∀ tag, c'.queue.resync = some tag → e.seq ≤ tag) :
    c'.Covers (moves ++ [.operation (.event e)]) :=
  fun _ tag _ howed _ hmem _ _ => Fin.le_trans (hrising.le_last hmem) (hlast tag howed)

/-- An operation keeps this, if the numbers of the events never fall. -/
theorem Covers.change {moves : List Move} (hcovers : c.Covers moves) (h : c.Change op c')
    (hplain : ∀ key seq, op ≠ .subscribe key (some seq))
    (hrising : Move.Rising (moves ++ [.operation op])) :
    c'.Covers (moves ++ [.operation op]) := by
  cases h with
  | ignored hignored =>
      refine hcovers.unchanged rfl (fun _ howed => howed) ?_
      intro key hstate _ e hmem _ hkey
      cases hignored with
      | closed hclosed => simp [hstate] at hclosed
      | @foreign other hfor =>
          have hsame : e = other := by simpa [Move.events, Move.event?] using hmem
          rw [← hsame, hstate] at hfor
          simp [ConnectionState.key?, Event.isFor, hkey] at hfor
      | crowded => simp [Move.events, Move.event?] at hmem
  | @queued other _ _ hneeds =>
      refine hcovers.unchanged rfl (fun _ howed => howed) ?_
      intro key _ howed e hmem hkeyed
      have hsame : e = other := by simpa [Move.events, Move.event?] using hmem
      have hcast := hneeds.resolve_right howed
      rw [← hsame, hkeyed] at hcast
      contradiction
  | covered => exact covers_of_last hrising fun _ howed => Queue.le_of_requestResync howed
  | overflowed => exact covers_of_last hrising fun _ howed => Queue.le_of_requestResync howed
  | truncated hstate => exact fun key tag hsubscribed => by simp [hstate] at hsubscribed
  | taken => exact hcovers.unchanged rfl (fun _ howed => howed) (by simp [Move.events, Move.event?])
  | refreshed => exact absurd rfl (hplain _ _)
  | kept => exact hcovers.unchanged rfl (fun _ howed => howed) (by simp [Move.events, Move.event?])
  | switched => exact fun key tag _ howed => by simp [Queue.dropKeyed] at howed
  | unsubscribed => exact fun key tag hsubscribed => by simp at hsubscribed
  | closed => exact fun key tag hsubscribed => by simp at hsubscribed

end Connection

/-! ## Runs -/

namespace Session

variable {t u : Session} {moves : List Move} {done now : List Undertaking} {move : Move}

/-- A number may stand twice in a row. -/
theorem pairwise_le_insert {before after : List Seq} {seq : Seq}
    (h : (before ++ seq :: after).Pairwise (· ≤ ·)) :
    (before ++ seq :: seq :: after).Pairwise (· ≤ ·) := by
  rw [List.pairwise_append, List.pairwise_cons] at *
  rcases h with ⟨hbefore, ⟨hseq, hafter⟩, hcross⟩
  refine ⟨hbefore, ⟨?_, List.pairwise_cons.2 ⟨hseq, hafter⟩⟩, ?_⟩
  · intro mark hmem
    rcases List.mem_cons.1 hmem with rfl | hlater
    · exact Fin.le_refl _
    · exact hseq mark hlater
  · intro mark hmem other hother
    refine hcross mark hmem other ?_
    rcases List.mem_cons.1 hother with rfl | hlater
    · exact List.mem_cons_self
    · exact hlater

/-- What holds at any time of the numbers that a client has been shown and of those in the
queue: they never fall, and none is above those of all events. -/
structure Ascends (moves : List Move) (done : List Undertaking) (t : Session) : Prop where
  ordered : (Undertaking.marks done ++ t.connection.queue.marks).Pairwise (· ≤ ·)
  reached : ∀ mark ∈ Undertaking.marks done ++ t.connection.queue.marks,
    ∃ e ∈ Move.events moves, mark ≤ e.seq
  covers : t.connection.Covers moves

theorem ascends_accept (id n : Nat) (identity : Identity) :
    Ascends [] [] (accept id identity n) where
  ordered := .nil
  reached := fun _ hmem => absurd hmem List.not_mem_nil
  covers := fun _ _ hsubscribed => by simp [accept, Connection.accept] at hsubscribed

/-- No number is above that of an event that comes last. -/
theorem Ascends.le_last (h : Ascends moves done t) {e : Event}
    (hrising : Move.Rising (moves ++ [.operation (.event e)])) {mark : Seq}
    (hmem : mark ∈ Undertaking.marks done ++ t.connection.queue.marks) : mark ≤ e.seq := by
  rcases h.reached mark hmem with ⟨x, hx, hle⟩
  refine Fin.le_trans hle (hrising.le_last ?_)
  rw [Move.events_append]
  exact List.mem_append_left _ hx

/-- It goes on to hold when numbers go from the queue to the client or are given up, and the
number of the last event comes behind them at most. -/
theorem Ascends.extend (h : Ascends moves done t) (hrising : Move.Rising (moves ++ [move]))
    (hline : (Undertaking.marks (done ++ now) ++ u.connection.queue.marks).Sublist
      (Undertaking.marks done ++ t.connection.queue.marks ++
        move.event?.toList.map Event.seq))
    (hcovers : u.connection.Covers (moves ++ [move])) :
    Ascends (moves ++ [move]) (done ++ now) u where
  ordered := by
    refine List.Pairwise.sublist hline (List.pairwise_append.2 ⟨h.ordered, ?_, ?_⟩)
    · cases move.event? <;> simp
    · intro mark hmem other hother
      rcases List.mem_map.1 hother with ⟨e, he, rfl⟩
      have hevent : move = .operation (.event e) := by
        cases move with
        | operation op => cases op <;> simp_all [Move.event?]
        | _ => simp [Move.event?] at he
      subst hevent
      exact h.le_last hrising hmem
  reached := by
    intro mark hmem
    rw [Move.events_append]
    rcases List.mem_append.1 (hline.subset hmem) with hbefore | hnew
    · rcases h.reached mark hbefore with ⟨e, he, hle⟩
      exact ⟨e, List.mem_append_left _ he, hle⟩
    · rcases List.mem_map.1 hnew with ⟨e, he, rfl⟩
      exact ⟨e, List.mem_append_right _ he, Fin.le_refl _⟩
  covers := hcovers

/-- It goes on to hold with a move that shows no number and leaves the subscription and the
queue as they are, but for places. -/
theorem Ascends.quiet (h : Ascends moves done t) (hrising : Move.Rising (moves ++ [move]))
    (hevent : move.event? = none) (hshown : Undertaking.marks now = [])
    (hstate : u.connection.state = t.connection.state)
    (hitems : u.connection.queue.items = t.connection.queue.items)
    (hresync : u.connection.queue.resync = t.connection.queue.resync) :
    Ascends (moves ++ [move]) (done ++ now) u := by
  refine h.extend hrising ?_ (h.covers.unchanged hstate (fun _ howed => hresync ▸ howed) ?_)
  · rw [Undertaking.marks_append, hshown, Queue.marks, hitems, hresync]
    simp [Queue.marks]
  · simp [Move.events, hevent]

/-- It goes on to hold when the snapshot that was asked for is sent. -/
theorem Ascends.snapshot (h : Ascends moves done t) {earlier : List Undertaking} {key : String}
    {seq : Seq} (hlast : done = earlier ++ [.fetch key seq]) (resource : Json.Value)
    (hevent : move.event? = none) :
    Ascends (moves ++ [move]) (done ++ [.send (.snapshot key resource seq)])
      (t.enter t.connection (.sending (.snapshot key resource seq))) := by
  have hbefore : Undertaking.marks done ++ t.connection.queue.marks =
      Undertaking.marks earlier ++ seq :: t.connection.queue.marks := by
    simp [hlast, Undertaking.marks, Undertaking.mark?]
  have hafter : Undertaking.marks (done ++ [.send (.snapshot key resource seq)]) ++
      t.connection.queue.marks =
        Undertaking.marks earlier ++ seq :: seq :: t.connection.queue.marks := by
    simp [hlast, Undertaking.marks, Undertaking.mark?]
  refine ⟨?_, ?_, h.covers.unchanged rfl (fun _ howed => howed) (by simp [Move.events, hevent])⟩
  · rw [enter_connection, hafter]
    exact pairwise_le_insert (hbefore ▸ h.ordered)
  · intro mark hmem
    rw [enter_connection, hafter] at hmem
    rw [Move.events_append, hevent, Option.toList_none, List.append_nil]
    refine h.reached mark ?_
    rw [hbefore]
    simpa using hmem

/-- It goes on to hold with every move, if a loop that waits for a resource has just asked
for it. -/
theorem Ascends.after (h : Ascends moves done t) (hagrees : t.connection.Agrees)
    (hlast : ∀ key seq, t.loop = some (.fetching key seq) →
      ∃ earlier, done = earlier ++ [.fetch key seq])
    (hmove : Moves t move now u)
    (hplain : ∀ key seq, move ≠ .operation (.subscribe key (some seq)))
    (hrising : Move.Rising (moves ++ [move])) :
    Ascends (moves ++ [move]) (done ++ now) u := by
  cases hmove with
  | operation op =>
      have hchange := t.connection.operate_change op
      have hplain : ∀ key seq, op ≠ .subscribe key (some seq) := fun key seq heq =>
        hplain key seq (by rw [heq])
      refine h.extend hrising ?_ (h.covers.change hchange hplain hrising)
      rw [List.append_nil, List.append_assoc]
      refine (List.Sublist.refl _).append (hchange.marks_sublist hplain ?_)
      rintro e rfl mark hmem
      exact h.le_last hrising (List.mem_append_right _ hmem)
  | start => exact h.quiet hrising rfl rfl rfl rfl rfl
  | abandon => exact h.quiet hrising rfl rfl rfl rfl rfl
  | wake _ hsignal =>
      rw [wake_of_signal hsignal]
      exact h.quiet hrising rfl rfl rfl rfl rfl
  | @sent dispatch _ outcome =>
      rcases t.sent_cases dispatch outcome with
        ⟨-, -, hsent⟩ | ⟨_, -, -, hsent⟩ | ⟨_, -, hsent⟩ <;>
        rw [hsent] <;> exact h.quiet hrising rfl rfl rfl rfl rfl
  | take =>
      rcases t.take_handout with ⟨step, c, hhandout, htake⟩
      rw [htake, undertakings_enter]
      refine h.extend hrising ?_ (h.covers.unchanged hhandout.state_eq ?_ ?_)
      · rw [Undertaking.marks_append, List.append_assoc]
        simpa [Move.event?] using hhandout.marks_sublist hagrees
      · cases hhandout <;> simp
      · simp [Move.events, Move.event?]
  | @fetched key seq hfetching answer =>
      rcases t.fetched_cases key seq answer with
        ⟨resource, -, -, hfetched⟩ | ⟨_, -, -, hfetched⟩ | ⟨fault, -, hfetched⟩
      · -- The client has been shown nothing since the loop asked for the snapshot.
        rcases hlast key seq hfetching with ⟨earlier, hdone⟩
        rw [hfetched, undertakings_enter]
        exact h.snapshot hdone resource rfl
      · rw [hfetched]
        exact h.quiet hrising rfl rfl rfl rfl rfl
      · rw [hfetched]
        exact h.quiet hrising rfl rfl rfl rfl rfl

/-- It holds in every run in which clients subscribe without a number and the numbers of the
events never fall. -/
theorem Run.ascends {id n : Nat} {identity : Identity}
    (hrun : Run (accept id identity n) moves done t)
    (hplain : ∀ key seq, .operation (.subscribe key (some seq)) ∉ moves)
    (hrising : Move.Rising moves) : Ascends moves done t := by
  induction hrun with
  | refl => exact ascends_accept id n identity
  | tail hrun hmove ih =>
      have hbefore := ih (fun key seq hmem => hplain key seq (List.mem_append_left _ hmem))
        hrising.left
      refine hbefore.after hrun.agrees ?_ hmove ?_ hrising
      · intro key seq hfetching
        rcases hrun.awaits rfl hfetching with @⟨_, _, earlier, _, -, hdone, -, -, -, -⟩
        exact ⟨earlier, hdone⟩
      · rintro key seq rfl
        exact hplain key seq (List.mem_append_right _ List.mem_cons_self)

/-- If clients subscribe without a number and the numbers of the events that are offered never
fall, then neither do the numbers of the events for a key and of the snapshots, in the order
in which they are taken from the queue and sent.  A snapshot has at least the number of every
event for its key that was offered before it was taken from the queue; and it is sent, if at
all, with the number with which it was taken, before anything else is taken. -/
theorem Run.marks_ascend {id n : Nat} {identity : Identity}
    (hrun : Run (accept id identity n) moves done t)
    (hplain : ∀ key seq, .operation (.subscribe key (some seq)) ∉ moves)
    (hrising : Move.Rising moves) :
    (Undertaking.marks done).Pairwise (· ≤ ·) ∧
      (∀ {now u}, Moves t .take now u → ∀ key seq, .fetch key seq ∈ now →
        t.connection.state = .subscribed key ∧
          ∀ e ∈ Move.events moves, e.isBroadcast = false → e.key = some key → e.seq ≤ seq) ∧
      ∀ {move now u}, Moves t move now u → ∀ key resource seq,
        .send (.snapshot key resource seq) ∈ now →
          ∃ earlier, done = earlier ++ [.fetch key seq] := by
  have hascends := hrun.ascends hplain hrising
  refine ⟨(List.pairwise_append.1 hascends.ordered).1, ?_, ?_⟩
  · intro now u hmove key seq hfetch
    cases hmove with
    | take =>
        rcases t.take_handout with ⟨step, c, hhandout, htake⟩
        rw [htake, undertakings_enter] at hfetch
        cases hhandout with
        | resync hstate howed =>
            simp only [Step.phase, Phase.undertaking?, Option.toList_some, List.mem_singleton,
              Undertaking.fetch.injEq] at hfetch
            rcases hfetch with ⟨rfl, rfl⟩
            exact ⟨hstate, hascends.covers _ _ hstate howed⟩
        | _ => simp [Step.phase, Phase.undertaking?] at hfetch
  · intro move now u hmove key resource seq hsend
    rcases hrun.awaits rfl (hmove.awaited_of_snapshot hsend).1 with
      @⟨_, _, earlier, _, -, hdone, -, -, -, -⟩
    exact ⟨earlier, hdone⟩

/-! ### A snapshot that overtakes an event -/

/-- What happens at a session with room for two frames: while the first event for the
subscription is being sent another one waits, and a notice for everyone finds no room. -/
def overtaking : List Move :=
  [.operation (.subscribe "k" none), .start,
    .operation (.event (.forKey "update" "k" (.ofNat 1) default)), .take,
    .operation (.event (.forKey "update" "k" (.ofNat 2) default)),
    .operation (.event (.broadcast "notice" (.ofNat 3) default)), .sent (.ok ())]

/-- The session after that. -/
def overtaken : Session :=
  ((((((accept 1 ⟨"ada", none, [], .empty⟩ 2).onConnection fun c =>
    c.operate (.subscribe "k" none)).start.onConnection fun c =>
    c.operate (.event (.forKey "update" "k" (.ofNat 1) default))).take.onConnection fun c =>
    c.operate (.event (.forKey "update" "k" (.ofNat 2) default))).onConnection fun c =>
    c.operate (.event (.broadcast "notice" (.ofNat 3) default))).sent
    (.frame (.event (.forKey "update" "k" (.ofNat 1) default))) (.ok ()))

theorem overtaking_run :
    Run (accept 1 ⟨"ada", none, [], .empty⟩ 2) overtaking
      [.send (.frame (.event (.forKey "update" "k" (.ofNat 1) default)))] overtaken :=
  .tail (.tail (.tail (.tail (.tail (.tail (.tail (.refl _) (.operation _)) (.start (.inl rfl)))
    (.operation _)) (.take rfl)) (.operation _)) (.operation _)) (.sent rfl _)

/-- The snapshot stands for the event that waited. -/
theorem Run.marks_ascend_of_overtaking :
    Moves overtaken .take [.fetch "k" (.ofNat 3)] overtaken.take ∧
      ∀ e ∈ Move.events overtaking, e.isBroadcast = false → e.key = some "k" →
        e.seq ≤ .ofNat 3 := by
  have hplain : ∀ key seq, .operation (.subscribe key (some seq)) ∉ overtaking := by
    simp [overtaking]
  have hrising : Move.Rising overtaking := by
    unfold Move.Rising
    decide
  have htake : Moves overtaken .take [.fetch "k" (.ofNat 3)] overtaken.take := .take rfl
  rcases overtaking_run.marks_ascend hplain hrising with ⟨-, hfetch, -⟩
  exact ⟨htake, (hfetch htake _ _ List.mem_cons_self).2⟩

end Session
end Gatehouse
