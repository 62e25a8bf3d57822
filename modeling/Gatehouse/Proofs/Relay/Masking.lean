import Gatehouse.Proofs.Relay.Ascent

/-!
# Snapshots that mask later events

A client may pass over an event for a key that is no newer than the last snapshot of the key.
Events for one key have rising numbers, but those of events for everyone have nothing to do
with them.  A snapshot that is owed takes its number from the events that it stands for, and
also from an event for everyone that finds no room while it is owed: this number may be above
those of events for the key that are yet to come.

Main results:

- Theorem {lit}`Session.Run.origin`: where the number of a snapshot that is owed comes from.
- Theorem {lit}`Session.Intrudes.le_owed`: an event that finds no room raises the number.
- Theorem {lit}`Session.Run.snapshot_masks_iff`: when an event that is sent after a snapshot is
  no newer than it.
-/

namespace Gatehouse

/-! ## Moves and events -/

/-- Whether a move neither ends a subscription to a key nor asks for a snapshot. -/
def Move.Holds (key : String) : Move → Prop
  | .operation (.subscribe other seq) => other = key ∧ seq = none
  | .operation .unsubscribe => False
  | _ => True

/-- Whether the numbers of the events for one key that are offered in some moves rise. -/
def Move.RisingFor (key : String) (moves : List Move) : Prop :=
  (Move.events moves).Pairwise fun a b =>
    a.key = some key → b.key = some key → a.seq < b.seq

/-- An event that is offered later has a higher number. -/
theorem Move.RisingFor.lt {key : String} {moves more : List Move}
    (h : Move.RisingFor key (moves ++ more)) {a b : Event} (ha : a ∈ Move.events moves)
    (hb : b ∈ Move.events more) (hakey : a.key = some key) (hbkey : b.key = some key) :
    a.seq < b.seq := by
  unfold Move.RisingFor Move.events at *
  rw [List.filterMap_append] at h
  exact (List.pairwise_append.1 h).2.2 a ha b hb hakey hbkey

/-- An event that is a frame that is offered is an event that is offered. -/
theorem Move.mem_events_of_mem_offers {moves : List Move} {e : Event}
    (h : .event e ∈ Move.offers moves) : e ∈ Move.events moves := by
  rcases List.mem_filterMap.1 h with ⟨move, hmem, hoffer⟩
  refine List.mem_filterMap.2 ⟨move, hmem, ?_⟩
  cases move with
  | operation op => cases op <;> simp_all [Move.offer?, Operation.offer?, Move.event?]
  | _ => simp [Move.offer?] at hoffer

/-! ## The snapshot that is owed -/

namespace Connection

variable {c c' : Connection} {op : Operation} {key : String} {tag : Seq}

/-- A connection owes a snapshot for its subscription with a number after an operation if the
operation is an event with this number, for the key or for want of room, or if it owed the
snapshot before. -/
theorem Change.owed_cases (h : c.Change op c')
    (hplain : ∀ seq, op ≠ .subscribe key (some seq)) (hstate : c'.state = .subscribed key)
    (howed : c'.queue.resync = some tag) :
    c.state = .subscribed key ∧
      ((∃ e, op = .event e ∧ e.seq = tag ∧ (e.key = some key ∨ c.Overflows op)) ∨
        (Move.operation op).Holds key ∧ c.queue.resync = some tag) := by
  cases h with
  | ignored hignored =>
      cases hignored with
      | closed hclosed => simp [hstate] at hclosed
      | foreign => exact ⟨hstate, .inr ⟨trivial, howed⟩⟩
      | crowded => exact ⟨hstate, .inr ⟨trivial, howed⟩⟩
  | queued => exact ⟨hstate, .inr ⟨trivial, howed⟩⟩
  | @covered e other _ hsubscribed hkeyed hkey =>
      have hsame : other = key := by
        rw [notify_state, hsubscribed] at hstate
        simpa using hstate
      rcases c.queue.requestResync_cases e.seq with ⟨new, hnew, -, -, hcases⟩
      rw [notify_queue, hnew, Option.some.injEq] at howed
      subst howed hsame
      rcases hcases with hseq | hbefore
      · exact ⟨hstate, .inl ⟨e, rfl, hseq.symm, .inl hkey⟩⟩
      · exact ⟨hstate, .inr ⟨trivial, hbefore⟩⟩
  | @overflowed e other hsubscribed hfor hneeds hfull =>
      have hover : c.Overflows (.event e) := by
        refine ⟨e, rfl, by simp [hsubscribed], ?_, hneeds, hfull⟩
        rwa [ConnectionState.key?_eq_some.2 hsubscribed]
      rcases c.queue.discard.requestResync_cases e.seq with ⟨new, hnew, -, -, hcases⟩
      rw [notify_queue, hnew, Option.some.injEq] at howed
      subst howed
      rcases hcases with hseq | hbefore
      · exact ⟨hstate, .inl ⟨e, rfl, hseq.symm, .inr hover⟩⟩
      · exact ⟨hstate, .inr ⟨trivial, hbefore⟩⟩
  | truncated hauthenticated => simp [hauthenticated] at hstate
  | taken => exact ⟨hstate, .inr ⟨trivial, howed⟩⟩
  | @refreshed other seq =>
      have hsame : other = key := by simpa using hstate
      subst hsame
      exact absurd rfl (hplain seq)
  | @kept other hsubscribed =>
      have hsame : other = key := by
        rw [notify_state, hsubscribed] at hstate
        simpa using hstate
      exact ⟨hstate, .inr ⟨⟨hsame, rfl⟩, howed⟩⟩
  | switched => simp [Queue.dropKeyed] at howed
  | unsubscribed => simp at hstate
  | closed => simp at hstate

/-- Whether a connection owes a snapshot for a key with at least this number, unless it is
closed. -/
def OwesFrom (c : Connection) (key : String) (low : Seq) : Prop :=
  c.state ≠ .closed →
    c.state = .subscribed key ∧ ∃ tag, c.queue.resync = some tag ∧ low ≤ tag

/-- An event that finds no room makes the connection owe a snapshot with its number. -/
theorem owesFrom_of_overflows {e : Event} (hstate : c.state = .subscribed key)
    (hover : c.Overflows (.event e)) : (c.operate (.event e)).OwesFrom key e.seq := by
  rcases hover with ⟨_, ⟨⟩, hopen, hfor, hneeds, hfull⟩
  have hkey : c.state.key? = some key := ConnectionState.key?_eq_some.2 hstate
  rcases c.queue.discard.requestResync_cases e.seq with ⟨tag, htag, hle, -, -⟩
  intro _
  simp only [operate, offerEvent_of_isFor hopen hfor, hkey, Option.isSome_some,
    Queue.pushEvent_overflowed hneeds hfull, notify_state, notify_queue]
  exact ⟨hstate, tag, htag, hle⟩

/-- An operation that holds a subscription lowers no number. -/
theorem OwesFrom.change {low : Seq} (howes : c.OwesFrom key low) (h : c.Change op c')
    (hholds : (Move.operation op).Holds key) : c'.OwesFrom key low := by
  intro hopen
  have hraised : ∀ {q : Queue} {seq : Seq},
      (∃ tag, q.resync = some tag ∧ low ≤ tag) →
        ∃ tag, (q.requestResync seq).resync = some tag ∧ low ≤ tag := by
    rintro q seq ⟨old, hold, hle⟩
    rcases q.requestResync_cases seq with ⟨new, hnew, -, hbefore, -⟩
    exact ⟨new, hnew, Fin.le_trans hle (hbefore old hold)⟩
  cases h with
  | ignored => exact howes hopen
  | queued => exact howes hopen
  | covered => exact ⟨(howes hopen).1, hraised (howes hopen).2⟩
  | overflowed => exact ⟨(howes hopen).1, hraised (q := c.queue.discard) (howes hopen).2⟩
  | truncated hauthenticated =>
      have hsubscribed := (howes hopen).1
      simp [hauthenticated] at hsubscribed
  | taken => exact howes hopen
  | refreshed => simp [Move.Holds] at hholds
  | kept => exact howes hopen
  | switched hbefore hother =>
      have hsame : _ = key := hholds.1
      rw [hsame] at hother
      exact absurd (howes hbefore).1 hother
  | unsubscribed => exact hholds.elim
  | closed => exact absurd rfl hopen

end Connection

/-! ## Events that intrude -/

namespace Session

variable {s t u : Session} {moves : List Move} {done now : List Undertaking} {move : Move}
  {key : String} {tag : Seq} {b : Event}

/-- A move that is no operation holds every subscription. -/
theorem LeavesQueue.holds (h : LeavesQueue s move now t) (key : String) : move.Holds key := by
  cases move with
  | operation op => exact absurd rfl (h.not_operation op)
  | _ => trivial

/-- A session owes a snapshot for its subscription with a number after a move if the move offers
an event with this number, for the key or for want of room, or if it owed the snapshot before
and does not ask for it. -/
theorem Moves.owed_cases (h : Moves s move now t)
    (hplain : ∀ seq, move ≠ .operation (.subscribe key (some seq)))
    (hstate : t.connection.state = .subscribed key)
    (howed : t.connection.queue.resync = some tag) :
    s.connection.state = .subscribed key ∧
      ((∃ e, move = .operation (.event e) ∧ e.seq = tag ∧
          (e.key = some key ∨ s.connection.Overflows (.event e))) ∨
        move.Holds key ∧ (∀ other seq, .fetch other seq ∉ now) ∧
          s.connection.queue.resync = some tag) := by
  rcases h.queue_cases with ⟨op, rfl, rfl, rfl⟩ | ⟨step, c, rfl, hhandout, -, rfl⟩ | hleaves
  · have hplain : ∀ seq, op ≠ .subscribe key (some seq) := fun seq heq =>
      hplain seq (by rw [heq])
    rcases (s.connection.operate_change op).owed_cases hplain hstate howed with
      ⟨hsubscribed, ⟨e, rfl, hseq, hreason⟩ | ⟨hholds, hbefore⟩⟩
    · exact ⟨hsubscribed, .inl ⟨e, rfl, hseq, hreason⟩⟩
    · exact ⟨hsubscribed, .inr ⟨hholds, by simp, hbefore⟩⟩
  · cases hhandout with
    | closed hclosed => simp [hclosed] at hstate
    | _ => simp at howed
  · rw [hleaves.state_eq] at hstate
    rw [hleaves.resync_eq] at howed
    exact ⟨hstate, .inr ⟨hleaves.holds key, hleaves.asks_nothing, howed⟩⟩

/-- A move that holds a subscription and does not ask for the snapshot lowers no number. -/
theorem Moves.owesFrom {low : Seq} (h : Moves s move now t)
    (howes : s.connection.OwesFrom key low) (hholds : move.Holds key)
    (hnone : ∀ other seq, .fetch other seq ∉ now) : t.connection.OwesFrom key low := by
  rcases h.queue_cases with ⟨op, rfl, -, rfl⟩ | ⟨step, c, rfl, hhandout, rfl, rfl⟩ | hleaves
  · exact howes.change (s.connection.operate_change op) hholds
  · cases hhandout with
    | closed => exact howes
    | idle hopen hclear =>
        rcases howes hopen with ⟨hstate, tag, howed, -⟩
        simp [hclear key hstate] at howed
    | @resync other seq => exact absurd List.mem_cons_self (hnone other seq)
    | frame hopen hclear =>
        rcases howes hopen with ⟨hstate, tag, howed, -⟩
        simp [hclear key hstate] at howed
  · unfold Connection.OwesFrom
    rw [hleaves.state_eq, hleaves.resync_eq]
    exact howes

/-- A snapshot that stays owed keeps its number or gets a higher one. -/
theorem Run.owesFrom {low : Seq} (hrun : Run s moves done t)
    (howes : s.connection.OwesFrom key low) (hholds : ∀ move ∈ moves, move.Holds key)
    (hnone : ∀ other seq, .fetch other seq ∉ done) : t.connection.OwesFrom key low := by
  induction hrun with
  | refl => exact howes
  | tail _ hmove ih =>
      refine hmove.owesFrom (ih ?_ ?_) ?_ ?_
      · exact fun move hmem => hholds move (List.mem_append_left _ hmem)
      · exact fun other seq hmem => hnone other seq (List.mem_append_left _ hmem)
      · exact hholds _ (List.mem_append_right _ List.mem_cons_self)
      · exact fun other seq hmem => hnone other seq (List.mem_append_right _ hmem)

/-- Whether an event that is not for the key of a subscription found no room in a run, and
since then the subscription has been held and no snapshot has been asked for. -/
inductive Intrudes (s : Session) (moves : List Move) (t : Session) (key : String) (b : Event) :
    Prop where
  | since {before between : List Move} {earlier later : List Undertaking} {found : Session}
      (hmoves : moves = before ++ .operation (.event b) :: between)
      (hrun : Run s before earlier found) (hstate : found.connection.state = .subscribed key)
      (hover : found.connection.Overflows (.event b)) (hother : b.key ≠ some key)
      (hsince : Run (found.onConnection fun c => c.operate (.event b)) between later t)
      (hholds : ∀ move ∈ between, move.Holds key)
      (hnone : ∀ other seq, .fetch other seq ∉ later)

/-- An event that has intruded goes on to do so as long as the subscription is held and no
snapshot is asked for. -/
theorem Intrudes.append (h : Intrudes s moves t key b) (hmove : Moves t move now u)
    (hholds : move.Holds key) (hnone : ∀ other seq, .fetch other seq ∉ now) :
    Intrudes s (moves ++ [move]) u key b := by
  rcases h with @⟨before, between, earlier, later, found, hmoves, hrun, hstate, hover, hother,
    hsince, hbetween, hlater⟩
  refine @Intrudes.since _ _ _ _ _ before (between ++ [move]) earlier (later ++ now) found
    (by simp [hmoves]) hrun hstate hover hother (hsince.tail hmove) ?_ ?_
  · intro other hmem
    rcases List.mem_append.1 hmem with hbefore | hlast
    · exact hbetween other hbefore
    · rw [List.mem_singleton.1 hlast]
      exact hholds
  · intro other seq hmem
    rcases List.mem_append.1 hmem with hbefore | hlast
    · exact hlater other seq hbefore
    · exact hnone other seq hlast

/-- The snapshot that is owed has at least the number of an event that intrudes. -/
theorem Intrudes.le_owed (h : Intrudes s moves t key b)
    (hstate : t.connection.state = .subscribed key)
    (howed : t.connection.queue.resync = some tag) : b.seq ≤ tag := by
  rcases h with @⟨before, between, earlier, later, found, -, -, hfound, hover, -, hsince, hholds,
    hnone⟩
  have howes := hsince.owesFrom (Connection.owesFrom_of_overflows hfound hover) hholds hnone
  rcases howes (by simp [hstate]) with ⟨-, other, hother, hle⟩
  rw [howed, Option.some.injEq] at hother
  rwa [hother]

/-- The number of a snapshot that is owed to a subscription is that of an event for its key or
of an event that intrudes. -/
theorem Run.origin (hrun : Run s moves done t) (hclear : s.connection.queue.resync = none)
    (hplain : ∀ seq, .operation (.subscribe key (some seq)) ∉ moves)
    (hstate : t.connection.state = .subscribed key)
    (howed : t.connection.queue.resync = some tag) :
    (∃ e ∈ Move.events moves, e.key = some key ∧ e.seq = tag) ∨
      ∃ b, Intrudes s moves t key b ∧ b.seq = tag := by
  induction hrun generalizing tag with
  | refl => simp [hclear] at howed
  | @tail t u moves move done now hrun hmove ih =>
      have hlast : ∀ seq, move ≠ .operation (.subscribe key (some seq)) := by
        rintro seq rfl
        exact hplain seq (List.mem_append_right _ List.mem_cons_self)
      rcases hmove.owed_cases hlast hstate howed with
        ⟨hsubscribed, ⟨e, rfl, hseq, hreason⟩ | ⟨hholds, hnone, hbefore⟩⟩
      · -- The last move gives the number: its event is for the key, or it intrudes.
        by_cases hkey : e.key = some key
        · refine .inl ⟨e, ?_, hkey, hseq⟩
          rw [Move.events_append]
          exact List.mem_append_right _ List.mem_cons_self
        · refine .inr ⟨e, ?_, hseq⟩
          cases hmove
          exact .since rfl hrun hsubscribed (hreason.resolve_left hkey) hkey (.refl _) (by simp)
            (by simp)
      · -- The number is older, and so is the event that it comes from.
        rcases ih (fun seq hmem => hplain seq (List.mem_append_left _ hmem)) hsubscribed hbefore
          with ⟨e, he, hkey, hseq⟩ | ⟨b, hintrudes, hseq⟩
        · refine .inl ⟨e, ?_, hkey, hseq⟩
          rw [Move.events_append]
          exact List.mem_append_left _ he
        · exact .inr ⟨b, hintrudes.append hmove hholds hnone, hseq⟩

/-! ## Snapshots and the events after them -/

/-- An operation adds no frame to the queue but the one that it offers. -/
theorem mem_items_operate {c : Connection} {op : Operation} {frame : Outbound}
    (hmem : frame ∈ (c.operate op).queue.items) :
    frame ∈ c.queue.items ∨ op.offer? = some frame := by
  rcases (c.operate_change op).items_cases with ⟨-, hitems⟩ | ⟨other, hoffer, hitems⟩ |
    ⟨-, hitems⟩ | ⟨-, other, hoffer, hitems⟩ | ⟨-, -, hitems⟩
  · exact .inl (hitems ▸ hmem)
  · rw [hitems] at hmem
    rcases List.mem_append.1 hmem with hold | hlast
    · exact .inl hold
    · exact .inr (List.mem_singleton.1 hlast ▸ hoffer)
  · simp [hitems] at hmem
  · rw [hitems, List.mem_singleton] at hmem
    exact .inr (hmem ▸ hoffer)
  · rw [hitems] at hmem
    exact .inl (List.mem_filter.1 hmem).1

/-- The frames that are sent and those that wait have been offered or were waiting before. -/
theorem Run.offered (hrun : Run s moves done t) {frame : Outbound}
    (hmem : frame ∈ Undertaking.frames done ++ t.connection.queue.items) :
    frame ∈ s.connection.queue.items ∨ frame ∈ Move.offers moves := by
  induction hrun with
  | refl => exact .inl hmem
  | @tail t u moves move done now _ hmove ih =>
      have hbefore : frame ∈ Undertaking.frames done ++ t.connection.queue.items →
          frame ∈ s.connection.queue.items ∨ frame ∈ Move.offers (moves ++ [move]) := by
        intro hearlier
        rw [Move.offers_append]
        exact (ih hearlier).imp_right (List.mem_append_left _)
      rcases hmove.items_cases with ⟨op, rfl, rfl, rfl⟩ | ⟨-, first, hframes, hitems⟩ |
        ⟨-, hframes, hitems⟩
      · rw [List.append_nil] at hmem
        rcases List.mem_append.1 hmem with hsent | hwaits
        · exact hbefore (List.mem_append_left _ hsent)
        · rcases mem_items_operate hwaits with hwaited | hoffer
          · exact hbefore (List.mem_append_right _ hwaited)
          · rw [Move.offers_append]
            have hnew : (Move.operation op).offer? = some frame := hoffer
            exact .inr (List.mem_append_right _ (by simp [hnew]))
      · refine hbefore ?_
        rw [Undertaking.frames_append, hframes, List.append_assoc] at hmem
        rwa [hitems]
      · refine hbefore ?_
        rwa [Undertaking.frames_append, hframes, List.append_nil, hitems] at hmem

/-- An event for a key that is sent after a time when a snapshot is owed is offered after that
time. -/
theorem Run.offered_since {id n : Nat} {identity : Identity}
    (hrun : Run (accept id identity n) moves done s)
    (howed : s.connection.queue.resync = some tag) {more : List Move}
    {done' : List Undertaking} (hmore : Run s more done' t) {e : Event}
    (hkeyed : e.isBroadcast = false) (hsent : .event e ∈ Undertaking.frames done') :
    e ∈ Move.events more := by
  have hagrees : s.connection.Agrees := hrun.agrees
  rcases hmore.offered (List.mem_append_left _ hsent) with hwaited | hoffered
  · have hunkeyed := hagrees.unmixed (by simp [howed]) _ hwaited
    simp [Outbound.isKeyed, hkeyed] at hunkeyed
  · exact Move.mem_events_of_mem_offers hoffered

/-- Let the numbers of the events for a key rise, and let no one subscribe to the key with a
number.  An event for the key that is sent after a snapshot of the key is newer than the
snapshot, except exactly when an event that is not for the key, with a number at least as
high, intruded before the snapshot was asked for: it found no room at the connection, which
was subscribed to the key, and from then on the subscription was held and no snapshot asked
for. -/
theorem Run.snapshot_masks_iff {id n : Nat} {identity : Identity} {resource : Json.Value}
    {seq : Seq} {more : List Move} {done' : List Undertaking} {e : Event}
    (hrun : Run (accept id identity n) moves done s) (hmove : Moves s move now t)
    (hsend : .send (.snapshot key resource seq) ∈ now) (hmore : Run t more done' u)
    (hsent : .send (.frame (.event e)) ∈ done') (hkeyed : e.isBroadcast = false)
    (hkey : e.key = some key)
    (hplain : ∀ seq, .operation (.subscribe key (some seq)) ∉ moves)
    (hrising : Move.RisingFor key (moves ++ move :: more)) :
    ∃ (before : List Move) (ops : List Operation) (earlier : List Undertaking)
        (asked : Session),
      moves = before ++ .take :: ops.map .operation ∧
      done = earlier ++ [.fetch key seq] ∧
      Run (accept id identity n) before earlier asked ∧
      (e.seq ≤ seq ↔
        ∃ b, Intrudes (accept id identity n) before asked key b ∧ e.seq ≤ b.seq) := by
  rcases hrun.awaits rfl (hmove.awaited_of_snapshot hsend).1 with
    @⟨before, ops, earlier, asked, rfl, hdone, hasked, hstate, howed, -⟩
  refine ⟨before, ops, earlier, asked, rfl, hdone, hasked, ?_⟩
  -- The run is cut where the snapshot is asked for: what is sent later is offered later.
  rcases hrun.split with ⟨_, later, middle, hbefore, hafter, -⟩
  rcases hasked.deterministic hbefore with ⟨rfl, rfl⟩
  have hrest := (hafter.tail hmove).trans hmore
  have hframe : .event e ∈ Undertaking.frames (later ++ now ++ done') := by
    rw [Undertaking.frames_append]
    exact List.mem_append_right _ (List.mem_filterMap.2 ⟨_, hsent, rfl⟩)
  have hoffered := hasked.offered_since howed hrest hkeyed hframe
  have hnewer : ∀ x ∈ Move.events before, x.key = some key → x.seq < e.seq := by
    intro x hx hxkey
    have hsplit : Move.RisingFor key
        (before ++ (.take :: ops.map .operation ++ [move] ++ more)) := by
      simpa using hrising
    exact hsplit.lt hx hoffered hxkey hkey
  have hplain : ∀ seq, .operation (.subscribe key (some seq)) ∉ before := fun seq hmem =>
    hplain seq (List.mem_append_left _ hmem)
  constructor
  · intro hmasked
    -- The number cannot be that of an event for the key, for the event that is sent is newer.
    rcases hasked.origin rfl hplain hstate howed with ⟨x, hx, hxkey, rfl⟩ | ⟨b, hintrudes, rfl⟩
    · exact absurd (hnewer x hx hxkey) (Fin.not_lt.2 hmasked)
    · exact ⟨b, hintrudes, hmasked⟩
  · rintro ⟨b, hintrudes, hle⟩
    exact Fin.le_trans hle (hintrudes.le_owed hstate howed)

/-! ### A notice with a high number -/

/-- An event for the key "k" with a number. -/
def numbered (seq : Nat) : Event := .forKey "update" "k" (.ofNat seq) default

/-- What happens at a session with room for one frame: an event for the subscription waits, a
notice for everyone with a high number finds no room, and the loop asks for a snapshot. -/
def noticing : List Move :=
  [.operation (.subscribe "k" none), .operation (.event (numbered 1)),
    .operation (.event (.broadcast "notice" (.ofNat 100) default)), .start, .take]

/-- The session after that. -/
def noticed : Session :=
  ((((accept 1 ⟨"ada", none, [], .empty⟩ 1).onConnection fun c =>
    c.operate (.subscribe "k" none)).onConnection fun c =>
    c.operate (.event (numbered 1))).onConnection fun c =>
    c.operate (.event (.broadcast "notice" (.ofNat 100) default))).start.take

/-- The session when it sends the snapshot. -/
def showing : Session := noticed.fetched "k" (.ofNat 100) (.ok .null)

/-- What happens then: the next event for the subscription comes and is sent. -/
def following : List Move := [.sent (.ok ()), .operation (.event (numbered 2)), .take]

theorem noticing_run :
    Run (accept 1 ⟨"ada", none, [], .empty⟩ 1) noticing [.fetch "k" (.ofNat 100)] noticed :=
  .tail (.tail (.tail (.tail (.tail (.refl _) (.operation _)) (.operation _)) (.operation _))
    (.start (.inl rfl))) (.take rfl)

theorem showing_move :
    Moves noticed (.fetched (.ok .null)) [.send (.snapshot "k" .null (.ofNat 100))] showing :=
  .fetched rfl _

theorem following_run :
    Run showing following [.send (.frame (.event (numbered 2)))]
      (((showing.sent (.snapshot "k" .null (.ofNat 100)) (.ok ())).onConnection fun c =>
        c.operate (.event (numbered 2))).take) :=
  .tail (.tail (.tail (.refl _) (.sent rfl _)) (.operation _)) (.take rfl)

/-- The event is no newer than the snapshot, so that the notice has intruded. -/
theorem Run.snapshot_masks_iff_of_noticing :
    (numbered 2).seq ≤ .ofNat 100 ∧
      ∃ before earlier asked b,
        Run (accept 1 ⟨"ada", none, [], .empty⟩ 1) before earlier asked ∧
          Intrudes (accept 1 ⟨"ada", none, [], .empty⟩ 1) before asked "k" b ∧
          (numbered 2).seq ≤ b.seq := by
  have hplain : ∀ seq, .operation (.subscribe "k" (some seq)) ∉ noticing := by
    simp [noticing]
  have hrising : Move.RisingFor "k" (noticing ++ .fetched (.ok .null) :: following) := by
    unfold Move.RisingFor
    decide
  have hmasked : (numbered 2).seq ≤ .ofNat 100 := by decide
  rcases noticing_run.snapshot_masks_iff showing_move List.mem_cons_self following_run
      List.mem_cons_self rfl rfl hplain hrising with
    ⟨before, _, earlier, asked, -, -, hasked, hiff⟩
  rcases hiff.1 hmasked with ⟨b, hintrudes, hle⟩
  exact ⟨hmasked, before, earlier, asked, b, hasked, hintrudes, hle⟩

/-- An event that is sent after a snapshot need not be newer, even if the numbers of the events
with the same key rise and the client subscribes to its key once and for all. -/
theorem not_always_newer :
    ¬ ∀ (id n : Nat) (identity : Identity) (moves : List Move) (done : List Undertaking)
      (s : Session) (move : Move) (now : List Undertaking) (t : Session) (more : List Move)
      (done' : List Undertaking) (u : Session) (key : String) (resource : Json.Value) (seq : Seq)
      (e : Event),
      Run (accept id identity n) moves done s → Moves s move now t →
        .send (.snapshot key resource seq) ∈ now → Run t more done' u →
        .send (.frame (.event e)) ∈ done' → e.isBroadcast = false → e.key = some key →
        (∀ each ∈ moves ++ move :: more, each.Holds key) →
        (∀ key, Move.RisingFor key (moves ++ move :: more)) → seq < e.seq := by
  intro hnewer
  have hholds : ∀ each ∈ noticing ++ .fetched (.ok .null) :: following, each.Holds "k" := by
    simp [noticing, following, Move.Holds]
  have hrising : ∀ key, Move.RisingFor key (noticing ++ .fetched (.ok .null) :: following) := by
    intro key
    have hevents : Move.events (noticing ++ .fetched (.ok .null) :: following) =
        [numbered 1, .broadcast "notice" (.ofNat 100) default, numbered 2] := rfl
    have hlt : (numbered 1).seq < (numbered 2).seq := by decide
    unfold Move.RisingFor
    rw [hevents]
    simp [hlt, Event.broadcast]
  have hlt := hnewer _ _ _ _ _ _ _ _ _ _ _ _ _ _ _ _ noticing_run showing_move
    List.mem_cons_self following_run List.mem_cons_self rfl rfl hholds hrising
  exact absurd hlt (by decide)

end Session
end Gatehouse
