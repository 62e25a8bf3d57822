import Gatehouse.Proofs.Relay.Masking

/-!
# A snapshot that is asked for comes first

An event that finds no room, or that a snapshot will cover, and a client that subscribes with a
number ask for a snapshot.  From then on no event for a key waits, and whatever else is put into
the queue waits behind the snapshot: as long as the subscription is held, the next step of the
delivery loop is to fetch the resource, with a number that is at least the one that was asked for.

Main results:

- Theorem {lit}`Connection.Asks.owed`: what is asked for is owed.
- Theorem {lit}`Session.Run.snapshot_first`: what is owed comes before all that waits.
-/

namespace Gatehouse

/-! ## Asking for a snapshot -/

/-- An event for which a snapshot will stand raises its number, at least to that of the event. -/
theorem Queue.pushEvent_resync {q : Queue} {e : Event} {resyncable : Bool}
    (h : (q.pushEvent e resyncable).2 = .resync) :
    ∃ tag, (q.pushEvent e resyncable).1.resync = some tag ∧ e.seq ≤ tag := by
  by_cases hcovered : (!e.isBroadcast && q.resync.isSome) = true
  · have hpush : q.pushEvent e resyncable = (q.requestResync e.seq, .resync) := by
      rw [pushEvent, if_pos hcovered]
    rcases q.requestResync_cases e.seq with ⟨tag, htag, hle, -⟩
    exact ⟨tag, by rw [hpush]; exact htag, hle⟩
  · by_cases hfull : q.isFull = true
    · have hpush : q.pushEvent e resyncable = q.overflow e resyncable := by
        rw [pushEvent, if_neg hcovered, if_pos hfull]
      rw [hpush] at h ⊢
      cases resyncable with
      | true =>
          rcases q.discard.requestResync_cases e.seq with ⟨tag, htag, hle, -⟩
          exact ⟨tag, htag, hle⟩
      | false =>
          unfold overflow at h
          by_cases hcrowded : q.discard.isFull = true <;> simp [hcrowded] at h
    · have hpush : q.pushEvent e resyncable = (q.append (.event e), .queued) := by
        rw [pushEvent, if_neg hcovered, if_neg hfull]
      rw [hpush] at h
      contradiction

namespace Connection

variable {c : Connection} {op : Operation} {key : String} {seq : Seq}

/-- Whether an operation asks for a snapshot of a key with a number: an event with the number is
offered to a subscription to the key and answered by a snapshot, or the client subscribes to the
key with the number. -/
inductive Asks (c : Connection) (key : String) : Seq → Operation → Prop where
  | event {e : Event} (hstate : c.state = .subscribed key)
      (hanswer : (c.offerEvent e).2 = .offered .resync) : Asks c key e.seq (.event e)
  | subscribe {seq : Seq} (htaken : (c.subscribe key (some seq)).2 = true) :
      Asks c key seq (.subscribe key (some seq))

/-- What is asked for is owed, with at least the number that is asked for. -/
theorem Asks.owed (h : c.Asks key seq op) :
    (c.operate op).state = .subscribed key ∧
      ∃ tag, (c.operate op).queue.resync = some tag ∧ seq ≤ tag := by
  cases h with
  | @event e hstate hanswer =>
      have hopen : c.state ≠ .closed := by simp [hstate]
      have hfor : e.isFor c.state.key? = true := by
        cases hforeign : e.isFor c.state.key? with
        | true => rfl
        | false => simp [offerEvent, hforeign] at hanswer
      have hoffer : (c.offerEvent e).2 =
          .offered (c.queue.pushEvent e c.state.key?.isSome).2 := by
        simp [offerEvent, isClosed_eq_false.2 hopen, hfor]
      have hpush : (c.queue.pushEvent e c.state.key?.isSome).2 = .resync := by
        rw [hoffer, Delivery.offered.injEq] at hanswer
        exact hanswer
      rw [operate, offerEvent_of_isFor hopen hfor]
      exact ⟨hstate, Queue.pushEvent_resync hpush⟩
  | subscribe htaken =>
      have hopen : c.isClosed = false := by
        cases hclosed : c.isClosed with
        | false => rfl
        | true => simp [Connection.subscribe, hclosed] at htaken
      rcases c.queue.dropKeyed.requestResync_cases seq with ⟨tag, htag, hle, -⟩
      have hsubscribed : (c.operate (.subscribe key (some seq))) = notify { c with
          state := .subscribed key, queue := c.queue.dropKeyed.requestResync seq } := by
        simp [operate, Connection.subscribe, hopen]
      rw [hsubscribed]
      exact ⟨rfl, tag, htag, hle⟩

end Connection

/-! ## What comes next -/

namespace Session

variable {s t u : Session} {moves : List Move} {done now : List Undertaking} {move : Move}
  {op : Operation} {key other : String} {seq tag : Seq}

/-- Only a step of the delivery loop asks for a resource. -/
theorem Moves.eq_take_of_fetch (h : Moves s move now t) (hfetch : .fetch other tag ∈ now) :
    move = .take := by
  rcases h.queue_cases with ⟨op, -, rfl, -⟩ | ⟨step, c, rfl, -⟩ | hleaves
  · simp at hfetch
  · rfl
  · exact absurd hfetch (hleaves.asks_nothing other tag)

/-- A delivery loop that takes no step asks for no resource. -/
theorem Run.fetch_not_mem (hrun : Run s moves done t) (hstill : .take ∉ moves) :
    .fetch other tag ∉ done := by
  induction hrun with
  | refl => simp
  | @tail _ _ moves move _ _ _ hmove ih =>
      intro hfetch
      rcases List.mem_append.1 hfetch with hearlier | hlast
      · exact ih (fun htake => hstill (List.mem_append_left _ htake)) hearlier
      · have htake : move = .take := hmove.eq_take_of_fetch hlast
        apply hstill
        rw [htake]
        exact List.mem_append_right _ List.mem_cons_self

/-- A step of a delivery loop that is owed a snapshot fetches the resource. -/
theorem Moves.take_of_owed (h : Moves s .take now t)
    (hstate : s.connection.state = .subscribed key)
    (howed : s.connection.queue.resync = some tag) :
    now = [.fetch key tag] ∧ t.loop = some (.fetching key tag) := by
  have hnext := Connection.nextStep_of_owed hstate howed
  have htake : s.take = s.enter
      { s.connection with queue := { s.connection.queue with resync := none, inFlight := true } }
      (.fetching key tag) := by
    rw [Session.take, hnext]
  cases h with
  | take =>
      rw [htake]
      exact ⟨rfl, rfl⟩

/-- In every run, once an event is answered by a snapshot of the subscription or the client
subscribes with a number, no event for a key waits, and the next step of the delivery loop is to
fetch the resource of the key, with a number that is at least that of the event or the one that
the client gave.  This is so at any time until a step is taken, whatever is offered meanwhile, as
long as the client does not subscribe again with a number, chooses no other key and does not end
the subscription, and the connection is open. -/
theorem Run.snapshot_first {id n : Nat} {identity : Identity}
    (hrun : Run (accept id identity n) moves done s) (hasks : s.connection.Asks key seq op) :
    (∀ frame ∈ (s.connection.operate op).queue.items, frame.isKeyed = false) ∧
      ∀ before earlier t, Run (s.onConnection fun c => c.operate op) before earlier t →
        .take ∉ before → (∀ move ∈ before, move.Holds key) → t.connection.state ≠ .closed →
        (∀ frame ∈ t.connection.queue.items, frame.isKeyed = false) ∧
          ∃ tag, seq ≤ tag ∧ t.connection.nextStep.1 = .resync key tag ∧
            ∀ now u, Moves t .take now u →
              now = [.fetch key tag] ∧ u.loop = some (.fetching key tag) := by
  have hasked : Run (accept id identity n) (moves ++ [.operation op]) (done ++ [])
      (s.onConnection fun c => c.operate op) := hrun.tail (.operation op)
  have hunmixed : ∀ {moves : List Move} {done : List Undertaking} {t : Session} {tag : Seq},
      Run (accept id identity n) moves done t → t.connection.queue.resync = some tag →
        ∀ frame ∈ t.connection.queue.items, frame.isKeyed = false := by
    intro moves done t tag hrun howed
    have hagrees : t.connection.Agrees := hrun.agrees
    exact hagrees.unmixed (by simp [howed])
  rcases hasks.owed with ⟨hstate, tag, howed, hle⟩
  have howes : (s.onConnection fun c => c.operate op).connection.OwesFrom key seq :=
    fun _ => ⟨hstate, tag, howed, hle⟩
  constructor
  · exact hunmixed hasked howed
  · intro before earlier t hbefore hstill hholds hopen
    have hnone : ∀ other tag, .fetch other tag ∉ earlier :=
      fun other tag => hbefore.fetch_not_mem hstill
    rcases hbefore.owesFrom howes hholds hnone hopen with ⟨hsubscribed, tag, howed, hle⟩
    refine ⟨hunmixed (hasked.trans hbefore) howed, tag, hle, ?_, ?_⟩
    · rw [Connection.nextStep_of_owed hsubscribed howed]
    · intro now u hmove
      exact hmove.take_of_owed hsubscribed howed

/-! ### A notice behind a snapshot -/

/-- What happens to a crowded session: an event for its subscription finds no room. -/
def latecomer : Operation := .event (.forKey "update" "k" (.ofNat 7) default)

/-- The crowded session has come about by a subscription and an event. -/
theorem crowded_run :
    Run (accept 1 ⟨"ada", none, [], .empty⟩ 1)
      [.operation (.subscribe "k" none),
        .operation (.event (.forKey "update" "k" (.ofNat 1) default))] [] crowded :=
  .tail (.tail (.refl _) (.operation _)) (.operation _)

/-- A notice for everyone and an answer to a ping are offered, and the client subscribes again. -/
def meanwhile : List Move :=
  [.operation (.event (.broadcast "notice" (.ofNat 6) default)), .operation (.control .pong),
    .operation (.subscribe "k" none)]

/-- The notice waits behind the snapshot. -/
theorem Run.snapshot_first_of_crowded :
    crowded.connection.Asks "k" (.ofNat 7) latecomer ∧
      ∃ t, Run (crowded.onConnection fun c => c.operate latecomer) meanwhile [] t ∧
        t.connection.queue.items.length = 1 ∧
        ∃ tag, .ofNat 7 ≤ tag ∧ t.connection.nextStep.1 = .resync "k" tag := by
  have hasks : crowded.connection.Asks "k" (.ofNat 7) latecomer :=
    .event (e := .forKey "update" "k" (.ofNat 7) default) rfl rfl
  have hmeanwhile : Run (crowded.onConnection fun c => c.operate latecomer) meanwhile [] _ :=
    .tail (.tail (.tail (.refl _) (.operation _)) (.operation _)) (.operation _)
  refine ⟨hasks, _, hmeanwhile, rfl, ?_⟩
  rcases crowded_run.snapshot_first hasks with ⟨-, hnext⟩
  have hholds : ∀ move ∈ meanwhile, move.Holds "k" := by
    simp [meanwhile, Move.Holds]
  rcases hnext _ _ _ hmeanwhile (by simp [meanwhile]) hholds (by decide) with
    ⟨-, tag, hle, hstep, -⟩
  exact ⟨tag, hle, hstep⟩

end Session
end Gatehouse
