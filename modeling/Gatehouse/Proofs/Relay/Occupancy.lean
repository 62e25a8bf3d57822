import Gatehouse.Proofs.Relay.Moves

/-!
# Places of a queue

A queue has a number of places.  Frames that wait take one each, and so does the frame
being sent.  A snapshot that is owed waits without a place and takes one only when it is
fetched, so that it can be one too many.

Main results:

- Theorem {lit}`Connection.Change.occupied_le`: no operation takes a place that is not
  there.
- Theorem {lit}`Session.Run.beyond_capacity_iff`: when more frames wait and are being sent than
  there are places.
-/

namespace Gatehouse

/-! ## Operations -/

namespace Queue

/-- The places of a queue that gives up its backlog. -/
theorem discard_occupied_le (q : Queue) : q.discard.occupied ≤ q.occupied := by
  simp [occupied]

/-- The places of a queue without the events for one key. -/
theorem dropKeyed_occupied_le (q : Queue) : q.dropKeyed.occupied ≤ q.occupied := by
  have hlength := List.length_filter_le (fun frame => !Outbound.isKeyed frame) q.items
  simp only [occupied, dropKeyed_items, dropKeyed_inFlight]
  omega

/-- A frame that finds room keeps within the capacity. -/
theorem append_occupied_le {q : Queue} (frame : Outbound) (hroom : q.isFull = false) :
    (q.append frame).occupied ≤ q.capacity := by
  have hplaces : q.occupied < q.capacity := room_iff.1 hroom
  simp only [occupied, append_items, append_inFlight, List.length_append,
    List.length_singleton] at hplaces ⊢
  omega

/-- Starting anew with one event takes no place that is not there. -/
theorem restart_occupied_le (q : Queue) (e : Event) :
    (q.restart e).occupied ≤ max q.occupied q.capacity := by
  unfold restart
  split
  · exact Nat.le_trans q.discard_occupied_le (Nat.le_max_left _ _)
  · rename_i hroom
    have happend := append_occupied_le (q := q.discard) (.event e) (by simpa using hroom)
    exact Nat.le_trans happend (Nat.le_max_right _ _)

@[simp]
theorem restart_capacity (q : Queue) (e : Event) : (q.restart e).capacity = q.capacity := by
  unfold restart
  split <;> rfl

@[simp]
theorem restart_inFlight (q : Queue) (e : Event) : (q.restart e).inFlight = q.inFlight := by
  unfold restart
  split <;> rfl

end Queue

namespace Connection

variable {c c' : Connection} {op : Operation}

/-- No operation changes the number of places. -/
theorem Change.capacity_eq (h : c.Change op c') : c'.queue.capacity = c.queue.capacity := by
  cases h <;> simp

/-- No operation begins or ends a send. -/
theorem Change.inFlight_eq (h : c.Change op c') : c'.queue.inFlight = c.queue.inFlight := by
  cases h <;> simp

/-- No operation takes a place that is not there. -/
theorem Change.occupied_le (h : c.Change op c') :
    c'.queue.occupied ≤ max c.queue.occupied c.queue.capacity := by
  have hstays : c.queue.occupied ≤ max c.queue.occupied c.queue.capacity :=
    Nat.le_max_left _ _
  have hroom : c.queue.capacity ≤ max c.queue.occupied c.queue.capacity :=
    Nat.le_max_right _ _
  cases h with
  | ignored => exact hstays
  | queued _ _ _ hfull => exact Nat.le_trans (Queue.append_occupied_le _ hfull) hroom
  | covered => exact hstays
  | overflowed => exact Nat.le_trans c.queue.discard_occupied_le hstays
  | truncated => exact c.queue.restart_occupied_le _
  | taken _ hfull => exact Nat.le_trans (Queue.append_occupied_le _ hfull) hroom
  | refreshed => exact Nat.le_trans c.queue.dropKeyed_occupied_le hstays
  | kept => exact hstays
  | switched => exact Nat.le_trans c.queue.dropKeyed_occupied_le hstays
  | unsubscribed => exact Nat.le_trans c.queue.dropKeyed_occupied_le hstays
  | closed => exact hstays

/-- No step of a delivery loop changes the number of places. -/
theorem Handout.capacity_eq {step : Step} (h : c.Handout step c') :
    c'.queue.capacity = c.queue.capacity := by
  cases h <;> rfl

/-- A step takes a place that is not there exactly if it is a snapshot and all places are
taken by frames that wait. -/
theorem Handout.overfull_iff {step : Step} (h : c.Handout step c')
    (hfits : c.queue.occupied ≤ c.queue.capacity) :
    c.queue.capacity < c'.queue.occupied ↔
      c.queue.items.length = c.queue.capacity ∧ ∃ key seq, step = .resync key seq := by
  cases h with
  | closed => simp; omega
  | idle => simp [Queue.occupied] at hfits ⊢; omega
  | resync => simp [Queue.occupied] at hfits ⊢; omega
  | frame _ _ hfirst => simp [Queue.occupied, hfirst] at hfits ⊢; omega

end Connection

/-! ## Sessions -/

namespace Session

/-- How many frames a session is sending: a frame of the queue or a snapshot counts, the
notice before the end of the loop does not. -/
def framesBeingSent (s : Session) : Nat :=
  match s.loop with
  | some (.sending (.frame _)) | some (.sending (.snapshot _ _ _)) => 1
  | _ => 0

/-- Whether a session is sending a snapshot. -/
def IsSendingSnapshot (s : Session) : Prop :=
  ∃ key resource seq, s.loop = some (.sending (.snapshot key resource seq))

/-- What holds of the places of a session at any time: frames that wait have one each, and
so has a frame of the queue that is being sent; what is fetched or sent is counted. -/
structure Fits (s : Session) : Prop where
  queued_le : s.connection.queued ≤ s.connection.queue.capacity
  sending : ∀ frame, s.loop = some (.sending (.frame frame)) →
    s.connection.queued + 1 ≤ s.connection.queue.capacity
  busy : s.undertakings ≠ [] → s.connection.queue.inFlight = true

theorem fits_accept (id : Nat) (identity : Identity) (capacity : Nat) :
    (accept id identity capacity).Fits where
  queued_le := by simp [accept, Connection.accept, Connection.queued, Queue.ofCapacity]
  sending := by simp [accept]
  busy := by simp [accept, undertakings]

variable {s t : Session} {move : Move} {now : List Undertaking}

/-- No move changes the number of places. -/
theorem Moves.capacity_eq (h : Moves s move now t) :
    t.connection.queue.capacity = s.connection.queue.capacity := by
  cases h with
  | operation op => exact (s.connection.operate_change op).capacity_eq
  | start => rfl
  | abandon => rfl
  | take hready =>
      rcases s.take_handout with ⟨step, c, hhandout, htake⟩
      rw [htake]
      exact hhandout.capacity_eq
  | wake _ hsignal =>
      rw [wake_of_signal hsignal]
      rfl
  | @sent dispatch hsending outcome =>
      rcases s.sent_cases dispatch outcome with ⟨-, -, hs⟩ | ⟨reason, -, -, hs⟩ | ⟨fault, -, hs⟩ <;>
        rw [hs] <;> rfl
  | @fetched key seq hfetching answer =>
      rcases s.fetched_cases key seq answer with ⟨_, -, -, hs⟩ | ⟨_, -, -, hs⟩ | ⟨_, -, hs⟩ <;>
        rw [hs] <;> rfl

/-- An operation keeps within the places. -/
theorem Fits.operate (hs : s.Fits) (op : Operation) :
    (s.onConnection fun c => c.operate op).Fits := by
  have hchange := s.connection.operate_change op
  have hcapacity := hchange.capacity_eq
  have hflight := hchange.inFlight_eq
  have hoccupied := hchange.occupied_le
  have hqueued := hs.queued_le
  simp only [Connection.queued, Queue.occupied, hflight] at hqueued hoccupied
  refine ⟨?_, ?_, ?_⟩
  · simp only [Connection.queued, onConnection_connection]
    omega
  · intro frame hloop
    have hplace := hs.sending frame hloop
    have hsend : s.connection.queue.inFlight = true := by
      apply hs.busy
      rw [onConnection_loop] at hloop
      simp [undertakings, hloop, Phase.undertaking?]
    simp only [Connection.queued, onConnection_connection] at hplace ⊢
    rw [hsend, Bool.toNat_true] at hoccupied
    omega
  · intro hbusy
    rw [onConnection_connection, hflight]
    exact hs.busy hbusy

/-- What a step hands out is within the places, a snapshot apart. -/
theorem Fits.handout (hs : s.Fits) {step : Step} {c : Connection}
    (h : s.connection.Handout step c) : (s.enter c step.phase).Fits := by
  have hqueued := hs.queued_le
  simp only [Connection.queued] at hqueued
  cases h with
  | closed => exact ⟨hqueued, by simp [Step.phase], by simp [Step.phase, Phase.undertaking?]⟩
  | idle => exact ⟨hqueued, by simp [Step.phase], by simp [Step.phase, Phase.undertaking?]⟩
  | resync => exact ⟨hqueued, by simp [Step.phase], fun _ => rfl⟩
  | frame _ _ hfirst =>
      rw [hfirst, List.length_cons] at hqueued
      refine ⟨?_, fun _ _ => hqueued, fun _ => rfl⟩
      simp only [Connection.queued, enter_connection]
      omega

/-- A session whose loop rests, or is ready to go on, keeps within the places. -/
theorem Fits.rest (hs : s.Fits) {c : Connection} {phase : Phase}
    (hitems : c.queue.items = s.connection.queue.items)
    (hcapacity : c.queue.capacity = s.connection.queue.capacity)
    (hidle : phase.undertaking? = none) : (s.enter c phase).Fits where
  queued_le := by
    have hqueued := hs.queued_le
    simp only [Connection.queued, enter_connection, hitems, hcapacity] at hqueued ⊢
    exact hqueued
  sending := by
    intro frame hloop
    rw [enter_loop, Option.some.injEq] at hloop
    rw [hloop] at hidle
    simp [Phase.undertaking?] at hidle
  busy := by simp [hidle]

/-- Every move keeps within the places, a snapshot apart. -/
theorem Fits.after (hs : s.Fits) (h : Moves s move now t) : t.Fits := by
  cases h with
  | operation op => exact hs.operate op
  | start =>
      have hready : (s.enter s.connection .ready).Fits := hs.rest rfl rfl rfl
      exact hready
  | abandon => exact ⟨hs.queued_le, by simp, by simp [undertakings]⟩
  | take hready =>
      rcases s.take_handout with ⟨step, c, hhandout, htake⟩
      rw [htake]
      exact hs.handout hhandout
  | wake _ hsignal =>
      rw [wake_of_signal hsignal]
      exact hs.rest rfl rfl rfl
  | @sent dispatch hsending outcome =>
      rcases s.sent_cases dispatch outcome with
        ⟨-, -, hsent⟩ | ⟨_, -, -, hsent⟩ | ⟨_, -, hsent⟩ <;>
        rw [hsent] <;> exact hs.rest rfl rfl rfl
  | @fetched key seq hfetching answer =>
      have hbusy : s.connection.queue.inFlight = true := by
        apply hs.busy
        simp [undertakings, hfetching, Phase.undertaking?]
      rcases s.fetched_cases key seq answer with
        ⟨_, -, -, hfetched⟩ | ⟨_, -, -, hfetched⟩ | ⟨_, -, hfetched⟩
      · rw [hfetched]
        exact ⟨hs.queued_le, by simp, fun _ => hbusy⟩
      · rw [hfetched]
        exact hs.rest rfl rfl rfl
      · rw [hfetched]
        exact ⟨hs.queued_le, by simp, fun _ => hbusy⟩

/-- A session has one more frame on its hands than places exactly if it sends a snapshot
while all places are taken by frames that wait. -/
theorem Fits.overfull_iff (hs : s.Fits) :
    s.connection.queue.capacity < s.connection.queued + s.framesBeingSent ↔
      s.connection.queued = s.connection.queue.capacity ∧ s.IsSendingSnapshot := by
  have hqueued := hs.queued_le
  constructor
  · intro hover
    cases hloop : s.loop with
    | none =>
        simp only [framesBeingSent, hloop] at hover
        omega
    | some phase =>
        cases phase with
        | sending dispatch =>
            cases dispatch with
            | frame frame =>
                have hplace := hs.sending frame hloop
                simp only [framesBeingSent, hloop] at hover
                omega
            | snapshot key resource seq =>
                simp only [framesBeingSent, hloop] at hover
                exact ⟨by omega, key, resource, seq, hloop⟩
            | notice fault =>
                simp only [framesBeingSent, hloop] at hover
                omega
        | _ =>
            simp only [framesBeingSent, hloop] at hover
            omega
  · rintro ⟨hall, key, resource, seq, hloop⟩
    simp only [framesBeingSent, hloop]
    omega

/-- As long as no place is taken that is not there, the one move that takes one is to take
a snapshot that is owed while frames wait at all places. -/
theorem Moves.overfull_iff (h : Moves s move now t)
    (hfits : s.connection.queue.occupied ≤ s.connection.queue.capacity) :
    s.connection.queue.capacity < t.connection.queue.occupied ↔
      move = .take ∧ s.connection.queued = s.connection.queue.capacity ∧
        ∃ key seq, now = [.fetch key seq] := by
  cases h with
  | operation op =>
      have hoccupied := (s.connection.operate_change op).occupied_le
      simp only [onConnection_connection, reduceCtorEq, false_and, iff_false]
      omega
  | start => simpa using hfits
  | abandon => simpa using hfits
  | take hready =>
      rcases s.take_handout with ⟨step, c, hhandout, htake⟩
      rw [htake, undertakings_enter, enter_connection, hhandout.overfull_iff hfits]
      cases step <;> simp [Step.phase, Phase.undertaking?, Connection.queued]
  | wake _ hsignal =>
      rw [wake_of_signal hsignal]
      simpa [Queue.occupied] using hfits
  | @sent dispatch hsending outcome =>
      rcases s.sent_cases dispatch outcome with ⟨-, -, hsent⟩ | ⟨_, -, -, hsent⟩ | ⟨_, -, hsent⟩
      · rw [hsent]
        simp only [Queue.occupied, enter_connection, Connection.finishSend, Queue.finishSend,
          Bool.toNat_false] at hfits ⊢
        simp only [reduceCtorEq, false_and, iff_false]
        omega
      · simpa [hsent] using hfits
      · simpa [hsent] using hfits
  | @fetched key seq hfetching answer =>
      rcases s.fetched_cases key seq answer with
        ⟨_, -, -, hfetched⟩ | ⟨_, -, -, hfetched⟩ | ⟨_, -, hfetched⟩ <;>
        simpa [hfetched] using hfits

/-- The frames being sent have a place. -/
theorem Fits.framesBeingSent_le (hs : s.Fits) :
    s.framesBeingSent ≤ s.connection.queue.inFlight.toNat := by
  unfold framesBeingSent
  split <;> rename_i hloop
  · have hbusy := hs.busy (by simp [undertakings, hloop, Phase.undertaking?])
    simp [hbusy]
  · have hbusy := hs.busy (by simp [undertakings, hloop, Phase.undertaking?])
    simp [hbusy]
  · exact Nat.zero_le _

/-- The queue of a session has room for at least one frame at any time. -/
theorem Run.capacity_eq {id n : Nat} {identity : Identity} {moves : List Move}
    {done : List Undertaking} (hrun : Run (accept id identity n) moves done s) :
    s.connection.queue.capacity = max 1 n :=
  hrun.invariant (P := fun s => s.connection.queue.capacity = max 1 n)
    (fun hmove hs => hmove.capacity_eq.trans hs) rfl

/-- In every run the frames that wait keep within the places of the queue.  Counting those
being sent there is one too many exactly while a snapshot is being sent and frames wait at
all places; the one move that takes a place too many is to fetch a snapshot while frames
wait at all places. -/
theorem Run.beyond_capacity_iff {id n : Nat} {identity : Identity} {moves : List Move}
    {done : List Undertaking} (hrun : Run (accept id identity n) moves done s) :
    s.connection.queued ≤ max 1 n ∧
      s.connection.queued + s.framesBeingSent ≤ s.connection.queue.occupied ∧
      (max 1 n < s.connection.queued + s.framesBeingSent ↔
        s.connection.queued = max 1 n ∧ s.IsSendingSnapshot) ∧
      ∀ {move : Move} {now : List Undertaking} {t : Session}, Moves s move now t →
        s.connection.queue.occupied ≤ max 1 n →
        (max 1 n < t.connection.queue.occupied ↔
          move = .take ∧ s.connection.queued = max 1 n ∧
            ∃ key seq, now = [.fetch key seq]) := by
  have hfits : s.Fits :=
    hrun.invariant (fun hmove hs => hs.after hmove) (fits_accept id identity n)
  have hcapacity := hrun.capacity_eq
  refine ⟨?_, ?_, ?_, ?_⟩
  · rw [← hcapacity]
    exact hfits.queued_le
  · exact Nat.add_le_add_left hfits.framesBeingSent_le _
  · rw [← hcapacity]
    exact hfits.overfull_iff
  · intro move now t hmove hplaces
    rw [← hcapacity] at hplaces ⊢
    exact hmove.overfull_iff hplaces

/-! ### A place too many -/

/-- A session with room for one frame that has subscribed, been offered a notice for
everyone and sends the snapshot it was owed. -/
def overfull : Session :=
  ((((accept 1 ⟨"ada", none, [], .empty⟩ 1).onConnection fun c =>
    c.operate (.subscribe "k" (some (.ofNat 5)))).onConnection fun c =>
    c.operate (.event (.broadcast "notice" (.ofNat 6) default))).start.take).fetched
      "k" (.ofNat 5) (.ok .null)

theorem overfull_run :
    Run (accept 1 ⟨"ada", none, [], .empty⟩ 1)
      [.operation (.subscribe "k" (some (.ofNat 5))),
        .operation (.event (.broadcast "notice" (.ofNat 6) default)), .start, .take,
        .fetched (.ok .null)]
      [.fetch "k" (.ofNat 5), .send (.snapshot "k" .null (.ofNat 5))] overfull :=
  (.tail (.tail (.tail (.tail (.tail (.refl _) (.operation _)) (.operation _))
    (.start (.inl rfl))) (.take rfl)) (.fetched rfl (.ok .null)))

/-- Sending a snapshot while a notice waits at the only place. -/
theorem Run.overfull_of_one :
    max 1 1 < overfull.connection.queued + overfull.framesBeingSent ∧
      overfull.connection.queued = max 1 1 ∧ overfull.IsSendingSnapshot := by
  have hover : max 1 1 < overfull.connection.queued + overfull.framesBeingSent := by decide
  exact ⟨hover, overfull_run.beyond_capacity_iff.2.2.1.1 hover⟩

/-- Frames that wait and are being sent can be more than the places of the queue. -/
theorem not_always_within_capacity :
    ¬ ∀ (id n : Nat) (identity : Identity) (moves : List Move) (done : List Undertaking)
      (s : Session), Run (accept id identity n) moves done s →
        s.connection.queued + s.framesBeingSent ≤ max 1 n := by
  intro hbound
  have hover : overfull.connection.queued + overfull.framesBeingSent ≤ max 1 1 :=
    hbound _ _ _ _ _ _ overfull_run
  exact absurd hover (by decide)

end Session
end Gatehouse
