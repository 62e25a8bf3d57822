import Gatehouse.Proofs.Relay.Occupancy

/-!
# Queues and subscriptions agree

What waits at an open connection fits its subscription: every event that waits concerns the
connection, a snapshot is owed to a subscription alone, and while one is owed no event for a
key waits.  This holds however operations and the steps of delivery loops follow each other,
also when several loops run at once.

Main results:

- Theorem {lit}`Session.Run.reaches`: a session does nothing else to its connection.
- Theorem {lit}`Connection.Reaches.fits_subscription`: what may wait at a connection.
-/

namespace Gatehouse

/-- The frames that are left when the events for a key are removed are no such events. -/
theorem Queue.not_isKeyed_of_mem_dropKeyed {q : Queue} {frame : Outbound}
    (hmem : frame ∈ q.dropKeyed.items) : frame.isKeyed = false := by
  have hkept : (!frame.isKeyed) = true := by simpa using (List.mem_filter.1 hmem).2
  simpa using hkept

/-- An event that is not for a key concerns everyone. -/
theorem Event.isFor_of_not_isKeyed {e : Event} (h : (Outbound.event e).isKeyed = false)
    (key? : Option String) : e.isFor key? = true := by
  have hcast : e.isBroadcast = true := by simpa [Outbound.isKeyed] using h
  exact Event.isFor_iff.2 (.inl hcast)

namespace Connection

variable {c c' : Connection}

/-! ## What every step keeps -/

/-- What holds of the queue and the subscription of a connection at any time. -/
structure Agrees (c : Connection) : Prop where
  /-- The frames that wait have a place each. -/
  length_le : c.queue.items.length ≤ c.queue.capacity
  /-- The events that wait concern the connection. -/
  concerns : c.state ≠ .closed → ∀ e, .event e ∈ c.queue.items → e.isFor c.state.key? = true
  /-- A snapshot is owed to a subscription. -/
  owing : c.queue.resync ≠ none → c.state ≠ .authenticated
  /-- A snapshot stands for all events for a key. -/
  unmixed : c.queue.resync ≠ none → ∀ frame ∈ c.queue.items, frame.isKeyed = false

theorem agrees_accept (id : Nat) (identity : Identity) (capacity : Nat) :
    (accept id identity capacity).Agrees where
  length_le := Nat.zero_le _
  concerns := by simp [accept, Queue.ofCapacity]
  owing := by simp [accept, Queue.ofCapacity]
  unmixed := by simp [accept, Queue.ofCapacity]

/-- No snapshot is owed without a subscription. -/
theorem Agrees.resync_eq_none (h : c.Agrees) (hstate : c.state = .authenticated) :
    c.queue.resync = none := by
  cases hresync : c.queue.resync with
  | none => rfl
  | some seq => exact absurd hstate (h.owing (by simp [hresync]))

/-- A frame that is put at the end of the queue and fits there keeps the agreement. -/
theorem Agrees.append (h : c.Agrees) {frame : Outbound} (hroom : c.queue.isFull = false)
    (hfor : ∀ e, frame = .event e → e.isFor c.state.key? = true)
    (hunmixed : c.queue.resync ≠ none → frame.isKeyed = false) :
    (notify { c with queue := c.queue.append frame }).Agrees where
  length_le := by
    have hplaces : c.queue.occupied < c.queue.capacity := Queue.room_iff.1 hroom
    simp only [notify_queue, Queue.append_items, Queue.append_capacity, List.length_append,
      List.length_singleton]
    unfold Queue.occupied at hplaces
    omega
  concerns := by
    intro hopen e hmem
    rcases List.mem_append.1 hmem with hbefore | hlast
    · exact h.concerns hopen e hbefore
    · exact hfor e (List.mem_singleton.1 hlast).symm
  owing := h.owing
  unmixed := by
    intro howed other hmem
    rcases List.mem_append.1 hmem with hbefore | hlast
    · exact h.unmixed howed other hbefore
    · rw [List.mem_singleton.1 hlast]
      exact hunmixed howed

/-- A queue without events for a key agrees with any subscription. -/
theorem Agrees.dropKeyed (h : c.Agrees) {state : ConnectionState} {signal : Bool}
    (resync : Option Seq) (howing : resync ≠ none → state ≠ .authenticated) :
    Agrees { c with state, queue := { c.queue.dropKeyed with resync }, signal } where
  length_le := Nat.le_trans (List.length_filter_le _ _) h.length_le
  concerns := fun _ _ hmem =>
    Event.isFor_of_not_isKeyed (Queue.not_isKeyed_of_mem_dropKeyed hmem) _
  owing := howing
  unmixed := fun _ _ hmem => Queue.not_isKeyed_of_mem_dropKeyed hmem

/-- Every operation keeps the agreement. -/
theorem Agrees.change {op : Operation} (h : c.Agrees) (hchange : c.Change op c') :
    c'.Agrees := by
  cases hchange with
  | ignored => exact h
  | queued _ hfor hneeds hroom =>
      refine h.append hroom ?_ ?_
      · intro e heq
        rw [Outbound.event.injEq] at heq
        exact heq ▸ hfor
      · intro howed
        have hcast := hneeds.resolve_right howed
        simp [Outbound.isKeyed, hcast]
  | covered hstate _ _ howed =>
      have howed : c.queue.resync ≠ none := by simp [howed]
      exact ⟨h.length_le, h.concerns, fun _ => h.owing howed, fun _ => h.unmixed howed⟩
  | overflowed hstate =>
      have hempty : ∀ frame : Outbound, frame ∉ ([] : List Outbound) := by simp
      exact ⟨Nat.zero_le _, fun _ _ hmem => absurd hmem (hempty _), fun _ => by simp [hstate],
        fun _ _ hmem => absurd hmem (hempty _)⟩
  | @truncated e hstate hcast =>
      have hnone : c.queue.resync = none := h.resync_eq_none hstate
      rcases c.queue.restart_items e with ⟨-, hitems⟩ | ⟨hroom, hitems⟩
      · refine ⟨by simp [hitems], ?_, by simp [hnone], by simp [hnone]⟩
        simp [hitems]
      · have hplaces : c.queue.discard.occupied < c.queue.capacity := Queue.room_iff.1 hroom
        refine ⟨?_, ?_, by simp [hnone], by simp [hnone]⟩
        · simp [hitems]
          omega
        · simp [hitems, Event.isFor_iff, hcast]
  | taken _ hroom => exact h.append hroom (by simp) (fun _ => rfl)
  | @refreshed key seq =>
      have hsubscribed : ConnectionState.subscribed key ≠ .authenticated := by simp
      exact h.dropKeyed (some seq) fun _ => hsubscribed
  | kept => exact ⟨h.length_le, h.concerns, h.owing, h.unmixed⟩
  | switched => exact h.dropKeyed none (by simp)
  | unsubscribed => exact h.dropKeyed none (by simp)
  | closed =>
      exact ⟨h.length_le, fun hopen => absurd rfl hopen, fun _ => by simp, h.unmixed⟩

/-- Every step of a delivery loop keeps the agreement. -/
theorem Agrees.handout {step : Step} (h : c.Agrees) (hhandout : c.Handout step c') :
    c'.Agrees := by
  cases hhandout with
  | closed => exact h
  | idle => exact ⟨h.length_le, h.concerns, by simp, by simp⟩
  | resync => exact ⟨h.length_le, h.concerns, by simp, by simp⟩
  | frame _ _ hfirst =>
      have hlength := h.length_le
      rw [hfirst, List.length_cons] at hlength
      refine ⟨Nat.le_of_succ_le hlength, ?_, by simp, by simp⟩
      intro hopen e hmem
      exact h.concerns hopen e (by rw [hfirst]; exact List.mem_cons_of_mem _ hmem)

/-! ## All that can happen to a connection -/

/-- How a connection becomes another one: by operations, and by delivery loops that take
steps, are done with a send and hear a wake-up call, in any order. -/
inductive Reaches (c : Connection) : Connection → Prop where
  | refl : Reaches c c
  | operation {d : Connection} (h : Reaches c d) (op : Operation) : Reaches c (d.operate op)
  | step {d : Connection} (h : Reaches c d) : Reaches c d.nextStep.2
  | sent {d : Connection} (h : Reaches c d) : Reaches c d.finishSend
  | heard {d : Connection} (h : Reaches c d) : Reaches c { d with signal := false }

/-- Whatever happens keeps the agreement. -/
theorem Reaches.agrees (hreaches : c.Reaches c') (h : c.Agrees) : c'.Agrees := by
  induction hreaches with
  | refl => exact h
  | @operation d _ op ih => exact ih.change (d.operate_change op)
  | @step d _ ih => exact ih.handout d.nextStep_handout
  | sent _ ih => exact ⟨ih.length_le, ih.concerns, ih.owing, ih.unmixed⟩
  | heard _ ih => exact ⟨ih.length_le, ih.concerns, ih.owing, ih.unmixed⟩

/-- Nothing changes the number of places. -/
theorem Reaches.capacity_eq (hreaches : c.Reaches c') :
    c'.queue.capacity = c.queue.capacity := by
  induction hreaches with
  | refl => rfl
  | @operation d _ op ih => exact (d.operate_change op).capacity_eq.trans ih
  | @step d _ ih => exact d.nextStep_handout.capacity_eq.trans ih
  | sent _ ih => exact ih
  | heard _ ih => exact ih

/-- At an open connection no more frames wait than there are places.  Without a subscription
no event for a key waits and no snapshot is owed; with one every event for a key that waits
is for the key of the subscription; and while a snapshot is owed no event for a key waits.
So only events that concern the connection are handed out, and what comes next is a snapshot
only if the connection is subscribed. -/
theorem Reaches.fits_subscription {id n : Nat} {identity : Identity}
    (hreaches : (accept id identity n).Reaches c) (hopen : c.state ≠ .closed) :
    c.queue.items.length ≤ max 1 n ∧
      (c.state = .authenticated →
        (∀ frame ∈ c.queue.items, frame.isKeyed = false) ∧ c.queue.resync = none) ∧
      (∀ key, c.state = .subscribed key →
        ∀ e, .event e ∈ c.queue.items → e.isBroadcast = false → e.key = some key) ∧
      (c.queue.resync ≠ none → ∀ frame ∈ c.queue.items, frame.isKeyed = false) ∧
      (∀ e, c.nextStep.1 = .frame (.event e) → e.isFor c.state.key? = true) ∧
      (∀ seq rest, c.queue.pop = some (.resync seq, rest) →
        ∃ key, c.state = .subscribed key ∧ c.nextStep.1 = .resync key seq) := by
  have hagrees : c.Agrees := hreaches.agrees (agrees_accept id identity n)
  refine ⟨?_, ?_, ?_, hagrees.unmixed, ?_, ?_⟩
  · have hcapacity : c.queue.capacity = max 1 n := hreaches.capacity_eq
    rw [← hcapacity]
    exact hagrees.length_le
  · intro hstate
    refine ⟨?_, hagrees.resync_eq_none hstate⟩
    intro frame hmem
    cases frame with
    | control m => rfl
    | event e =>
        have hfor := hagrees.concerns hopen e hmem
        simpa [hstate, ConnectionState.key?, Event.isFor, Outbound.isKeyed] using hfor
  · intro key hstate e hmem hkeyed
    have hfor := hagrees.concerns hopen e hmem
    simpa [hstate, ConnectionState.key?, Event.isFor, hkeyed] using hfor
  · intro e hnext
    have hhandout := c.nextStep_handout
    rw [hnext] at hhandout
    generalize c.nextStep.2 = left at hhandout
    cases hhandout with
    | frame _ _ hfirst => exact hagrees.concerns hopen e (by simp [hfirst])
  · intro seq rest hpop
    have howed : c.queue.resync = some seq := by
      cases hresync : c.queue.resync with
      | none =>
          cases hitems : c.queue.items <;> simp [Queue.pop, hresync, hitems] at hpop
      | some owed =>
          rw [Queue.pop_of_resync hresync] at hpop
          simp only [Option.some.injEq, Prod.mk.injEq, Pending.resync.injEq] at hpop
          rw [hpop.1]
    have hsubscribed : c.state ≠ .authenticated := hagrees.owing (by simp [howed])
    rcases c.open_cases hopen with hstate | ⟨key, hstate⟩
    · exact absurd hstate hsubscribed
    · exact ⟨key, hstate, by rw [nextStep_of_owed hstate howed]⟩

/-! ### A connection that is owed a snapshot -/

/-- A connection that has subscribed, is owed a snapshot and has been offered a notice for
everyone. -/
def owing : Connection :=
  ((accept 1 ⟨"ada", none, [], .empty⟩ 2).operate (.subscribe "k" (some (.ofNat 5)))).operate
    (.event (.broadcast "notice" (.ofNat 6) default))

theorem owing_reaches : (accept 1 ⟨"ada", none, [], .empty⟩ 2).Reaches owing :=
  .operation (.operation .refl _) _

/-- The notice waits and the snapshot comes first. -/
theorem Reaches.fits_subscription_of_owing :
    owing.state = .subscribed "k" ∧ owing.queue.items.length = 1 ∧
      (∀ frame ∈ owing.queue.items, frame.isKeyed = false) ∧
      ∃ key, owing.state = .subscribed key ∧ owing.nextStep.1 = .resync key (.ofNat 5) := by
  have hstate : owing.state = .subscribed "k" := rfl
  rcases owing_reaches.fits_subscription (by rw [hstate]; simp) with
    ⟨-, -, -, hunmixed, -, hpop⟩
  exact ⟨hstate, rfl, hunmixed (by decide), hpop (.ofNat 5) _ rfl⟩

end Connection

/-! ## Sessions -/

namespace Session

/-- Taking the next step leaves the connection that the step leaves. -/
theorem take_connection (s : Session) : s.take.connection = s.connection.nextStep.2 := by
  unfold take
  rcases s.connection.nextStep with ⟨step, c⟩
  cases step <;> rfl

/-- A move does nothing else to the connection. -/
theorem Moves.reaches {c : Connection} {s t : Session} {move : Move} {now : List Undertaking}
    (h : Moves s move now t) (hreaches : c.Reaches s.connection) :
    c.Reaches t.connection := by
  cases h with
  | operation op => exact .operation hreaches op
  | start => exact hreaches
  | abandon => exact hreaches
  | take =>
      rw [take_connection]
      exact .step hreaches
  | wake _ hsignal =>
      rw [wake_of_signal hsignal]
      exact .heard hreaches
  | @sent dispatch _ outcome =>
      rcases s.sent_cases dispatch outcome with
        ⟨-, -, hsent⟩ | ⟨_, -, -, hsent⟩ | ⟨_, -, hsent⟩
      · rw [hsent]
        exact .sent hreaches
      · rw [hsent]
        exact hreaches
      · rw [hsent]
        exact hreaches
  | @fetched key seq _ answer =>
      rcases s.fetched_cases key seq answer with
        ⟨_, -, -, hfetched⟩ | ⟨_, -, -, hfetched⟩ | ⟨_, -, hfetched⟩ <;>
        rw [hfetched] <;> exact hreaches

/-- A session does nothing else to its connection. -/
theorem Run.reaches {s t : Session} {moves : List Move} {done : List Undertaking}
    (hrun : Run s moves done t) : s.connection.Reaches t.connection :=
  hrun.invariant (fun hmove => hmove.reaches) .refl

/-- In every run of a new session the parts of its connection agree. -/
theorem Run.agrees {id n : Nat} {identity : Identity} {t : Session} {moves : List Move}
    {done : List Undertaking} (hrun : Run (accept id identity n) moves done t) :
    t.connection.Agrees :=
  hrun.reaches.agrees (Connection.agrees_accept id identity n)

end Session
end Gatehouse
