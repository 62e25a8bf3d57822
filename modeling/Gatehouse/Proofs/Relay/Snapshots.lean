import Gatehouse.Proofs.Relay.Moves

/-!
# Snapshots and subscriptions

A delivery loop asks for the resource that the connection is subscribed to.  While the
fetch is under way the client may subscribe to another key or to none.  The answer is then
sent all the same: before it is sent the loop looks again whether the connection has been
closed, but not what it is subscribed to.

Main results:

- Theorem {lit}`Session.Run.awaits`: what a loop that waits for a resource asked for, and
  what has happened since.
- Theorem {lit}`Session.Run.snapshot_misdirected_iff`: when the snapshot that is sent is not
  the one of the subscription.
-/

namespace Gatehouse

/-! ## What a connection is subscribed to -/

namespace Operation

/-- The key that an open connection is subscribed to after an operation. -/
def keyAfter (key? : Option String) : Operation → Option String
  | .subscribe key _ => some key
  | .unsubscribe => none
  | _ => key?

/-- The key that an open connection is subscribed to after some operations. -/
def keyAfterAll (key? : Option String) (ops : List Operation) : Option String :=
  ops.foldl keyAfter key?

/-- The last operation comes last. -/
theorem keyAfterAll_append (key? : Option String) (ops : List Operation) (op : Operation) :
    keyAfterAll key? (ops ++ [op]) = op.keyAfter (keyAfterAll key? ops) := by
  simp [keyAfterAll]

end Operation

/-- If a connection is open after an operation, it was open before, and the operation alone
decides whether it is subscribed to another key now. -/
theorem Connection.Change.key?_eq {c c' : Connection} {op : Operation} (h : c.Change op c')
    (hopen : c'.state ≠ .closed) :
    c.state ≠ .closed ∧ c'.state.key? = op.keyAfter c.state.key? := by
  cases h with
  | ignored hignored =>
      cases hignored with
      | closed hclosed => exact absurd hclosed hopen
      | foreign => exact ⟨hopen, rfl⟩
      | crowded => exact ⟨hopen, rfl⟩
  | queued => exact ⟨hopen, rfl⟩
  | covered => exact ⟨hopen, rfl⟩
  | overflowed => exact ⟨hopen, rfl⟩
  | truncated => exact ⟨hopen, rfl⟩
  | taken => exact ⟨hopen, rfl⟩
  | refreshed hbefore => exact ⟨hbefore, rfl⟩
  | kept hstate => exact ⟨hopen, by simp [hstate, ConnectionState.key?, Operation.keyAfter]⟩
  | switched hbefore => exact ⟨hbefore, rfl⟩
  | unsubscribed hbefore => exact ⟨hbefore, rfl⟩
  | closed => exact absurd rfl hopen

/-! ## What a delivery loop waits for -/

namespace Session

variable {s t : Session} {moves : List Move} {done : List Undertaking} {key : String}
  {seq : Seq}

/-- How a run came to where its delivery loop waits for a resource: the connection was
subscribed to the key when the loop asked for it, and operations are all that has happened
since. -/
inductive Awaits (s : Session) (moves : List Move) (done : List Undertaking) (t : Session)
    (key : String) (seq : Seq) : Prop where
  | since {before : List Move} {ops : List Operation} {earlier : List Undertaking}
      {asked : Session} (hmoves : moves = before ++ .take :: ops.map .operation)
      (hdone : done = earlier ++ [.fetch key seq]) (hrun : Run s before earlier asked)
      (hstate : asked.connection.state = .subscribed key)
      (howed : asked.connection.queue.resync = some seq)
      (hkey : t.connection.state ≠ .closed →
        t.connection.state.key? = Operation.keyAfterAll (some key) ops)

/-- A loop that takes the next step and then waits for a resource has just asked for it. -/
theorem awaits_take (hrun : Run s moves done t)
    (hfetching : t.take.loop = some (.fetching key seq)) :
    Awaits s (moves ++ [.take]) (done ++ t.take.undertakings) t.take key seq := by
  rcases t.take_handout with ⟨step, c, hhandout, htake⟩
  rw [htake] at hfetching ⊢
  cases hhandout with
  | closed => simp [Step.phase] at hfetching
  | idle => simp [Step.phase] at hfetching
  | frame => simp [Step.phase] at hfetching
  | resync hstate howed =>
      simp only [Step.phase, enter_loop, Option.some.injEq, Phase.fetching.injEq] at hfetching
      rcases hfetching with ⟨hkey, hseq⟩
      subst hkey hseq
      refine @Awaits.since _ _ _ _ _ _ moves [] done t (by simp) rfl hrun hstate howed ?_
      intro _
      simpa [Operation.keyAfterAll] using ConnectionState.key?_eq_some.2 hstate

/-- Operations do not change what the loop waits for. -/
theorem Awaits.operate (h : Awaits s moves done t key seq) (op : Operation) :
    Awaits s (moves ++ [.operation op]) done (t.onConnection fun c => c.operate op)
      key seq := by
  rcases h with @⟨before, ops, earlier, asked, hmoves, hdone, hrun, hstate, howed, hkey⟩
  refine @Awaits.since _ _ _ _ _ _ before (ops ++ [op]) earlier asked (by simp [hmoves]) hdone
    hrun hstate howed ?_
  intro hopen
  rcases (t.connection.operate_change op).key?_eq hopen with ⟨hbefore, hafter⟩
  rw [Operation.keyAfterAll_append, ← hkey hbefore]
  exact hafter

/-- In every run a loop waits for a resource only if it has asked for it and operations are
all that has happened since. -/
theorem Run.awaits (hrun : Run s moves done t) (hidle : s.loop = none)
    (hfetching : t.loop = some (.fetching key seq)) : Awaits s moves done t key seq := by
  induction hrun generalizing key seq with
  | refl => simp [hidle] at hfetching
  | @tail t u _ _ _ _ hrun hmove ih =>
      cases hmove with
      | operation op =>
          rw [List.append_nil]
          exact (ih hfetching).operate op
      | start => simp at hfetching
      | abandon => simp at hfetching
      | take => exact awaits_take hrun hfetching
      | wake _ hsignal =>
          rw [wake_of_signal hsignal] at hfetching
          simp at hfetching
      | @sent dispatch _ outcome =>
          rcases t.sent_cases dispatch outcome with
            ⟨-, -, hsent⟩ | ⟨_, -, -, hsent⟩ | ⟨_, -, hsent⟩ <;>
            simp [hsent] at hfetching
      | @fetched other last _ answer =>
          rcases t.fetched_cases other last answer with
            ⟨_, -, -, hfetched⟩ | ⟨_, -, -, hfetched⟩ | ⟨_, -, hfetched⟩ <;>
            simp [hfetched] at hfetching

/-- A snapshot is sent only when it is what the loop waits for, and the connection is open
then. -/
theorem Moves.awaited_of_snapshot {move : Move} {now : List Undertaking}
    {resource : Json.Value} (h : Moves s move now t)
    (hsend : .send (.snapshot key resource seq) ∈ now) :
    s.loop = some (.fetching key seq) ∧ s.connection.state ≠ .closed ∧
      t.connection = s.connection := by
  cases h with
  | operation => simp at hsend
  | start => simp at hsend
  | abandon => simp at hsend
  | wake => simp at hsend
  | sent => simp at hsend
  | take hready =>
      rcases s.take_handout with ⟨step, c, hhandout, htake⟩
      rw [htake, undertakings_enter] at hsend
      cases hhandout <;> simp [Step.phase, Phase.undertaking?] at hsend
  | @fetched other last hfetching answer =>
      rcases s.fetched_cases other last answer with
        ⟨_, -, hopen, hfetched⟩ | ⟨_, -, -, hfetched⟩ | ⟨_, -, hfetched⟩
      · simp only [hfetched, undertakings_enter, Phase.undertaking?, Option.toList_some,
          List.mem_singleton, Undertaking.send.injEq, Dispatch.snapshot.injEq] at hsend
        rcases hsend with ⟨hkey, -, hseq⟩
        rw [hkey, hseq, hfetched]
        exact ⟨hfetching, hopen, rfl⟩
      · simp [hfetched, Phase.undertaking?] at hsend
      · simp [hfetched, Phase.undertaking?] at hsend

/-- In every run a snapshot that is sent was asked for when the connection was subscribed to
its key and owed it, and operations are all that has happened since.  The connection is open
when the send begins, and it is not subscribed to the key of the snapshot exactly if the last
of these operations to subscribe or unsubscribe, if there is one, chose another key or none. -/
theorem Run.snapshot_misdirected_iff {id n : Nat} {identity : Identity} {move : Move}
    {now : List Undertaking} {resource : Json.Value}
    (hrun : Run (accept id identity n) moves done s) (hmove : Moves s move now t)
    (hsend : .send (.snapshot key resource seq) ∈ now) :
    ∃ before ops earlier asked,
      moves = before ++ .take :: ops.map .operation ∧
      done = earlier ++ [.fetch key seq] ∧
      Run (accept id identity n) before earlier asked ∧
      asked.connection.state = .subscribed key ∧
      asked.connection.queue.resync = some seq ∧
      t.connection.state ≠ .closed ∧
      (t.connection.state ≠ .subscribed key ↔
        Operation.keyAfterAll (some key) ops ≠ some key) := by
  rcases hmove.awaited_of_snapshot hsend with ⟨hfetching, hopen, hsame⟩
  rcases hrun.awaits rfl hfetching with
    @⟨before, ops, earlier, asked, hmoves, hdone, hasked, hstate, howed, hkey⟩
  refine ⟨before, ops, earlier, asked, hmoves, hdone, hasked, hstate, howed, ?_, ?_⟩
  · rwa [hsame]
  · rw [hsame, ← hkey hopen, ne_eq, ne_eq, ConnectionState.key?_eq_some]

/-! ### A snapshot for nobody -/

/-- A session whose client has ended its subscription while the loop waits for a
resource. -/
def unsubscribedWhileFetching : Session :=
  (((accept 1 ⟨"ada", none, [], .empty⟩ 2).onConnection fun c =>
    c.operate (.subscribe "k" (some (.ofNat 5)))).start.take).onConnection fun c =>
    c.operate .unsubscribe

theorem unsubscribedWhileFetching_run :
    Run (accept 1 ⟨"ada", none, [], .empty⟩ 2)
      [.operation (.subscribe "k" (some (.ofNat 5))), .start, .take, .operation .unsubscribe]
      [.fetch "k" (.ofNat 5)] unsubscribedWhileFetching :=
  .tail (.tail (.tail (.tail (.refl _) (.operation _)) (.start (.inl rfl))) (.take rfl))
    (.operation _)

theorem answered_move :
    Moves unsubscribedWhileFetching (.fetched (.ok .null))
      [.send (.snapshot "k" .null (.ofNat 5))]
      (unsubscribedWhileFetching.fetched "k" (.ofNat 5) (.ok .null)) :=
  .fetched rfl _

/-- The snapshot is sent to a connection without a subscription. -/
theorem Run.snapshot_misdirected_of_unsubscribed :
    (unsubscribedWhileFetching.fetched "k" (.ofNat 5) (.ok .null)).connection.state =
        .authenticated ∧
      ∃ before ops earlier asked,
        [.operation (.subscribe "k" (some (.ofNat 5))), .start, .take,
            .operation .unsubscribe] = before ++ .take :: ops.map Move.operation ∧
          [.fetch "k" (.ofNat 5)] = earlier ++ [.fetch "k" (.ofNat 5)] ∧
          Run (accept 1 ⟨"ada", none, [], .empty⟩ 2) before earlier asked ∧
          Operation.keyAfterAll (some "k") ops ≠ some "k" := by
  have hstate : (unsubscribedWhileFetching.fetched "k" (.ofNat 5) (.ok .null)).connection.state =
      .authenticated := rfl
  rcases unsubscribedWhileFetching_run.snapshot_misdirected_iff answered_move
      List.mem_cons_self with
    ⟨before, ops, earlier, asked, hmoves, hdone, hrun, -, -, -, hiff⟩
  exact ⟨hstate, before, ops, earlier, asked, hmoves, hdone, hrun,
    hiff.1 (by rw [hstate]; simp)⟩

/-- The snapshot that is sent need not be the one of the subscription. -/
theorem not_always_subscribed :
    ¬ ∀ (id n : Nat) (identity : Identity) (moves : List Move) (done : List Undertaking)
      (s : Session) (move : Move) (now : List Undertaking) (t : Session) (key : String)
      (resource : Json.Value) (seq : Seq),
      Run (accept id identity n) moves done s → Moves s move now t →
        .send (.snapshot key resource seq) ∈ now → t.connection.state = .subscribed key := by
  intro hfollows
  have hstate := hfollows _ _ _ _ _ _ _ _ _ _ _ _ unsubscribedWhileFetching_run answered_move
    List.mem_cons_self
  exact absurd hstate (by decide)

end Session
end Gatehouse
