import Gatehouse.Proofs.Relay.Moves

/-!
# After the end of a connection

A connection that is closed stays closed, and its delivery loop ends at the next step.  A
send that was under way may still be over, and a fetch that was under way may still be
answered: if it fails, the loop sends the notice of it before it ends.

Main results:

- Theorem {lit}`Session.Run.undertakes_after_close`: after a connection is closed the notice
  of a fetch that fails is all that its loop sends.
-/

namespace Gatehouse

namespace Connection

variable {c c' : Connection}

/-- No operation opens a closed connection. -/
theorem Change.closed_of_closed {op : Operation} (h : c.Change op c')
    (hclosed : c.state = .closed) : c'.state = .closed := by
  cases h with
  | ignored => exact hclosed
  | queued hopen => exact absurd hclosed hopen
  | covered hstate => simp [hclosed] at hstate
  | overflowed hstate => simp [hclosed] at hstate
  | truncated hstate => simp [hclosed] at hstate
  | taken hopen => exact absurd hclosed hopen
  | refreshed hopen => exact absurd hclosed hopen
  | kept hstate => simp [hclosed] at hstate
  | switched hopen => exact absurd hclosed hopen
  | unsubscribed hopen => exact absurd hclosed hopen
  | closed => rfl

end Connection

/-- Why the fetch that a move answers failed. -/
def Move.fault? : Move → Option SnapshotFault
  | .fetched (.error fault) => some fault
  | _ => none

/-- The notices of the fetches that fail in some moves. -/
def Move.notices (moves : List Move) : List Undertaking :=
  (moves.filterMap Move.fault?).map fun fault => .send (.notice fault)

/-- Notices add up. -/
theorem Move.notices_append (moves : List Move) (move : Move) :
    Move.notices (moves ++ [move]) = Move.notices moves ++ Move.notices [move] := by
  simp [Move.notices]

/-- A notice is sent exactly for a fetch that fails. -/
theorem Move.exists_send_mem_notices {moves : List Move} :
    (∃ dispatch, .send dispatch ∈ Move.notices moves) ↔
      ∃ fault, Move.fetched (.error fault) ∈ moves := by
  have hfault : ∀ {move : Move} {fault : SnapshotFault},
      move.fault? = some fault ↔ move = .fetched (.error fault) := by
    intro move fault
    unfold Move.fault?
    split <;> simp_all
  constructor
  · rintro ⟨dispatch, hmem⟩
    simp only [Move.notices, List.mem_map, List.mem_filterMap] at hmem
    rcases hmem with ⟨fault, ⟨move, hmove, hfails⟩, -⟩
    exact ⟨fault, hfault.1 hfails ▸ hmove⟩
  · rintro ⟨fault, hmove⟩
    refine ⟨.notice fault, ?_⟩
    simp only [Move.notices, List.mem_map, List.mem_filterMap]
    exact ⟨fault, ⟨_, hmove, rfl⟩, rfl⟩

namespace Session

variable {s t u : Session} {moves : List Move} {done : List Undertaking}

/-- Whether a session waits for the resource of a key. -/
def IsFetching (s : Session) : Prop :=
  ∃ key seq, s.loop = some (.fetching key seq)

/-- What holds of some moves of a session whose connection was closed before them: notices
are all that is sent, and no fetch begins.  So the loop waits for a fetch at the end only if
it did at the beginning and nothing has been sent, and a notice is for the fetch that was
under way at the beginning. -/
structure Hushed (s : Session) (moves : List Move) (done : List Undertaking) (t : Session) :
    Prop where
  closed : t.connection.state = .closed
  notices : done = Move.notices moves
  once : (Move.notices moves).length ≤ 1
  waiting : t.IsFetching → s.IsFetching ∧ Move.notices moves = []
  origin : Move.notices moves ≠ [] → s.IsFetching

/-- It holds when nothing is sent and the loop waits for no fetch. -/
theorem hushed_of_silent (hclosed : t.connection.state = .closed)
    (hsilent : Move.notices moves = []) (hrest : ¬ t.IsFetching) :
    Hushed s moves [] t where
  closed := hclosed
  notices := hsilent.symm
  once := by simp [hsilent]
  waiting := fun hfetching => absurd hfetching hrest
  origin := fun hsome => absurd hsilent hsome

/-- It holds of each move. -/
theorem Moves.hushed {move : Move} {now : List Undertaking} (h : Moves s move now t)
    (hclosed : s.connection.state = .closed) : Hushed s [move] now t := by
  cases h with
  | operation op =>
      have hstill := (s.connection.operate_change op).closed_of_closed hclosed
      exact ⟨hstill, rfl, Nat.zero_le _, fun hfetching => ⟨hfetching, rfl⟩, fun h => absurd rfl h⟩
  | start => exact hushed_of_silent hclosed rfl (by simp [IsFetching])
  | abandon => exact hushed_of_silent hclosed rfl (by simp [IsFetching])
  | take hready =>
      rw [take_closed hclosed]
      exact hushed_of_silent hclosed rfl (by simp [IsFetching])
  | wake _ hsignal =>
      rw [wake_of_signal hsignal]
      exact hushed_of_silent hclosed rfl (by simp [IsFetching])
  | @sent dispatch hsending outcome =>
      rcases s.sent_cases dispatch outcome with
        ⟨-, -, hsent⟩ | ⟨_, -, -, hsent⟩ | ⟨_, -, hsent⟩ <;>
        rw [hsent] <;>
        exact hushed_of_silent hclosed rfl (by simp [IsFetching])
  | @fetched key seq hfetching answer =>
      rcases s.fetched_cases key seq answer with
        ⟨_, -, hopen, -⟩ | ⟨resource, rfl, -, hfetched⟩ | ⟨fault, rfl, hfetched⟩
      · exact absurd hclosed hopen
      · rw [hfetched]
        exact hushed_of_silent hclosed rfl (by simp [IsFetching])
      · rw [hfetched]
        exact ⟨hclosed, rfl, Nat.le_refl _, by simp [IsFetching], fun _ => ⟨key, seq, hfetching⟩⟩

/-- It holds of moves and one more if it holds of both. -/
theorem Hushed.snoc {move : Move} {now : List Undertaking} (hmoves : Hushed s moves done t)
    (hmove : Hushed t [move] now u) : Hushed s (moves ++ [move]) (done ++ now) u where
  closed := hmove.closed
  notices := by rw [Move.notices_append, hmoves.notices, hmove.notices]
  once := by
    rw [Move.notices_append]
    by_cases hnone : Move.notices [move] = []
    · rw [hnone, List.append_nil]
      exact hmoves.once
    · rw [(hmoves.waiting (hmove.origin hnone)).2, List.nil_append]
      exact hmove.once
  waiting := by
    intro hfetching
    rcases hmove.waiting hfetching with ⟨hbetween, hnone⟩
    rcases hmoves.waiting hbetween with ⟨hfirst, hbefore⟩
    exact ⟨hfirst, by rw [Move.notices_append, hbefore, hnone, List.append_nil]⟩
  origin := by
    intro hsome
    by_cases hbefore : Move.notices moves = []
    · rw [Move.notices_append, hbefore, List.nil_append] at hsome
      exact (hmoves.waiting (hmove.origin hsome)).1
    · exact hmoves.origin hbefore

/-- It holds of every run. -/
theorem Run.hushed (hrun : Run s moves done t) (hclosed : s.connection.state = .closed) :
    Hushed s moves done t := by
  induction hrun with
  | refl =>
      exact ⟨hclosed, rfl, Nat.zero_le _, fun hfetching => ⟨hfetching, rfl⟩, fun h => absurd rfl h⟩
  | tail _ hmove ih => exact ih.snoc (hmove.hushed ih.closed)

/-- From the time when a connection is closed its delivery loop begins no fetch and sends
nothing but the notice of a fetch that fails, once at most; it sends one exactly if it was
waiting for a fetch when the connection was closed and the fetch then failed. -/
theorem Run.undertakes_after_close (hrun : Run s moves done t)
    (hclosed : s.connection.state = .closed) :
    t.connection.state = .closed ∧ done = Move.notices moves ∧ done.length ≤ 1 ∧
      ((∃ dispatch, .send dispatch ∈ done) ↔
        s.IsFetching ∧ ∃ fault, .fetched (.error fault) ∈ moves) := by
  have hhushed := hrun.hushed hclosed
  have hdone : done = Move.notices moves := hhushed.notices
  refine ⟨hhushed.closed, hdone, hdone ▸ hhushed.once, ?_⟩
  rw [hdone]
  constructor
  · rintro ⟨dispatch, hmem⟩
    exact ⟨hhushed.origin (List.ne_nil_of_mem hmem),
      Move.exists_send_mem_notices.1 ⟨dispatch, hmem⟩⟩
  · rintro ⟨-, hfails⟩
    exact Move.exists_send_mem_notices.2 hfails

/-! ### A notice after the end -/

/-- A session that is closed while its loop waits for a fetch. -/
def closedWhileFetching : Session :=
  (((accept 1 ⟨"ada", none, [], .empty⟩ 2).onConnection fun c =>
    c.operate (.subscribe "k" (some (.ofNat 5)))).start.take).onConnection fun c =>
    c.operate .close

theorem closedWhileFetching_run :
    Run (accept 1 ⟨"ada", none, [], .empty⟩ 2)
      [.operation (.subscribe "k" (some (.ofNat 5))), .start, .take, .operation .close]
      [.fetch "k" (.ofNat 5)] closedWhileFetching :=
  .tail (.tail (.tail (.tail (.refl _) (.operation _)) (.start (.inl rfl))) (.take rfl))
    (.operation _)

theorem failed_fetch_run :
    Run closedWhileFetching [.fetched (.error (.status "k" 500))]
      [.send (.notice (.status "k" 500))]
      (closedWhileFetching.fetched "k" (.ofNat 5) (.error (.status "k" 500))) :=
  .tail (.refl _) (.fetched rfl _)

/-- A fetch that fails after the end. -/
theorem Run.undertakes_after_close_of_failed_fetch :
    closedWhileFetching.connection.state = .closed ∧
      ((∃ dispatch, Undertaking.send dispatch ∈ [.send (.notice (.status "k" 500))]) ↔
        closedWhileFetching.IsFetching ∧
          ∃ fault, Move.fetched (.error fault) ∈ [.fetched (.error (.status "k" 500))]) :=
  ⟨rfl, (failed_fetch_run.undertakes_after_close rfl).2.2.2⟩

/-- A loop can begin a send although the connection has been closed. -/
theorem not_silent_after_close :
    ¬ ∀ (id n : Nat) (identity : Identity) (before moves : List Move)
      (earlier done : List Undertaking) (s t : Session),
      Run (accept id identity n) before earlier s → s.connection.state = .closed →
        Run s moves done t → ∀ dispatch, .send dispatch ∉ done := by
  intro hsilent
  exact hsilent _ _ _ _ _ _ _ _ _ closedWhileFetching_run rfl failed_fetch_run
    (.notice (.status "k" 500)) List.mem_cons_self

end Session
end Gatehouse
