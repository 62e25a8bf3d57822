import Gatehouse.Proofs.Relay.Agreement

/-!
# Calls that wake a delivery loop

A delivery loop that finds nothing to do goes to sleep until it is called.  One call is kept:
it wakes the loop that sleeps, or the loop that goes to sleep later, and further calls add
nothing.  An operation leaves no call if it passes the connection by, or if it ends the
subscription, which gives the loop nothing to do.  So no call is missing when there is
something to do, whatever calls have been heard in vain before.

To wake is a move of its own, which may follow a call at once or after other moves: a run in
which every call wakes the sleeping loop at once is one of the runs here.

Main results:

- Theorem {lit}`Connection.Change.uncalled`: which operations leave no call.
- Theorem {lit}`Session.Run.sleeps_idle`: a delivery loop that sleeps uncalled has nothing to
  do, and one that has something to do wakes and does it.
-/

namespace Gatehouse

namespace Connection

/-- Whether nothing is to be done for an open connection: no frame waits and no snapshot is
owed. -/
def IsIdle (c : Connection) : Prop :=
  c.state ≠ .closed ∧ c.queue.items = [] ∧ c.queue.resync = none

variable {c c' : Connection} {op : Operation}

/-- An operation that leaves no call passes the connection by or ends its subscription. -/
theorem Change.uncalled (h : c.Change op c') (hsignal : c'.signal = false) :
    c' = c ∨
      c.state ≠ .closed ∧
        c' = { c with state := .authenticated, queue := c.queue.dropKeyed } := by
  cases h with
  | ignored => exact .inl rfl
  | unsubscribed hopen => exact .inr ⟨hopen, rfl⟩
  | _ => simp [notify] at hsignal

/-- An operation that leaves no call was not preceded by one that is still kept, and gives an
idle connection nothing to do. -/
theorem Change.isIdle (h : c.Change op c') (hsignal : c'.signal = false) :
    c.signal = false ∧ (c.IsIdle → c'.IsIdle) := by
  rcases h.uncalled hsignal with rfl | ⟨-, rfl⟩
  · exact ⟨hsignal, fun hidle => hidle⟩
  · refine ⟨hsignal, fun hidle => ⟨by simp, ?_, rfl⟩⟩
    simp [hidle.2.1]

/-- If a step finds nothing to do for a connection whose queue agrees with its subscription,
the connection is idle. -/
theorem Agrees.isIdle (h : c.Agrees) (hhandout : c.Handout .idle c') : c.IsIdle := by
  cases hhandout with
  | idle hopen hclear hempty =>
      refine ⟨hopen, hempty, ?_⟩
      rcases c.open_cases hopen with hstate | ⟨key, hstate⟩
      · exact h.resync_eq_none hstate
      · exact hclear key hstate

end Connection

namespace Session

/-- Whether the delivery loop of a session sleeps only if it has been called or has nothing to
do. -/
def Attentive (s : Session) : Prop :=
  s.loop = some .parked → s.connection.signal = false → s.connection.IsIdle

/-- A loop that does not sleep is attentive. -/
theorem attentive_of_loop {s : Session} (h : s.loop ≠ some .parked) : s.Attentive :=
  fun hparked => absurd hparked h

variable {s t : Session} {move : Move} {now : List Undertaking}

/-- A loop that goes to sleep has found nothing to do. -/
theorem attentive_take (s : Session) : s.take.Attentive := by
  rcases s.take_handout with ⟨step, c, hhandout, htake⟩
  rw [htake]
  cases hhandout with
  | idle hopen _ hempty => exact fun _ _ => ⟨hopen, hempty, rfl⟩
  | _ => exact attentive_of_loop (by simp [Step.phase])

/-- Every move keeps the loop attentive. -/
theorem Moves.attentive (h : Moves s move now t) (hs : s.Attentive) : t.Attentive := by
  cases h with
  | operation op =>
      intro hparked hsignal
      have hchange := s.connection.operate_change op
      rcases hchange.isIdle hsignal with ⟨huncalled, hstays⟩
      exact hstays (hs hparked huncalled)
  | start => exact attentive_of_loop (by simp)
  | abandon => exact attentive_of_loop (by simp)
  | take => exact s.attentive_take
  | wake _ hsignal =>
      rw [wake_of_signal hsignal]
      exact attentive_of_loop (by simp)
  | @sent dispatch _ outcome =>
      rcases s.sent_cases dispatch outcome with
        ⟨-, -, hsent⟩ | ⟨_, -, -, hsent⟩ | ⟨_, -, hsent⟩ <;>
        rw [hsent] <;> exact attentive_of_loop (by simp)
  | @fetched key seq _ answer =>
      rcases s.fetched_cases key seq answer with
        ⟨_, -, -, hfetched⟩ | ⟨_, -, -, hfetched⟩ | ⟨_, -, hfetched⟩ <;>
        rw [hfetched] <;> exact attentive_of_loop (by simp)

/-- In every run the loop is attentive. -/
theorem Run.attentive {id n : Nat} {identity : Identity} {moves : List Move}
    {done : List Undertaking} (hrun : Run (accept id identity n) moves done s) : s.Attentive :=
  hrun.invariant (fun hmove => hmove.attentive) (attentive_of_loop (by simp [accept]))

/-- In every run a delivery loop that sleeps and for which no call is kept belongs to an open
connection at which no frame waits and which is owed no snapshot: the next step would find
nothing to do.  If anything is to be done while the loop sleeps, it can wake, and then takes a
step after which it does not sleep. -/
theorem Run.sleeps_idle {id n : Nat} {identity : Identity} {moves : List Move}
    {done : List Undertaking} (hrun : Run (accept id identity n) moves done s)
    (hparked : s.loop = some .parked) :
    (s.connection.signal = false →
      s.connection.state ≠ .closed ∧ s.connection.queue.items = [] ∧
        s.connection.queue.resync = none ∧ s.connection.nextStep = (.idle, s.connection)) ∧
    (¬ s.connection.IsIdle →
      Moves s .wake [] s.wake ∧ Moves s.wake .take s.wake.take.undertakings s.wake.take ∧
        s.wake.take.loop ≠ some .parked) := by
  constructor
  · intro hsignal
    rcases hrun.attentive hparked hsignal with ⟨hopen, hempty, hclear⟩
    refine ⟨hopen, hempty, hclear, ?_⟩
    have hqueue : ({ s.connection.queue with resync := none } : Queue) = s.connection.queue := by
      rw [← hclear]
    have hpop : s.connection.queue.pop = none := by simp [Queue.pop, hempty, hclear]
    rw [Connection.nextStep_eq_nextFrame hopen fun _ _ => hclear]
    simp only [Connection.nextFrame, hqueue, hpop]
  · intro hbusy
    have hsignal : s.connection.signal = true := by
      cases hcall : s.connection.signal with
      | true => rfl
      | false => exact absurd (hrun.attentive hparked hcall) hbusy
    have hwake := wake_of_signal hsignal
    refine ⟨.wake hparked hsignal, .take (by rw [hwake]; rfl), ?_⟩
    -- A step that finds nothing to do would show that there was nothing to do before.
    have hagrees : s.wake.connection.Agrees :=
      (hrun.tail (.wake hparked hsignal)).reaches.agrees (Connection.agrees_accept id identity n)
    rcases s.wake.take_handout with ⟨step, c, hhandout, htake⟩
    rw [htake]
    cases step with
    | idle =>
        have hidle := hagrees.isIdle hhandout
        rw [hwake] at hidle
        exact absurd hidle hbusy
    | _ => simp [Step.phase]

/-! ### A loop that is woken in vain -/

/-- A session whose client has subscribed and has been offered an event, when its loop sends
the event. -/
def delivering : Session :=
  ((accept 1 ⟨"ada", none, [], .empty⟩ 2).onConnection fun c =>
    (c.operate (.subscribe "k" none)).operate
      (.event (.forKey "changed" "k" (.ofNat 6) default))).start.take

/-- The same session when its loop has been woken in vain by the call of the event that it has
sent, sleeps again, and the client has ended its subscription. -/
def dozing : Session :=
  ((delivering.sent (.frame (.event (.forKey "changed" "k" (.ofNat 6) default)))
    (.ok ())).take.wake.take).onConnection fun c => c.operate .unsubscribe

theorem delivering_run :
    Run (accept 1 ⟨"ada", none, [], .empty⟩ 2)
      [.operation (.subscribe "k" none),
        .operation (.event (.forKey "changed" "k" (.ofNat 6) default)), .start, .take]
      [.send (.frame (.event (.forKey "changed" "k" (.ofNat 6) default)))] delivering :=
  .tail (.tail (.tail (.tail (.refl _) (.operation _)) (.operation _)) (.start (.inl rfl)))
    (.take rfl)

theorem dozing_run :
    Run delivering [.sent (.ok ()), .take, .wake, .take, .operation .unsubscribe] [] dozing := by
  have hsent : Run delivering [.sent (.ok ())] [] _ := .tail (.refl _) (.sent rfl (.ok ()))
  have hasleep : Run delivering [.sent (.ok ()), .take] [] _ := hsent.tail (.take rfl)
  have hwoken : Run delivering [.sent (.ok ()), .take, .wake] [] _ := hasleep.tail (.wake rfl rfl)
  exact (hwoken.tail (.take rfl)).tail (.operation .unsubscribe)

/-- The loop sleeps uncalled and has nothing to do; the next event calls it. -/
theorem Run.sleeps_idle_of_dozing :
    dozing.loop = some .parked ∧ dozing.connection.signal = false ∧
      dozing.connection.state ≠ .closed ∧ dozing.connection.queue.items = [] ∧
      dozing.connection.queue.resync = none ∧
      (dozing.onConnection fun c =>
        c.operate (.event (.broadcast "notice" (.ofNat 7) default))).wake.take.loop ≠
          some .parked := by
  have hrun := delivering_run.trans dozing_run
  rcases hrun.sleeps_idle rfl with ⟨huncalled, -⟩
  rcases huncalled rfl with ⟨hopen, hempty, hclear, -⟩
  rcases (hrun.tail (.operation (.event (.broadcast "notice" (.ofNat 7) default)))).sleeps_idle
    rfl with ⟨-, hcalled⟩
  have hqueued : (dozing.connection.operate
      (.event (.broadcast "notice" (.ofNat 7) default))).queue.items.length = 1 := rfl
  refine ⟨rfl, rfl, hopen, hempty, hclear, (hcalled ?_).2.2⟩
  intro hidle
  have hnone : (dozing.connection.operate
      (.event (.broadcast "notice" (.ofNat 7) default))).queue.items = [] := hidle.2.1
  rw [hnone] at hqueued
  contradiction

end Session
end Gatehouse
