import Gatehouse.Proofs.Relay.Moves

/-!
# Events for a subscription are not lost

An event for the key of a subscription is put behind the frames that wait.  As long as the
subscription lasts and nothing fails, it waits its turn, or has been sent in its turn, or a
snapshot stands for it: one that is owed, or one that was asked for after the event came.

Main results:

- Theorem {lit}`Connection.Change.keeps_subscription`: what an operation that keeps a
  subscription does to the queue.
- Theorem {lit}`Session.Run.retains_event`: what becomes of an event for a subscription.
-/

namespace Gatehouse

/-! ## What may happen -/

/-- Whether a move is no failure and keeps a subscription to a key. -/
def Move.Keeps (key : String) : Move → Prop
  | .operation (.subscribe other _) => other = key
  | .operation .unsubscribe => False
  | .operation .close => False
  | .abandon => False
  | .sent (.error _) => False
  | .fetched (.error _) => False
  | _ => True

/-- The frame of the queue that is sent. -/
def Undertaking.frame? : Undertaking → Option Outbound
  | .send (.frame frame) => some frame
  | _ => none

/-- The frames of the queue that are sent, in order. -/
def Undertaking.frames (done : List Undertaking) : List Outbound :=
  done.filterMap Undertaking.frame?

/-- Frames that are sent later come behind. -/
theorem Undertaking.frames_append (done now : List Undertaking) :
    Undertaking.frames (done ++ now) = Undertaking.frames done ++ Undertaking.frames now := by
  simp [Undertaking.frames]

/-- A snapshot that is asked for is owed. -/
theorem Queue.requestResync_resync_ne_none (q : Queue) (seq : Seq) :
    (q.requestResync seq).resync ≠ none := by
  simp [Queue.requestResync]

namespace Connection

variable {c c' : Connection} {key : String}

/-- An operation that keeps a subscription leaves a snapshot owed, or adds frames to the
queue at most. -/
theorem Change.keeps_subscription {op : Operation} (h : c.Change op c')
    (hkeeps : (Move.operation op).Keeps key) (hstate : c.state = .subscribed key) :
    c'.state = .subscribed key ∧
      (c'.queue.resync ≠ none ∨
        c'.queue.resync = c.queue.resync ∧ ∃ more, c'.queue.items = c.queue.items ++ more) := by
  cases h with
  | ignored => exact ⟨hstate, .inr ⟨rfl, [], (List.append_nil _).symm⟩⟩
  | @queued e => exact ⟨hstate, .inr ⟨rfl, [.event e], rfl⟩⟩
  | covered => exact ⟨hstate, .inl (Queue.requestResync_resync_ne_none _ _)⟩
  | overflowed => exact ⟨hstate, .inl (Queue.requestResync_resync_ne_none _ _)⟩
  | truncated hauthenticated => simp [hstate] at hauthenticated
  | @taken m => exact ⟨hstate, .inr ⟨rfl, [.control m], rfl⟩⟩
  | refreshed =>
      have hsame : _ = key := hkeeps
      rw [hsame]
      exact ⟨rfl, .inl (Queue.requestResync_resync_ne_none _ _)⟩
  | kept => exact ⟨hstate, .inr ⟨rfl, [], (List.append_nil _).symm⟩⟩
  | switched _ hother =>
      have hsame : _ = key := hkeeps
      rw [hsame] at hother
      exact absurd hstate hother
  | unsubscribed => exact hkeeps.elim
  | closed => exact hkeeps.elim

/-- An event for the key of a subscription is put behind the frames that wait, or a snapshot
is owed. -/
theorem Change.takes_event {e : Event} (h : c.Change (.event e) c')
    (hstate : c.state = .subscribed key) (hkey : e.key = some key) :
    c'.state = .subscribed key ∧
      (c'.queue.resync ≠ none ∨ c'.queue.items = c.queue.items ++ [.event e]) := by
  have hfor : e.isFor c.state.key? = true :=
    Event.isFor_iff.2 (.inr ⟨key, ConnectionState.key?_eq_some.2 hstate, hkey⟩)
  cases h with
  | ignored hignored =>
      cases hignored with
      | closed hclosed => simp [hstate] at hclosed
      | foreign hforeign =>
          rw [hfor] at hforeign
          contradiction
  | queued => exact ⟨hstate, .inr rfl⟩
  | covered => exact ⟨hstate, .inl (Queue.requestResync_resync_ne_none _ _)⟩
  | overflowed => exact ⟨hstate, .inl (Queue.requestResync_resync_ne_none _ _)⟩
  | truncated hauthenticated => simp [hstate] at hauthenticated

end Connection

/-! ## What becomes of an event -/

/-- Whether a snapshot of a key is asked for and then sent. -/
def Undertaking.Refreshes (key : String) (done : List Undertaking) : Prop :=
  ∃ before seq resource after,
    done = before ++ .fetch key seq :: .send (.snapshot key resource seq) :: after

/-- What is undertaken later does not undo that. -/
theorem Undertaking.Refreshes.append {key : String} {done : List Undertaking}
    (h : Undertaking.Refreshes key done) (now : List Undertaking) :
    Undertaking.Refreshes key (done ++ now) := by
  rcases h with ⟨before, seq, resource, after, hdone⟩
  exact ⟨before, seq, resource, after ++ now, by simp [hdone]⟩

/-- What has become of an event that was put behind some frames, by what the delivery loop
has undertaken since and by what the queue holds. -/
inductive Accounted (ahead : List Outbound) (e : Event) (key : String)
    (done : List Undertaking) (q : Queue) : Prop where
  /-- It waits, and what has been sent and what waits before it are the frames that it was
  put behind. -/
  | waiting {before behind : List Outbound}
      (hahead : Undertaking.frames done ++ before = ahead)
      (hitems : q.items = before ++ .event e :: behind)
  /-- It has been sent after the frames that it was put behind. -/
  | sent {after : List Outbound}
      (hsent : Undertaking.frames done = ahead ++ .event e :: after)
  /-- A snapshot is owed. -/
  | owed {seq : Seq} (howed : q.resync = some seq)
  /-- A snapshot has been asked for since. -/
  | fetched {seq : Seq} (hfetch : .fetch key seq ∈ done)

namespace Session

variable {s t u : Session} {key : String} {ahead : List Outbound} {e : Event}
  {done now : List Undertaking} {move : Move}

/-- What holds from the time when an event for a subscription is put behind some frames: the
frames sent since and those that wait begin with these frames and the event, unless a
snapshot stands for it; and what has been asked for since is being waited for or has been
sent. -/
structure Retains (key : String) (ahead : List Outbound) (e : Event) (t : Session)
    (done : List Undertaking) : Prop where
  subscribed : t.connection.state = .subscribed key
  lined : t.connection.queue.resync ≠ none ∨ (∃ seq, .fetch key seq ∈ done) ∨
    ∃ behind, Undertaking.frames done ++ t.connection.queue.items =
      ahead ++ .event e :: behind
  answered : (∃ seq, .fetch key seq ∈ done) → Undertaking.Refreshes key done ∨
    ∃ before seq, t.loop = some (.fetching key seq) ∧ done = before ++ [.fetch key seq]

/-- It holds when the event is put there. -/
theorem retains_offered (hstate : s.connection.state = .subscribed key)
    (hkey : e.key = some key) :
    Retains key s.connection.queue.items e
      (s.onConnection fun c => c.operate (.event e)) [] := by
  have hchange := s.connection.operate_change (.event e)
  rcases hchange.takes_event hstate hkey with ⟨hstill, howed | hitems⟩
  · exact ⟨hstill, .inl howed, by simp⟩
  · refine ⟨hstill, .inr (.inr ⟨[], ?_⟩), by simp⟩
    simpa [Undertaking.frames] using hitems

/-- As long as nothing is undertaken and the queue only grows, it goes on to hold. -/
theorem Retains.quiet (h : Retains key ahead e t done)
    (hstate : u.connection.state = .subscribed key)
    (hqueue : u.connection.queue.resync ≠ none ∨
      u.connection.queue.resync = t.connection.queue.resync ∧
        ∃ more, u.connection.queue.items = t.connection.queue.items ++ more)
    (hloop : ∀ seq, t.loop = some (.fetching key seq) → u.loop = some (.fetching key seq)) :
    Retains key ahead e u done where
  subscribed := hstate
  lined := by
    rcases hqueue with howed | ⟨hsame, more, hmore⟩
    · exact .inl howed
    · rcases h.lined with howed | hfetch | ⟨behind, hline⟩
      · exact .inl (hsame ▸ howed)
      · exact .inr (.inl hfetch)
      · refine .inr (.inr ⟨behind ++ more, ?_⟩)
        rw [hmore, ← List.append_assoc, hline]
        simp
  answered := by
    intro hfetch
    rcases h.answered hfetch with hsent | ⟨before, seq, hwaits, hdone⟩
    · exact .inl hsent
    · exact .inr ⟨before, seq, hloop seq hwaits, hdone⟩

/-- It goes on to hold when the loop takes the next step. -/
theorem Retains.handout (h : Retains key ahead e t done) (hready : t.loop = some .ready)
    {step : Step} {c : Connection} (hstep : t.connection.Handout step c) :
    Retains key ahead e (t.enter c step.phase)
      (done ++ step.phase.undertaking?.toList) := by
  have hnowait : ∀ seq, t.loop ≠ some (.fetching key seq) := by simp [hready]
  cases hstep with
  | closed hclosed =>
      have hstate := h.subscribed
      rw [hclosed] at hstate
      contradiction
  | idle _ hclear =>
      have hnone : t.connection.queue.resync = none := hclear key h.subscribed
      simp only [Step.phase, Phase.undertaking?, Option.toList_none, List.append_nil]
      refine h.quiet h.subscribed (.inr ⟨hnone.symm, [], by simp⟩) ?_
      intro seq hwaits
      exact absurd hwaits (hnowait seq)
  | @resync other seq hstate =>
      have hsame : other = key := by
        have hsubscribed := h.subscribed
        rw [hstate] at hsubscribed
        simpa using hsubscribed
      subst hsame
      exact ⟨hstate, .inr (.inl ⟨seq, by simp [Step.phase, Phase.undertaking?]⟩),
        fun _ => .inr ⟨done, seq, rfl, rfl⟩⟩
  | @frame frame rest _ hclear hfirst =>
      have hnone : t.connection.queue.resync = none := hclear key h.subscribed
      simp only [Step.phase, Phase.undertaking?, Option.toList_some]
      refine ⟨h.subscribed, .inr ?_, ?_⟩
      · rcases h.lined with howed | ⟨seq, hfetch⟩ | ⟨behind, hline⟩
        · exact absurd hnone howed
        · exact .inl ⟨seq, List.mem_append_left _ hfetch⟩
        · refine .inr ⟨behind, ?_⟩
          rw [← hline, hfirst, Undertaking.frames_append]
          simp [Undertaking.frames, Undertaking.frame?]
      · rintro ⟨seq, hfetch⟩
        have hbefore : Undertaking.fetch key seq ∈ done := by simpa using hfetch
        rcases h.answered ⟨seq, hbefore⟩ with hsent | ⟨_, seq, hwaits, -⟩
        · exact .inl (hsent.append _)
        · exact absurd hwaits (hnowait seq)

/-- It goes on to hold when a snapshot that was asked for is sent. -/
theorem Retains.snapshot (h : Retains key ahead e t done) {other : String} {seq : Seq}
    (hfetching : t.loop = some (.fetching other seq)) (resource : Json.Value) :
    Retains key ahead e (t.enter t.connection (.sending (.snapshot other resource seq)))
      (done ++ [.send (.snapshot other resource seq)]) where
  subscribed := h.subscribed
  lined := by
    rcases h.lined with howed | ⟨asked, hfetch⟩ | ⟨behind, hline⟩
    · exact .inl howed
    · exact .inr (.inl ⟨asked, List.mem_append_left _ hfetch⟩)
    · refine .inr (.inr ⟨behind, ?_⟩)
      rw [← hline, Undertaking.frames_append]
      simp [Undertaking.frames, Undertaking.frame?]
  answered := by
    rintro ⟨asked, hfetch⟩
    have hbefore : Undertaking.fetch key asked ∈ done := by simpa using hfetch
    rcases h.answered ⟨asked, hbefore⟩ with hsent | ⟨before, last, hwaits, hdone⟩
    · exact .inl (hsent.append _)
    · rw [hfetching, Option.some.injEq, Phase.fetching.injEq] at hwaits
      rcases hwaits with ⟨hkey, hseq⟩
      subst hkey hseq
      exact .inl ⟨before, seq, resource, [], by simp [hdone]⟩

/-- It goes on to hold with every move that is no failure and keeps the subscription. -/
theorem Retains.after (h : Retains key ahead e t done) (hmove : Moves t move now u)
    (hkeeps : move.Keeps key) : Retains key ahead e u (done ++ now) := by
  have hsame : t.connection.queue.resync = t.connection.queue.resync ∧
      ∃ more, t.connection.queue.items = t.connection.queue.items ++ more :=
    ⟨rfl, [], (List.append_nil _).symm⟩
  cases hmove with
  | operation op =>
      rcases (t.connection.operate_change op).keeps_subscription hkeeps h.subscribed with
        ⟨hstate, hqueue⟩
      rw [List.append_nil]
      exact h.quiet hstate hqueue fun _ hwaits => hwaits
  | start hrest =>
      rw [List.append_nil]
      refine h.quiet h.subscribed (.inr hsame) ?_
      intro seq hwaits
      rcases hrest with hnone | ⟨result, hended⟩
      · simp [hnone] at hwaits
      · simp [hended] at hwaits
  | abandon => exact hkeeps.elim
  | take hready =>
      rcases t.take_handout with ⟨step, c, hhandout, htake⟩
      rw [htake, undertakings_enter]
      exact h.handout hready hhandout
  | wake hparked hsignal =>
      rw [wake_of_signal hsignal, List.append_nil]
      refine h.quiet h.subscribed (.inr hsame) ?_
      intro seq hwaits
      simp [hparked] at hwaits
  | @sent dispatch hsending outcome =>
      rw [List.append_nil]
      rcases t.sent_cases dispatch outcome with
        ⟨-, -, hsent⟩ | ⟨reason, rfl, -, -⟩ | ⟨_, -, hsent⟩
      · rw [hsent]
        refine h.quiet h.subscribed (.inr hsame) ?_
        intro seq hwaits
        simp [hsending] at hwaits
      · exact hkeeps.elim
      · rw [hsent]
        refine h.quiet h.subscribed (.inr hsame) ?_
        intro seq hwaits
        simp [hsending] at hwaits
  | @fetched other seq hfetching answer =>
      rcases t.fetched_cases other seq answer with
        ⟨resource, -, -, hfetched⟩ | ⟨_, -, hclosed, -⟩ | ⟨fault, rfl, -⟩
      · rw [hfetched, undertakings_enter]
        exact h.snapshot hfetching resource
      · have hstate := h.subscribed
        rw [hclosed] at hstate
        contradiction
      · exact hkeeps.elim

/-- It holds in every run in which the subscription is kept and nothing fails. -/
theorem Run.retains {moves : List Move} (hrun : Run s moves now t)
    (hs : Retains key ahead e s []) (hkeeps : ∀ move ∈ moves, move.Keeps key) :
    Retains key ahead e t now := by
  induction hrun with
  | refl => exact hs
  | tail _ hmove ih =>
      have hbefore := ih fun move hmem => hkeeps move (List.mem_append_left _ hmem)
      exact hbefore.after hmove (hkeeps _ (List.mem_append_right _ List.mem_cons_self))

/-- An event that is lined up waits its turn or has been sent in its turn. -/
theorem accounted_of_lined {q : Queue} {behind : List Outbound}
    (hline : Undertaking.frames done ++ q.items = ahead ++ .event e :: behind) :
    (∃ before, Undertaking.frames done ++ before = ahead ∧
        q.items = before ++ .event e :: behind) ∨
      ∃ after, Undertaking.frames done = ahead ++ .event e :: after := by
  rcases List.append_eq_append_iff.1 hline with ⟨before, hahead, hitems⟩ | ⟨after, hsent, hrest⟩
  · exact .inl ⟨before, hahead.symm, hitems⟩
  · cases after with
    | nil => exact .inl ⟨[], by simpa using hsent, by simpa using hrest.symm⟩
    | cons first after =>
        rw [List.cons_append, List.cons.injEq] at hrest
        exact .inr ⟨after, by rw [hsent, ← hrest.1]⟩

/-- From the time when an event for the key of a subscription is offered, as long as the
subscription is kept and nothing fails, the event waits its turn, or has been sent in its
turn, or a snapshot is owed, or a snapshot has been asked for since.  When the delivery loop
finds nothing to do, the event has been sent in its turn or a snapshot that was asked for
since has been sent. -/
theorem Run.retains_event {moves : List Move} (hstate : s.connection.state = .subscribed key)
    (hkey : e.key = some key)
    (hrun : Run (s.onConnection fun c => c.operate (.event e)) moves done t)
    (hkeeps : ∀ move ∈ moves, move.Keeps key) :
    Accounted s.connection.queue.items e key done t.connection.queue ∧
      (t.loop = some .ready → t.connection.nextStep.1 = .idle →
        (∃ after, Undertaking.frames done =
          s.connection.queue.items ++ .event e :: after) ∨
        Undertaking.Refreshes key done) := by
  have hretains := hrun.retains (retains_offered hstate hkey) hkeeps
  constructor
  · rcases hretains.lined with howed | ⟨seq, hfetch⟩ | ⟨behind, hline⟩
    · rcases Option.ne_none_iff_exists'.1 howed with ⟨seq, howed⟩
      exact .owed howed
    · exact .fetched hfetch
    · rcases accounted_of_lined hline with ⟨before, hahead, hitems⟩ | ⟨after, hsent⟩
      · exact .waiting hahead hitems
      · exact .sent hsent
  · intro hready hidle
    have hhandout := t.connection.nextStep_handout
    rw [hidle] at hhandout
    generalize t.connection.nextStep.2 = left at hhandout
    cases hhandout with
    | idle _ hclear hempty =>
        rcases hretains.lined with howed | hfetch | ⟨behind, hline⟩
        · exact absurd (hclear key hretains.subscribed) howed
        · rcases hretains.answered hfetch with hsent | ⟨_, _, hwaits, -⟩
          · exact .inr hsent
          · simp [hready] at hwaits
        · rw [hempty, List.append_nil] at hline
          exact .inl ⟨behind, hline⟩

/-! ### An event that finds no room -/

/-- A session with room for one frame, at which an event for its subscription waits. -/
def crowded : Session :=
  ((accept 1 ⟨"ada", none, [], .empty⟩ 1).onConnection fun c =>
    c.operate (.subscribe "k" none)).onConnection fun c =>
    c.operate (.event (.forKey "update" "k" (.ofNat 1) default))

/-- The same session when another event has come and its loop has sent all that it had to. -/
def refreshed : Session :=
  (((crowded.onConnection fun c => c.operate (.event
    (.forKey "update" "k" (.ofNat 2) default))).start.take).fetched "k" (.ofNat 2)
      (.ok .null)).sent (.snapshot "k" .null (.ofNat 2)) (.ok ())

theorem refreshed_run :
    Run (crowded.onConnection fun c => c.operate (.event
        (.forKey "update" "k" (.ofNat 2) default)))
      [.start, .take, .fetched (.ok .null), .sent (.ok ())]
      [.fetch "k" (.ofNat 2), .send (.snapshot "k" .null (.ofNat 2))] refreshed :=
  .tail (.tail (.tail (.tail (.refl _) (.start (.inl rfl))) (.take rfl)) (.fetched rfl _))
    (.sent rfl _)

/-- A snapshot stands for the event that found no room. -/
theorem Run.retains_event_of_crowded :
    crowded.connection.state = .subscribed "k" ∧ refreshed.loop = some .ready ∧
      refreshed.connection.nextStep.1 = .idle ∧
      ((∃ after, Undertaking.frames
          [.fetch "k" (.ofNat 2), .send (.snapshot "k" .null (.ofNat 2))] =
          crowded.connection.queue.items ++
            .event (.forKey "update" "k" (.ofNat 2) default) :: after) ∨
        Undertaking.Refreshes "k"
          [.fetch "k" (.ofNat 2), .send (.snapshot "k" .null (.ofNat 2))]) := by
  have hkeeps : ∀ move ∈ ([.start, .take, .fetched (.ok .null), .sent (.ok ())] : List Move),
      move.Keeps "k" := by
    simp [Move.Keeps]
  have hstate : crowded.connection.state = .subscribed "k" := rfl
  have hretains := Run.retains_event hstate rfl refreshed_run hkeeps
  exact ⟨hstate, rfl, rfl, hretains.2 rfl rfl⟩

end Session
end Gatehouse
