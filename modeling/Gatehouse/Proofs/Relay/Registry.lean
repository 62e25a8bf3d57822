import Gatehouse.Proofs.Relay.Closing
import Gatehouse.Proofs.Relay.Happenings

/-!
# The registry and the life of connections

A connection is registered when it is made and until it is closed: by its id, because its
client is gone, or because its delivery loop is over.  What is registered and what is open are
kept in two places, and every way to close a connection changes both.

Main results:

- Theorem {lit}`Happening.liveAfter_eq_true_iff`: registered are those that were made and not
  closed since.
- Theorem {lit}`Hub.Run.closed_iff`: closed are the connections that are not registered.
- Theorem {lit}`Session.Run.queue_of_closed`: what may still change at a closed connection.
- Theorem {lit}`Hub.Run.registry_agrees`: the registry and the life of connections agree.
-/

namespace Gatehouse

/-! ## What has happened to a connection -/

namespace Happening

/-- The id whose connection is closed, if it is registered. -/
def closed? : Happening → Option Nat
  | close id | hangUp id | reap id => some id
  | _ => none

/-- Whether a connection has been made in some happenings and has not been closed since. -/
def IsOpen (id : Nat) (xs : List Happening) : Prop :=
  ∃ before x after, xs = before ++ x :: after ∧ x.given? = some id ∧
    ∀ y ∈ after, y.closed? ≠ some id

variable {id : Nat} {live : Bool} {x : Happening} {xs : List Happening}

/-- It was made first of all or later. -/
theorem isOpen_cons :
    IsOpen id (x :: xs) ↔
      (x.given? = some id ∧ ∀ y ∈ xs, y.closed? ≠ some id) ∨ IsOpen id xs := by
  constructor
  · rintro ⟨before, z, after, hxs, hgiven, hkept⟩
    cases before with
    | nil =>
        rw [List.nil_append, List.cons.injEq] at hxs
        exact .inl ⟨hxs.1 ▸ hgiven, hxs.2 ▸ hkept⟩
    | cons first before =>
        rw [List.cons_append, List.cons.injEq] at hxs
        exact .inr ⟨before, z, after, hxs.2, hgiven, hkept⟩
  · rintro (⟨hgiven, hkept⟩ | ⟨before, z, after, rfl, hgiven, hkept⟩)
    · exact ⟨[], x, xs, rfl, hgiven, hkept⟩
    · exact ⟨x :: before, z, after, rfl, hgiven, hkept⟩

/-- A happening that makes a connection registers it, and one that closes it ends that. -/
theorem registers_iff :
    (if x.concerns id then x.registers live else live) = true ↔
      x.given? = some id ∨ live = true ∧ x.closed? ≠ some id := by
  cases x <;>
    simp only [concerns, id?, given?, closed?, registers, Option.all_some, Option.all_none,
      Option.some.injEq] <;>
    grind

/-- Registered is what was registered and is not closed, and what is made and not closed
since. -/
theorem liveAfter_iff :
    liveAfter id live xs = true ↔
      (live = true ∧ ∀ y ∈ xs, y.closed? ≠ some id) ∨ IsOpen id xs := by
  induction xs generalizing live with
  | nil => simp [liveAfter, IsOpen]
  | cons x xs ih =>
      rw [liveAfter, ih, registers_iff, isOpen_cons, List.forall_mem_cons]
      constructor
      · rintro (⟨hgiven | ⟨hlive, hx⟩, hkept⟩ | hopen)
        · exact .inr (.inl ⟨hgiven, hkept⟩)
        · exact .inl ⟨hlive, hx, hkept⟩
        · exact .inr (.inr hopen)
      · rintro (⟨hlive, hx, hkept⟩ | ⟨hgiven, hkept⟩ | hopen)
        · exact .inl ⟨.inr ⟨hlive, hx⟩, hkept⟩
        · exact .inl ⟨.inl hgiven, hkept⟩
        · exact .inr hopen

/-- Registered are the connections that were made and not closed since. -/
theorem liveAfter_eq_true_iff : liveAfter id false xs = true ↔ IsOpen id xs := by
  rw [liveAfter_iff]
  simp

/-- A send of a connection is over, and a fetch is answered, only when its delivery loop says
so. -/
theorem exists_of_mem_movesOf {move : Move}
    (hmove : (∃ outcome, move = .sent outcome) ∨ ∃ answer, move = .fetched answer)
    (hmem : move ∈ movesOf id live xs) : ∃ now, .move id move now ∈ xs := by
  induction xs generalizing live with
  | nil => simp [movesOf] at hmem
  | cons x xs ih =>
      have hlater : (∃ now, .move id move now ∈ xs) → ∃ now, .move id move now ∈ x :: xs := by
        rintro ⟨now, hnow⟩
        exact ⟨now, List.mem_cons_of_mem _ hnow⟩
      unfold movesOf at hmem
      cases hconcerns : x.concerns id with
      | false =>
          simp only [hconcerns, Bool.false_eq_true, if_false] at hmem
          exact hlater (ih hmem)
      | true =>
          simp only [hconcerns, if_true, List.mem_append] at hmem
          rcases hmem with hfirst | hmem
          · cases x with
            | move own single now =>
                have hid : id = own := by simpa [concerns, id?] using hconcerns
                have hsame : move = single := by simpa [moves] using hfirst
                subst hid hsame
                exact ⟨now, List.mem_cons_self⟩
            | _ =>
                rcases hmove with ⟨outcome, rfl⟩ | ⟨answer, rfl⟩ <;>
                  cases live <;> simp [moves] at hfirst
          · exact hlater (ih hmem)

end Happening

/-! ## Closed connections -/

namespace Connection

variable {c c' : Connection} {op : Operation}

/-- A connection is closed by being closed, and stays closed. -/
theorem Change.closed_iff (h : c.Change op c') :
    c'.state = .closed ↔ c.state = .closed ∨ op = .close := by
  constructor
  · intro hclosed
    cases h with
    | ignored => exact .inl hclosed
    | queued => exact .inl hclosed
    | covered => exact .inl hclosed
    | overflowed => exact .inl hclosed
    | truncated => exact .inl hclosed
    | taken => exact .inl hclosed
    | refreshed => simp at hclosed
    | kept => exact .inl hclosed
    | switched => simp at hclosed
    | unsubscribed => simp at hclosed
    | closed => exact .inr rfl
  · rintro (hclosed | rfl)
    · exact h.closed_of_closed hclosed
    · cases h with
      | ignored hignored =>
          cases hignored with
          | closed _ hop => exact absurd rfl hop
      | closed => rfl

/-- No operation changes the queue of a closed connection. -/
theorem Change.queue_of_closed (h : c.Change op c') (hclosed : c.state = .closed) :
    c'.queue = c.queue := by
  cases h with
  | ignored => rfl
  | queued hopen => exact absurd hclosed hopen
  | covered hstate => simp [hclosed] at hstate
  | overflowed hstate => simp [hclosed] at hstate
  | truncated hstate => simp [hclosed] at hstate
  | taken hopen => exact absurd hclosed hopen
  | refreshed hopen => exact absurd hclosed hopen
  | kept => rfl
  | switched hopen => exact absurd hclosed hopen
  | unsubscribed hopen => exact absurd hclosed hopen
  | closed => rfl

end Connection

namespace Session

variable {s t : Session} {move : Move} {now : List Undertaking}

/-- A session is closed by the operation that closes it and by nothing else, and it stays
closed. -/
theorem Moves.closed_iff (h : Moves s move now t) :
    t.connection.state = .closed ↔
      s.connection.state = .closed ∨ move = .operation .close := by
  rcases h.queue_cases with ⟨op, rfl, -, rfl⟩ | ⟨step, c, rfl, hhandout, -, rfl⟩ | hleaves
  · rw [Move.operation.injEq]
    exact (s.connection.operate_change op).closed_iff
  · rw [enter_connection, hhandout.state_eq]
    simp
  · rw [hleaves.state_eq]
    simp [hleaves.not_operation]

theorem Run.closed_iff {moves : List Move} {done : List Undertaking}
    (hrun : Run s moves done t) :
    t.connection.state = .closed ↔
      s.connection.state = .closed ∨ .operation .close ∈ moves := by
  induction hrun with
  | refl => simp
  | tail _ hmove ih => rw [hmove.closed_iff, ih, List.mem_append, List.mem_singleton, or_assoc,
      eq_comm (a := _) (b := Move.operation .close)]

/-- At a closed connection a move changes nothing of the queue but that a send is over. -/
theorem Moves.queue_of_closed (h : Moves s move now t) (hclosed : s.connection.state = .closed) :
    t.connection.queue = s.connection.queue ∨
      (∃ outcome, move = .sent outcome) ∧ t.connection.queue = s.connection.queue.finishSend := by
  cases h with
  | operation op => exact .inl ((s.connection.operate_change op).queue_of_closed hclosed)
  | start => exact .inl rfl
  | abandon => exact .inl rfl
  | take =>
      rw [take_closed hclosed]
      exact .inl rfl
  | wake _ hsignal =>
      rw [wake_of_signal hsignal]
      exact .inl rfl
  | @sent dispatch _ outcome =>
      rcases s.sent_cases dispatch outcome with
        ⟨-, -, hsent⟩ | ⟨_, -, -, hsent⟩ | ⟨_, -, hsent⟩
      · rw [hsent]
        exact .inr ⟨⟨outcome, rfl⟩, rfl⟩
      · rw [hsent]
        exact .inl rfl
      · rw [hsent]
        exact .inl rfl
  | @fetched key seq _ answer =>
      rcases s.fetched_cases key seq answer with
        ⟨_, -, -, hfetched⟩ | ⟨_, -, -, hfetched⟩ | ⟨_, -, hfetched⟩ <;>
        rw [hfetched] <;> exact .inl rfl

/-- A closed connection stays closed, and nothing of its queue changes any more but that the
send under way may be over. -/
theorem Run.queue_of_closed {moves : List Move} {done : List Undertaking}
    (hrun : Run s moves done t) (hclosed : s.connection.state = .closed) :
    t.connection.state = .closed ∧
      (t.connection.queue = s.connection.queue ∨
        (∃ outcome, .sent outcome ∈ moves) ∧
          t.connection.queue = s.connection.queue.finishSend) := by
  induction hrun with
  | refl => exact ⟨hclosed, .inl rfl⟩
  | tail _ hmove ih =>
      rcases ih with ⟨hstill, hbefore⟩
      refine ⟨hmove.closed_iff.2 (.inl hstill), ?_⟩
      rcases hmove.queue_of_closed hstill with hsame | ⟨⟨outcome, rfl⟩, hover⟩
      · rw [hsame]
        rcases hbefore with hbefore | ⟨⟨outcome, hmem⟩, hbefore⟩
        · exact .inl hbefore
        · exact .inr ⟨⟨outcome, List.mem_append_left _ hmem⟩, hbefore⟩
      · -- A send that is over twice is over: this move leaves the queue as the first one did.
        refine .inr ⟨⟨outcome, List.mem_append_right _ List.mem_cons_self⟩, ?_⟩
        rw [hover]
        rcases hbefore with hbefore | ⟨-, hbefore⟩ <;> rw [hbefore]
        rfl

end Session

/-! ## The registry -/

namespace Hub

variable {h h' : Hub} {x : Happening} {xs : List Happening} {n id : Nat}

/-- The connections are those that were given an id, in order. -/
theorem Run.ids_eq (hrun : Run (ofCapacity n) xs h) : xs.filterMap Happening.given? = h.ids := by
  induction hrun with
  | refl => rfl
  | @tail g h ys y hrun hact ih =>
      rw [hact.ids_eq (hrun.numbered (numbered_ofCapacity n)), List.filterMap_append, ih]
      cases hgiven : y.given? <;> simp [hgiven]

/-- The ids are increasing. -/
theorem Numbered.ids_ascend (hn : h.Numbered) : h.ids.Pairwise (· < ·) := by
  rw [hn]
  exact List.pairwise_lt_range'

/-- Registered are some of the connections, in the order in which they were made. -/
theorem Run.live_sublist (hrun : Run (ofCapacity n) xs h) : h.live.Sublist h.ids := by
  induction hrun with
  | refl => exact .slnil
  | @tail g h ys y hrun hact ih =>
      rw [hact.ids_eq (hrun.numbered (numbered_ofCapacity n)), hact.live_eq]
      cases y with
      | register identity id => exact ih.append (.refl _)
      | attend identity id => exact ih.append (.refl _)
      | close id => exact List.sublist_append_of_sublist_left (List.filter_sublist.trans ih)
      | hangUp id => exact List.sublist_append_of_sublist_left (List.filter_sublist.trans ih)
      | reap id => exact List.sublist_append_of_sublist_left (List.filter_sublist.trans ih)
      | _ => exact List.sublist_append_of_sublist_left ih

/-- Registered are the connections that were made and not closed since. -/
theorem Run.isLive_iff (hrun : Run (ofCapacity n) xs h) :
    h.isLive id = true ↔ Happening.IsOpen id xs := by
  rw [hrun.isLive_eq]
  exact Happening.liveAfter_eq_true_iff

/-- A connection is closed by a happening exactly if it ends that the connection is
registered. -/
theorem Acts.close_mem_moves_iff (hact : h.Acts x h') (live : Bool) :
    .operation .close ∈ x.moves live ↔ live = true ∧ x.registers live = false := by
  cases hact with
  | text hs words => simp [Happening.moves, Happening.registers, (Operation.ofText_ne_close _).symm]
  | move hs hmove hopen => simp [Happening.moves, Happening.registers, hopen.symm]
  | _ => cases live <;> simp [Happening.moves, Happening.registers]

/-- A connection that there is already is not registered anew. -/
theorem Acts.registers_false (hn : h.Numbered) (hact : h.Acts x h') (hid : id ∈ h.ids)
    (hconcerns : x.concerns id = true) : x.registers false = false := by
  have hgiven : x.given? = none := by
    cases hgives : x.given? with
    | none => rfl
    | some own =>
        have hown : own = h.nextId := hact.given_eq hgives
        have hsame : id = own := by
          cases x <;> simp_all [Happening.given?, Happening.concerns, Happening.id?]
        exact absurd (hn.lt_nextId hid) (by omega)
  cases x <;> simp_all [Happening.given?, Happening.registers]

/-- If a connection is closed exactly if it is not registered, this is so after a happening. -/
theorem Acts.closed_iff (hn : h.Numbered) (hact : h.Acts x h') {s t : Session}
    (hs : s ∈ h.sessions) (hfeeds : h.Feeds x s t)
    (hbefore : s.connection.state = .closed ↔ h.isLive s.connection.id = false) :
    t.connection.state = .closed ↔ h'.isLive t.connection.id = false := by
  have hrun : Session.Run s.unattended _ _ t.unattended := hfeeds
  rw [← Session.unattended_connection t, hrun.closed_iff, hact.isLive_eq,
    Session.unattended_connection, Session.unattended_connection, hfeeds.client_eq.1, hbefore]
  cases hconcerns : x.concerns s.connection.id with
  | false => simp
  | true =>
      simp only [if_true, hact.close_mem_moves_iff]
      cases hlive : h.isLive s.connection.id with
      | true => simp
      | false =>
          -- An id is never given again, so that no happening registers what is closed.
          simp [hact.registers_false hn (mem_ids hs) hconcerns]

/-- Closed are exactly the connections that are not registered. -/
theorem Run.closed_iff (hrun : Run (ofCapacity n) xs h) {s : Session} (hs : s ∈ h.sessions) :
    s.connection.state = .closed ↔ h.isLive s.connection.id = false := by
  induction hrun generalizing s with
  | refl => simp [ofCapacity] at hs
  | @tail g h ys y hrun hact ih =>
      have hn : g.Numbered := hrun.numbered (numbered_ofCapacity n)
      rcases hact.sessions_eq hn with ⟨change, hsessions, hfeeds⟩
      rw [hsessions] at hs
      rcases List.mem_append.1 hs with hold | hnew
      · rcases List.mem_map.1 hold with ⟨t, ht, rfl⟩
        exact hact.closed_iff hn ht (hfeeds t ht) (ih ht)
      · rcases hact.run_added hnew with ⟨hid, hconcerns, hregisters, -, hbegins⟩
        have hfresh : s.connection.id ∉ g.ids := by
          intro hmem
          exact absurd (hn.lt_nextId hmem) (by omega)
        have hbefore : g.isLive s.connection.id = false :=
          (hrun.isLive_eq _).trans (hrun.nothing_of_not_mem_ids hfresh).2.2
        rw [← Session.unattended_connection s, hbegins.closed_iff, hact.isLive_eq,
          hact.close_mem_moves_iff, Session.unattended_connection, hconcerns, hbefore, hregisters]
        simp [Session.accept, Connection.accept]

/-- Connections get increasing ids in the order in which they are registered.  The registry
holds, in this order, those that have been made and not closed since; the others are closed.
Closing tells whether the connection was made and not closed before.  A closed connection
stays closed, and nothing of its queue changes any more but that a send under way may be
over. -/
theorem Run.registry_agrees (hrun : Run (ofCapacity n) xs h) :
    xs.filterMap Happening.given? = h.sessions.map (fun s => s.connection.id) ∧
      (xs.filterMap Happening.given?).Pairwise (· < ·) ∧
      h.live.Pairwise (· < ·) ∧
      (∀ id, id ∈ h.live ↔ Happening.IsOpen id xs) ∧
      (∀ s ∈ h.sessions, s.connection.state = .closed ↔ s.connection.id ∉ h.live) ∧
      (∀ id, (h.close id).2 = true ↔ Happening.IsOpen id xs) ∧
      ∀ {later : List Happening} {h' : Hub}, Run h later h' →
        ∀ s ∈ h.sessions, s.connection.state = .closed →
          ∃ s' ∈ h'.sessions, s'.connection.id = s.connection.id ∧
            s'.connection.state = .closed ∧
            (s'.connection.queue = s.connection.queue ∨
              (∃ outcome now, .move s.connection.id (.sent outcome) now ∈ later) ∧
                s'.connection.queue = s.connection.queue.finishSend) := by
  have hn : h.Numbered := hrun.numbered (numbered_ofCapacity n)
  have hlive : ∀ id, id ∈ h.live ↔ Happening.IsOpen id xs := fun id =>
    List.contains_iff_mem.symm.trans hrun.isLive_iff
  refine ⟨hrun.ids_eq, hrun.ids_eq ▸ hn.ids_ascend, hn.ids_ascend.sublist hrun.live_sublist,
    hlive, ?_, ?_, ?_⟩
  · intro s hs
    rw [hrun.closed_iff hs, ← Bool.not_eq_true]
    exact not_congr List.contains_iff_mem
  · intro id
    rw [close_result]
    exact hrun.isLive_iff
  · intro later h' hlater s hs hclosed
    rcases hlater.alone hn hs with ⟨s', hs', hid, hsession⟩
    rcases hsession.queue_of_closed hclosed with ⟨hstill, hqueue⟩
    refine ⟨s', hs', hid, hstill, ?_⟩
    rcases hqueue with hsame | ⟨⟨outcome, hsent⟩, hover⟩
    · exact .inl hsame
    · rcases Happening.exists_of_mem_movesOf (.inl ⟨outcome, rfl⟩) hsent with ⟨now, hmove⟩
      exact .inr ⟨⟨outcome, now, hmove⟩, hover⟩

/-! ### A connection that is closed while a frame is being sent -/

/-- A session whose client is owed the answer to a ping. -/
def pinged : Session :=
  (Session.accept 1 ⟨"ada", none, [], .empty⟩ 2).onConnection fun c => (c.offerControl .pong).1

/-- The same session when it sends the answer. -/
def ponging : Session := pinged.start.take

/-- A hub whose only connection is closed while it sends the answer to a ping. -/
def closedWhileSending : Hub := ⟨2, .ofNat 0, [ponging.onConnection .close], []⟩

theorem closedWhileSending_run :
    Run (ofCapacity 2)
      [.register ⟨"ada", none, [], .empty⟩ 1, .announce .pong, .move 1 .start [],
        .move 1 .take [.send (.frame (.control .pong))], .close 1] closedWhileSending := by
  have hpinged : Run (ofCapacity 2) [.register ⟨"ada", none, [], .empty⟩ 1, .announce .pong]
      ⟨2, .ofNat 0, [pinged], [1]⟩ := .tail (.tail (.refl _) (.register _)) (.announce _)
  have hstart : Acts ⟨2, .ofNat 0, [pinged], [1]⟩ (.move 1 .start [])
      ⟨2, .ofNat 0, [pinged.start], [1]⟩ :=
    .move rfl (.start (.inl rfl)) (by simp)
  have htake : Acts ⟨2, .ofNat 0, [pinged.start], [1]⟩
      (.move 1 .take [.send (.frame (.control .pong))]) ⟨2, .ofNat 0, [ponging], [1]⟩ :=
    .move rfl (@Session.Moves.take pinged.start rfl) (by simp)
  exact ((hpinged.tail hstart).tail htake).tail (.close 1)

/-- What happens then: a notice is published and the send is over. -/
theorem sentAfterClose_run :
    Run closedWhileSending
      [.publish (.broadcast "notice" (.ofNat 6) default), .move 1 (.sent (.ok ())) []]
      ⟨2, .ofNat 6, [(ponging.onConnection .close).sent (.frame (.control .pong)) (.ok ())],
        []⟩ := by
  have hpublished : Run closedWhileSending [.publish (.broadcast "notice" (.ofNat 6) default)]
      ⟨2, .ofNat 6, [ponging.onConnection .close], []⟩ := .tail (.refl _) (.publish _)
  have hsent : Session.Moves (ponging.onConnection .close) (.sent (.ok ())) []
      ((ponging.onConnection .close).sent (.frame (.control .pong)) (.ok ())) := .sent rfl _
  exact hpublished.tail (.move rfl hsent (by simp))

/-- The notice finds nobody, and the queue of the connection changes only in that the send is
over. -/
theorem Run.registry_agrees_of_closed :
    (closedWhileSending.close 1).2 = false ∧ 1 ∉ closedWhileSending.live ∧
      ∃ s' : Session, s'.connection.id = 1 ∧ s'.connection.state = .closed ∧
        (s'.connection.queue = ponging.connection.queue ∨
          s'.connection.queue = ponging.connection.queue.finishSend) := by
  rcases closedWhileSending_run.registry_agrees with
    ⟨-, -, -, hlive, hclosed, hcloses, hlater⟩
  have hstate : (ponging.onConnection .close).connection.state = .closed := rfl
  have hgone : 1 ∉ closedWhileSending.live := (hclosed _ List.mem_cons_self).1 hstate
  refine ⟨?_, hgone, ?_⟩
  · rw [← Bool.not_eq_true, hcloses, ← hlive]
    exact hgone
  · rcases hlater sentAfterClose_run _ List.mem_cons_self hstate with
      ⟨s', -, hid, hstill, hqueue⟩
    exact ⟨s', hid, hstill, hqueue.imp id And.right⟩

end Hub
end Gatehouse
