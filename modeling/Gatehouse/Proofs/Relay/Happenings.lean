import Gatehouse.Proofs.Relay.Moves

/-!
# Runs of a hub

Much can happen at a hub: connections are registered, attended to and closed, clients
subscribe and send texts, events are published, delivery loops go on.  A run is a sequence of
happenings, each possible after the one before.  Each happening concerns one connection or
all of them, and for a connection that it concerns it amounts to some moves of its session.

Main results:

- Theorem {lit}`Hub.Acts.sessions_eq`: what a happening does to each session.
- Theorem {lit}`Hub.Run.numbered`: ids are given in order and never again.
- Theorem {lit}`Hub.Run.alone`: a session goes through a run of the hub as through the moves
  that concern it, whatever becomes of the others.
-/

namespace Gatehouse

/-! ## Texts of a client -/

/-- The code of an answer to a text that is no message. -/
theorem Operation.refusal_lt : 400 < 65536 := by decide

/-- What a text of a client asks of its connection. -/
def Operation.ofText (text : String) : Operation :=
  match ClientMessage.decode text with
  | .ok (.subscribe key seq) => .subscribe key seq
  | .ok .unsubscribe => .unsubscribe
  | .ok .ping => .control .pong
  | .error fault => .control (.error ⟨400, refusal_lt⟩ ("invalid message: " ++ fault.message))

/-- A connection heeds a text by the operation that the text asks for. -/
theorem Hub.heed_eq_operate (c : Connection) (text : String) :
    Hub.heed c text = c.operate (.ofText text) := by
  unfold Hub.heed Operation.ofText
  rcases ClientMessage.decode text with fault | message
  · rfl
  · cases message <;> rfl

/-- No text closes the connection. -/
theorem Operation.ofText_ne_close (text : String) : Operation.ofText text ≠ .close := by
  unfold ofText
  split <;> simp

/-! ## Happenings -/

/-- What can happen at a hub. -/
inductive Happening where
  /-- A connection is registered; it is given an id. -/
  | register (identity : Identity) (id : Nat)
  /-- A connection is registered and attended to from now on; it is given an id. -/
  | attend (identity : Identity) (id : Nat)
  /-- A connection is closed. -/
  | close (id : Nat)
  /-- A connection is subscribed to a key. -/
  | subscribe (id : Nat) (key : String) (seq : Option Seq)
  /-- The subscription of a connection is ended. -/
  | unsubscribe (id : Nat)
  /-- An event is published. -/
  | publish (event : Event)
  /-- A message is offered to everyone. -/
  | announce (message : ServerMessage)
  /-- The client of a connection sends a text. -/
  | text (id : Nat) (text : String)
  /-- The client of an attended connection is gone. -/
  | hangUp (id : Nat)
  /-- The delivery loop of an attended connection is over. -/
  | reap (id : Nat)
  /-- A session goes on by a move, with what its delivery loop undertakes. -/
  | move (id : Nat) (move : Move) (now : List Undertaking)

namespace Happening

/-- The connection that a happening concerns; without one, all. -/
def id? : Happening → Option Nat
  | register _ id | attend _ id | close id | subscribe id _ _ | unsubscribe id | text id _
  | hangUp id | reap id | move id _ _ => some id
  | publish _ | announce _ => none

/-- Whether a happening concerns a connection. -/
def concerns (x : Happening) (id : Nat) : Bool := x.id?.all (id == ·)

/-- The id that is given to a new connection. -/
def given? : Happening → Option Nat
  | register _ id | attend _ id => some id
  | _ => none

/-- The session that is added, at a hub with so many places for each connection. -/
def added (capacity : Nat) : Happening → List Session
  | register identity id => [.accept id identity capacity]
  | attend identity id => [{ (Session.accept id identity capacity).start with attended := true }]
  | _ => []

/-- Whether a connection that a happening concerns is registered after it. -/
def registers (live : Bool) : Happening → Bool
  | register _ _ | attend _ _ => true
  | close _ | hangUp _ | reap _ => false
  | _ => live

/-- The moves that a happening amounts to for a connection that it concerns, which is
registered or not. -/
def moves (live : Bool) : Happening → List Move
  | register _ _ => []
  | attend _ _ => [.start]
  | close _ => if live then [.operation .close] else []
  | subscribe _ key seq => if live then [.operation (.subscribe key seq)] else []
  | unsubscribe _ => if live then [.operation .unsubscribe] else []
  | publish e => if live then [.operation (.event e)] else []
  | announce m => if live then [.operation (.control m)] else []
  | text _ words => [.operation (.ofText words)]
  | hangUp _ | reap _ => .abandon :: if live then [.operation .close] else []
  | move _ single _ => [single]

/-- What the delivery loop of a connection undertakes. -/
def undertaken : Happening → List Undertaking
  | move _ _ now => now
  | _ => []

/-- Whether a connection is registered after some happenings. -/
def liveAfter (id : Nat) : Bool → List Happening → Bool
  | live, [] => live
  | live, x :: rest => liveAfter id (if x.concerns id then x.registers live else live) rest

/-- The moves that some happenings amount to for one connection, which is registered at the
beginning or not. -/
def movesOf (id : Nat) : Bool → List Happening → List Move
  | _, [] => []
  | live, x :: rest =>
      if x.concerns id then x.moves live ++ movesOf id (x.registers live) rest
      else movesOf id live rest

/-- What the delivery loop of one connection undertakes in some happenings. -/
def undertakenBy (id : Nat) (xs : List Happening) : List Undertaking :=
  (xs.filter fun x => x.concerns id).flatMap undertaken

/-- The ids that are registered after a happening. -/
def enroll (live : List Nat) : Happening → List Nat
  | register _ id | attend _ id => live ++ [id]
  | close id | hangUp id | reap id => live.filter (· != id)
  | _ => live

variable {id : Nat} {live : Bool}

/-- What is registered is what a happening registers. -/
theorem contains_enroll (x : Happening) (live : List Nat) (id : Nat) :
    (x.enroll live).contains id =
      if x.concerns id then x.registers (live.contains id) else live.contains id := by
  cases x <;> simp [enroll, concerns, id?, registers] <;> grind

/-- A happening after the others. -/
theorem liveAfter_append (xs : List Happening) (x : Happening) :
    liveAfter id live (xs ++ [x]) =
      if x.concerns id then x.registers (liveAfter id live xs) else liveAfter id live xs := by
  induction xs generalizing live with
  | nil => rfl
  | cons y ys ih => exact ih

/-- The moves of a happening after the others. -/
theorem movesOf_append (xs : List Happening) (x : Happening) :
    movesOf id live (xs ++ [x]) =
      movesOf id live xs ++ if x.concerns id then x.moves (liveAfter id live xs) else [] := by
  induction xs generalizing live with
  | nil =>
      simp only [List.nil_append, movesOf, liveAfter]
      split <;> simp
  | cons y ys ih =>
      simp only [List.cons_append, movesOf, liveAfter]
      split <;> simp [ih]

/-- What is undertaken in a happening after the others. -/
theorem undertakenBy_append (xs : List Happening) (x : Happening) :
    undertakenBy id (xs ++ [x]) =
      undertakenBy id xs ++ if x.concerns id then x.undertaken else [] := by
  unfold undertakenBy
  rw [List.filter_append, List.flatMap_append]
  cases hx : x.concerns id <;> simp [hx]

end Happening

/-! ## What is possible -/

namespace Session

/-- A session as it is without attendance. -/
def unattended (s : Session) : Session := { s with attended := false }

@[simp]
theorem unattended_connection (s : Session) : s.unattended.connection = s.connection :=
  rfl

@[simp]
theorem undertakings_unattended (s : Session) : s.unattended.undertakings = s.undertakings :=
  rfl

theorem take_unattended (s : Session) : s.unattended.take = s.take.unattended := by
  unfold take
  rw [unattended_connection]
  rcases s.connection.nextStep with ⟨step, c⟩
  cases step <;> rfl

theorem wake_unattended (s : Session) : s.unattended.wake = s.wake.unattended := by
  unfold wake
  rw [unattended_connection]
  split <;> rfl

theorem sent_unattended (s : Session) (dispatch : Dispatch) (outcome : Except String Unit) :
    s.unattended.sent dispatch outcome = (s.sent dispatch outcome).unattended := by
  cases dispatch <;> cases outcome <;> rfl

theorem fetched_unattended (s : Session) (key : String) (seq : Seq)
    (answer : Except SnapshotFault Json.Value) :
    s.unattended.fetched key seq answer = (s.fetched key seq answer).unattended := by
  cases answer with
  | error fault => rfl
  | ok resource =>
      unfold fetched
      rw [unattended_connection]
      cases s.connection.isClosed <;> rfl

/-- A session moves in the same way without attendance. -/
theorem Moves.unattended {s t : Session} {move : Move} {now : List Undertaking}
    (h : Moves s move now t) : Moves s.unattended move now t.unattended := by
  cases h with
  | operation op => exact .operation op
  | start hrest => exact .start hrest
  | abandon => exact .abandon
  | take hready =>
      have htake := @Moves.take s.unattended hready
      rwa [take_unattended, undertakings_unattended] at htake
  | wake hparked hsignal =>
      rw [← wake_unattended]
      exact .wake hparked hsignal
  | @sent dispatch hsending outcome =>
      rw [← sent_unattended]
      exact @Moves.sent s.unattended dispatch hsending outcome
  | @fetched key seq hfetching answer =>
      have hfetched := @Moves.fetched s.unattended key seq hfetching answer
      rwa [fetched_unattended, undertakings_unattended] at hfetched

/-- No move changes whose connection it is. -/
theorem Moves.client_eq {s t : Session} {move : Move} {now : List Undertaking}
    (h : Moves s move now t) :
    t.connection.id = s.connection.id ∧ t.connection.identity = s.connection.identity := by
  rcases h.queue_cases with ⟨op, -, -, rfl⟩ | ⟨step, c, -, hhandout, -, rfl⟩ | hleaves
  · have hchange := s.connection.operate_change op
    rw [onConnection_connection]
    generalize s.connection.operate op = c at hchange
    cases hchange <;> exact ⟨rfl, rfl⟩
  · cases hhandout <;> exact ⟨rfl, rfl⟩
  · exact ⟨hleaves.id_eq, hleaves.identity_eq⟩

/-- No run changes whose connection it is. -/
theorem Run.client_eq {s t : Session} {moves : List Move} {done : List Undertaking}
    (hrun : Run s moves done t) :
    t.connection.id = s.connection.id ∧ t.connection.identity = s.connection.identity := by
  induction hrun with
  | refl => exact ⟨rfl, rfl⟩
  | tail _ hmove ih => exact ⟨hmove.client_eq.1.trans ih.1, hmove.client_eq.2.trans ih.2⟩

end Session

namespace Hub

/-- When a happening is possible, and where it leads. -/
inductive Acts (h : Hub) : Happening → Hub → Prop where
  | register (identity : Identity) :
      Acts h (.register identity (h.register identity).2) (h.register identity).1
  | attend (identity : Identity) :
      Acts h (.attend identity (h.attend identity).2) (h.attend identity).1
  | close (id : Nat) : Acts h (.close id) (h.close id).1
  | subscribe (id : Nat) (key : String) (seq : Option Seq) :
      Acts h (.subscribe id key seq) (h.subscribe id key seq).1
  | unsubscribe (id : Nat) : Acts h (.unsubscribe id) (h.unsubscribe id).1
  | publish (e : Event) : Acts h (.publish e) (h.publish e).1
  | announce (m : ServerMessage) : Acts h (.announce m) (h.announce m)
  | text {id : Nat} {s : Session} (hs : h.session? id = some s) (text : String) :
      Acts h (.text id text) (h.clientText id text)
  | hangUp {id : Nat} {s : Session} (hs : h.session? id = some s)
      (hattended : s.attended = true) : Acts h (.hangUp id) (h.hangUp id)
  | reap {id : Nat} {s : Session} {result : Except DeliveryFault Unit}
      (hs : h.session? id = some s) (hattended : s.attended = true)
      (hended : s.loop = some (.ended result)) : Acts h (.reap id) (h.reap id)
  | move {id : Nat} {s t : Session} {move : Move} {now : List Undertaking}
      (hs : h.session? id = some s) (hmove : Session.Moves s move now t)
      (hopen : move ≠ .operation .close) :
      Acts h (.move id move now) (h.update id fun _ => t)

/-- A sequence of happenings and where it leads. -/
inductive Run : Hub → List Happening → Hub → Prop where
  | refl (h : Hub) : Run h [] h
  | tail {h g g' : Hub} {xs : List Happening} {x : Happening} (hrun : Run h xs g)
      (hact : Acts g x g') : Run h (xs ++ [x]) g'

/-! ## Ids -/

/-- The ids of all connections ever made, in the order in which they were made. -/
def ids (h : Hub) : List Nat := h.sessions.map fun s => s.connection.id

/-- Whether the connections are numbered from one on, in the order in which they were
made. -/
def Numbered (h : Hub) : Prop := h.ids = List.range' 1 h.sessions.length

variable {h h' g g' : Hub} {x : Happening} {xs : List Happening} {n id : Nat}

theorem mem_ids {s : Session} (hs : s ∈ h.sessions) : s.connection.id ∈ h.ids :=
  List.mem_map_of_mem hs

theorem numbered_ofCapacity (n : Nat) : (ofCapacity n).Numbered :=
  rfl

/-- The next id is above the others. -/
theorem Numbered.lt_nextId (hn : h.Numbered) (hid : id ∈ h.ids) : id < h.nextId := by
  rw [hn, List.mem_range'_1] at hid
  unfold nextId
  omega

/-- A session is known by its id. -/
theorem Numbered.eq_of_id_eq (hn : h.Numbered) {s t : Session} (hs : s ∈ h.sessions)
    (ht : t ∈ h.sessions) (hid : s.connection.id = t.connection.id) : s = t := by
  have hplace : ∀ (i : Nat) (hi : i < h.sessions.length),
      h.sessions[i].connection.id = 1 + i := by
    intro i hi
    have hget : h.ids[i]? = (List.range' 1 h.sessions.length)[i]? := by rw [hn]
    simpa [ids, hi, List.getElem?_range'] using hget
  rcases List.mem_iff_getElem.1 hs with ⟨i, hi, rfl⟩
  rcases List.mem_iff_getElem.1 ht with ⟨j, hj, rfl⟩
  rw [hplace i hi, hplace j hj] at hid
  have hsame : i = j := by omega
  subst hsame
  rfl

/-! ## What a happening does -/

/-- No happening changes how many places there are for each connection. -/
theorem Acts.capacity_eq (hact : h.Acts x h') : h'.capacity = h.capacity := by
  cases hact with
  | register => rfl
  | attend => rfl
  | close => exact close_capacity h _
  | subscribe id key seq =>
      unfold Hub.subscribe
      split
      · exact apply_capacity h id _ _
      · rfl
  | unsubscribe id =>
      unfold Hub.unsubscribe
      split
      · exact apply_capacity h id _ _
      · rfl
  | publish => rfl
  | announce => rfl
  | text => rfl
  | hangUp hs hattended =>
      rw [hangUp_of_attended hs hattended]
      exact release_capacity h _
  | reap hs hattended hended =>
      rw [reap_of_ended hs hattended hended]
      exact release_capacity h _
  | move => rfl

/-- Which connections are registered after a happening. -/
theorem Acts.live_eq (hact : h.Acts x h') : h'.live = x.enroll h.live := by
  cases hact with
  | register => rfl
  | attend => rfl
  | close id => exact close_live h id
  | subscribe id key seq =>
      unfold Hub.subscribe
      split
      · exact apply_live h id _ _
      · rfl
  | unsubscribe id =>
      unfold Hub.unsubscribe
      split
      · exact apply_live h id _ _
      · rfl
  | publish => rfl
  | announce => rfl
  | text => rfl
  | hangUp hs hattended =>
      rw [hangUp_of_attended hs hattended]
      exact release_live h _
  | reap hs hattended hended =>
      rw [reap_of_ended hs hattended hended]
      exact release_live h _
  | move => rfl

theorem Acts.isLive_eq (hact : h.Acts x h') (id : Nat) :
    h'.isLive id = if x.concerns id then x.registers (h.isLive id) else h.isLive id := by
  unfold isLive
  rw [hact.live_eq, Happening.contains_enroll]

/-- The moves that a happening amounts to for one connection, and what its delivery loop
undertakes in them. -/
def Feeds (h : Hub) (x : Happening) (s t : Session) : Prop :=
  Session.Run s.unattended
    (if x.concerns s.connection.id then x.moves (h.isLive s.connection.id) else [])
    (if x.concerns s.connection.id then x.undertaken else []) t.unattended

/-- A happening that concerns one connection leaves the others alone. -/
theorem feeds_one {f : Session → Session} (hx : x.id? = some id)
    (hrun : ∀ s ∈ h.sessions, s.connection.id = id →
      Session.Run s.unattended (x.moves (h.isLive id)) x.undertaken (f s).unattended) :
    ∀ s ∈ h.sessions, h.Feeds x s (if s.connection.id == id then f s else s) := by
  intro s hs
  have hconcerns : x.concerns s.connection.id = (s.connection.id == id) := by
    simp [Happening.concerns, hx]
  unfold Feeds
  rw [hconcerns]
  cases hid : s.connection.id == id with
  | false => exact .refl _
  | true =>
      have hsame : s.connection.id = id := by simpa using hid
      rw [hsame]
      exact hrun s hs hsame

/-- A connection that has to be registered for an operation. -/
theorem run_if_live {s : Session} {op : Operation} {f : Connection → Connection} (live : Bool)
    (hf : f s.connection = s.connection.operate op) :
    Session.Run s.unattended (if live then [.operation op] else []) []
      (if live then s.onConnection f else s).unattended := by
  cases live with
  | false => exact .refl _
  | true =>
      have hmove := Session.Moves.operation (s := s.unattended) op
      have hsame : (s.onConnection f).unattended =
          s.unattended.onConnection fun c => c.operate op := by
        simp [Session.onConnection, Session.unattended, hf]
      rw [if_pos rfl, if_pos rfl, hsame]
      exact hmove.run

/-- A connection that is no longer attended. -/
theorem run_release (h : Hub) (id : Nat) (s : Session) :
    Session.Run s.unattended
      (.abandon :: if h.isLive id then [.operation .close] else []) []
      (if h.isLive id then { s.abandon with attended := false }.onConnection .close
        else { s.abandon with attended := false }).unattended :=
  (Session.Moves.abandon (s := s.unattended)).run.trans
    (run_if_live (s := { s.abandon with attended := false }) (h.isLive id) rfl)

/-- What a happening does to the sessions: each goes through the moves that concern it, and
one may be added. -/
theorem Acts.sessions_eq (hn : h.Numbered) (hact : h.Acts x h') :
    ∃ change : Session → Session,
      h'.sessions = h.sessions.map change ++ x.added h.capacity ∧
      ∀ s ∈ h.sessions, h.Feeds x s (change s) := by
  cases hact with
  | register identity =>
      refine ⟨fun s => s, by simp [Happening.added, Hub.register], fun s _ => ?_⟩
      simp only [Feeds, Happening.moves, Happening.undertaken, ite_self]
      exact .refl _
  | attend identity =>
      -- The id is new, so that the loop that begins is no other session's.
      have hother : ∀ s ∈ h.sessions, (s.connection.id == h.nextId) = false := by
        intro s hs
        simpa using Nat.ne_of_lt (hn.lt_nextId (mem_ids hs))
      refine ⟨fun s => s, ?_, fun s hs => ?_⟩
      · have hothers : ∀ s ∈ h.sessions, (if s.connection.id == h.nextId then
            { s.start with attended := true } else s) = s := by
          intro s hs
          rw [hother s hs, if_neg Bool.false_ne_true]
        rw [attend_sessions, List.map_append, List.map_congr_left hothers]
        simp [Happening.added, Session.accept, Connection.accept, Hub.attend, Hub.register]
      · have hconcerns : Happening.concerns (.attend identity (h.attend identity).2)
            s.connection.id = false := hother s hs
        simp only [Feeds, hconcerns]
        exact .refl _
  | close id =>
      refine ⟨_, (h.close_sessions _).trans (List.append_nil _).symm, feeds_one rfl ?_⟩
      exact fun s _ _ => run_if_live (h.isLive id) rfl
  | subscribe id key seq =>
      refine ⟨_, (h.subscribe_sessions id key seq).trans (List.append_nil _).symm, feeds_one rfl ?_⟩
      exact fun s _ _ => run_if_live (h.isLive id) rfl
  | unsubscribe id =>
      refine ⟨_, (h.unsubscribe_sessions _).trans (List.append_nil _).symm, feeds_one rfl ?_⟩
      exact fun s _ _ => run_if_live (h.isLive id) rfl
  | publish e =>
      refine ⟨_, (h.publish_sessions _).trans (List.append_nil _).symm, fun s _ => ?_⟩
      exact run_if_live (h.isLive s.connection.id) rfl
  | announce m =>
      refine ⟨_, (h.announce_sessions _).trans (List.append_nil _).symm, fun s _ => ?_⟩
      exact run_if_live (h.isLive s.connection.id) rfl
  | @text id _ _ words =>
      refine ⟨_, (h.update_sessions id _).trans (List.append_nil _).symm, feeds_one rfl ?_⟩
      exact fun s _ _ => run_if_live true (heed_eq_operate s.connection words)
  | hangUp hs hattended =>
      rw [hangUp_of_attended hs hattended]
      refine ⟨_, (h.release_sessions _).trans (List.append_nil _).symm, feeds_one rfl ?_⟩
      exact fun s _ _ => h.run_release _ s
  | reap hs hattended hended =>
      rw [reap_of_ended hs hattended hended]
      refine ⟨_, (h.release_sessions _).trans (List.append_nil _).symm, feeds_one rfl ?_⟩
      exact fun s _ _ => h.run_release _ s
  | @move id s t move now hs hmove =>
      rcases mem_of_session? hs with ⟨hmem, hid⟩
      refine ⟨_, (h.update_sessions id _).trans (List.append_nil _).symm, feeds_one rfl ?_⟩
      intro u hu huid
      rw [hn.eq_of_id_eq hu hmem (huid.trans hid.symm)]
      exact hmove.unattended.run

/-- The moves that concern a connection do not change whose it is. -/
theorem Feeds.client_eq {s t : Session} (hfeeds : h.Feeds x s t) :
    t.connection.id = s.connection.id ∧ t.connection.identity = s.connection.identity := by
  have hrun : Session.Run s.unattended _ _ t.unattended := hfeeds
  exact hrun.client_eq

/-- A new connection is given the next id. -/
theorem Acts.given_eq (hact : h.Acts x h') (hid : x.given? = some id) : id = h.nextId := by
  cases hact with
  | register => exact (Option.some.inj hid).symm
  | attend => exact (Option.some.inj hid).symm
  | _ => simp [Happening.given?] at hid

/-- Connections keep their ids, and the id that is given comes last. -/
theorem Acts.ids_eq (hn : h.Numbered) (hact : h.Acts x h') :
    h'.ids = h.ids ++ x.given?.toList := by
  rcases hact.sessions_eq hn with ⟨change, hsessions, hfeeds⟩
  have hold : (h.sessions.map change).map (fun s => s.connection.id) = h.ids := by
    rw [List.map_map]
    exact List.map_congr_left fun s hs => (hfeeds s hs).client_eq.1
  have hnew : (x.added h.capacity).map (fun s => s.connection.id) = x.given?.toList := by
    cases x <;> rfl
  rw [ids, hsessions, List.map_append, hold, hnew]

theorem Acts.numbered (hn : h.Numbered) (hact : h.Acts x h') : h'.Numbered := by
  have hids := hact.ids_eq hn
  have hlength : h'.sessions.length = h.sessions.length + x.given?.toList.length := by
    have hcount := congrArg List.length hids
    simpa [ids] using hcount
  unfold Numbered
  rw [hids, hlength, hn]
  cases hgiven : x.given? with
  | none => simp
  | some id =>
      rw [hact.given_eq hgiven]
      simp [List.range'_concat, nextId, Nat.add_comm]

/-! ## Runs -/

/-- What every happening keeps at a hub whose connections are numbered, every run keeps. -/
theorem Run.numbered (hn : h.Numbered) (hrun : Run h xs h') : h'.Numbered := by
  induction hrun with
  | refl => exact hn
  | tail _ hact ih => exact hact.numbered ih

theorem Run.capacity_eq (hrun : Run h xs h') : h'.capacity = h.capacity := by
  induction hrun with
  | refl => rfl
  | tail _ hact ih => exact hact.capacity_eq.trans ih

/-- Which connections are registered after a run. -/
theorem Run.isLive_eq (hrun : Run h xs h') (id : Nat) :
    h'.isLive id = Happening.liveAfter id (h.isLive id) xs := by
  induction hrun with
  | refl => rfl
  | tail _ hact ih => rw [hact.isLive_eq, Happening.liveAfter_append, ih]

/-- A session goes through a run of the hub as through the moves that concern it. -/
theorem Run.alone (hn : h.Numbered) (hrun : Run h xs h') {s : Session} (hs : s ∈ h.sessions) :
    ∃ s' ∈ h'.sessions, s'.connection.id = s.connection.id ∧
      Session.Run s.unattended
        (Happening.movesOf s.connection.id (h.isLive s.connection.id) xs)
        (Happening.undertakenBy s.connection.id xs) s'.unattended := by
  induction hrun with
  | refl => exact ⟨s, hs, rfl, .refl _⟩
  | tail hrun hact ih =>
      rcases ih with ⟨t, ht, hid, hbefore⟩
      rcases hact.sessions_eq (hrun.numbered hn) with ⟨change, hsessions, hfeeds⟩
      refine ⟨change t, ?_, (hfeeds t ht).client_eq.1.trans hid, ?_⟩
      · rw [hsessions]
        exact List.mem_append_left _ (List.mem_map_of_mem ht)
      · have hafter := hfeeds t ht
        rw [Feeds, hid, hrun.isLive_eq] at hafter
        rw [Happening.movesOf_append, Happening.undertakenBy_append]
        exact hbefore.trans hafter

/-- A happening that concerns a connection which there is not registers it or amounts to
nothing. -/
theorem Acts.nothing_of_not_mem_ids (hact : h.Acts x h') (hconcerns : x.concerns id = true)
    (hold : id ∉ h.ids) (hnew : id ∉ x.given?.toList) :
    x.moves false = [] ∧ x.undertaken = [] ∧ x.registers false = false := by
  have hthere : ∀ {own : Nat} {s : Session}, x.id? = some own →
      h.session? own = some s → False := by
    intro own s hx hs
    rcases mem_of_session? hs with ⟨hmem, hid⟩
    have hsame : id = own := by simpa [Happening.concerns, hx] using hconcerns
    exact hold (hsame ▸ hid ▸ mem_ids hmem)
  have hgiven : ∀ {own : Nat}, x.id? = some own → x.given? = some own → False := by
    intro own hx hgives
    have hsame : id = own := by simpa [Happening.concerns, hx] using hconcerns
    simp [hgives, hsame] at hnew
  cases hact with
  | register => exact (hgiven rfl rfl).elim
  | attend => exact (hgiven rfl rfl).elim
  | text hs => exact (hthere rfl hs).elim
  | hangUp hs => exact (hthere rfl hs).elim
  | reap hs => exact (hthere rfl hs).elim
  | move hs => exact (hthere rfl hs).elim
  | _ => exact ⟨rfl, rfl, rfl⟩

/-- Before a connection is made nothing concerns it. -/
theorem Run.nothing_of_not_mem_ids (hrun : Run (ofCapacity n) xs h) (hid : id ∉ h.ids) :
    Happening.movesOf id false xs = [] ∧ Happening.undertakenBy id xs = [] ∧
      Happening.liveAfter id false xs = false := by
  induction hrun with
  | refl => exact ⟨rfl, rfl, rfl⟩
  | @tail g h ys y hrun hact ih =>
      rw [hact.ids_eq (hrun.numbered (numbered_ofCapacity n)), List.mem_append, not_or] at hid
      rcases ih hid.1 with ⟨hmoves, hundertaken, hlive⟩
      rw [Happening.movesOf_append, Happening.undertakenBy_append, Happening.liveAfter_append,
        hmoves, hundertaken, hlive]
      cases hconcerns : y.concerns id with
      | false => exact ⟨rfl, rfl, rfl⟩
      | true => exact hact.nothing_of_not_mem_ids hconcerns hid.1 hid.2

/-- A session that is added begins with the moves of the happening that adds it. -/
theorem Acts.run_added (hact : h.Acts x h') {t : Session} (ht : t ∈ x.added h.capacity) :
    t.connection.id = h.nextId ∧ x.concerns t.connection.id = true ∧
      x.registers false = true ∧ x.undertaken = [] ∧
      Session.Run (.accept t.connection.id t.connection.identity h.capacity) (x.moves false) []
        t.unattended := by
  cases hact with
  | register identity =>
      rw [List.mem_singleton.1 ht]
      exact ⟨rfl, by simp [Happening.concerns, Happening.id?, Session.accept,
        Connection.accept], rfl, rfl, .refl _⟩
  | attend identity =>
      rw [List.mem_singleton.1 ht]
      exact ⟨rfl, by simp [Happening.concerns, Happening.id?, Session.accept, Session.start,
        Connection.accept], rfl, rfl, (Session.Moves.start (.inl rfl)).run⟩
  | _ => simp [Happening.added] at ht

/-- In every run a session is where the moves that concern it lead from its beginning. -/
theorem Run.alone_from_start (hrun : Run (ofCapacity n) xs h) {s : Session}
    (hs : s ∈ h.sessions) :
    Session.Run (.accept s.connection.id s.connection.identity (max 1 n))
      (Happening.movesOf s.connection.id false xs)
      (Happening.undertakenBy s.connection.id xs) s.unattended := by
  induction hrun generalizing s with
  | refl => simp [ofCapacity] at hs
  | @tail g h ys y hrun hact ih =>
      have hn : g.Numbered := hrun.numbered (numbered_ofCapacity n)
      have hcapacity : g.capacity = max 1 n := hrun.capacity_eq
      rcases hact.sessions_eq hn with ⟨change, hsessions, hfeeds⟩
      rw [Happening.movesOf_append, Happening.undertakenBy_append]
      rw [hsessions] at hs
      rcases List.mem_append.1 hs with hold | hnew
      · rcases List.mem_map.1 hold with ⟨t, ht, rfl⟩
        have hafter := hfeeds t ht
        rw [(hfeeds t ht).client_eq.1, (hfeeds t ht).client_eq.2]
        rw [Feeds, hrun.isLive_eq] at hafter
        exact (ih ht).trans hafter
      · -- Nothing has concerned the new session before: its moves begin with this happening.
        rcases hact.run_added hnew with ⟨hid, hconcerns, -, hundertaken, hbegins⟩
        have hfresh : s.connection.id ∉ g.ids := by
          intro hmem
          exact absurd (hn.lt_nextId hmem) (by omega)
        rcases hrun.nothing_of_not_mem_ids hfresh with ⟨hmoves, hdone, hlive⟩
        rw [hmoves, hdone, hlive, hconcerns, hundertaken, ← hcapacity]
        exact hbegins

end Hub
end Gatehouse
