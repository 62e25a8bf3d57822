import Gatehouse.Proofs.Message.ReadBack
import Gatehouse.Proofs.Relay.Fanout
import Gatehouse.Proofs.Relay.Inflow

/-!
# What is forwarded

A frame of the change feed is not passed on as it came: the event that it holds is put into the
queues of the connections that it concerns, and written anew for each.  Whoever reads what is
written has the event that came in.

Main results:

- Theorem {lit}`Queue.mem_pushEvent`: what waits in a queue behind an event.
- Theorem {lit}`Hub.mem_ingest`: what waits at the connections behind a frame.
- Theorem {lit}`Hub.frames_read_back`: every frame that is written reads back, and an event that
  is forwarded stays what it was.
-/

namespace Gatehouse

/-- An event that is put into a queue adds nothing but itself. -/
theorem Queue.mem_pushEvent {q : Queue} {e : Event} {resyncable : Bool} {o : Outbound}
    (h : o ∈ (q.pushEvent e resyncable).1.items) : o ∈ q.items ∨ o = .event e := by
  unfold pushEvent at h
  split at h
  · exact .inl h
  split at h
  · unfold overflow at h
    dsimp only at h
    split at h
    · exact absurd h List.not_mem_nil
    split at h
    · exact absurd h List.not_mem_nil
    · exact .inr (List.mem_singleton.1 h)
  · rcases List.mem_append.1 h with hbefore | hlast
    · exact .inl hbefore
    · exact .inr (List.mem_singleton.1 hlast)

/-- An event that is offered to a connection adds nothing to what waits there but itself. -/
theorem Connection.mem_offerEvent {c : Connection} {e : Event} {o : Outbound}
    (h : o ∈ (c.offerEvent e).1.queue.items) : o ∈ c.queue.items ∨ o = .event e := by
  unfold offerEvent at h
  split at h
  · exact .inl h
  · exact Queue.mem_pushEvent h

namespace Hub

variable {h : Hub} {e : Event} {frame : String}

/-- A frame is taken in by publishing the event that it holds. -/
theorem ingest_decoded (hdecode : Event.decode frame = .ok e) :
    (h.ingest frame).1 = (h.publish e).1 := by
  simp only [ingest, hdecode]

/-- A frame adds nothing to what waits at the connections but the event that it holds. -/
theorem mem_ingest (hdecode : Event.decode frame = .ok e) {s : Session}
    (hs : s ∈ (h.ingest frame).1.sessions) {o : Outbound} (ho : o ∈ s.connection.queue.items) :
    (∃ t ∈ h.sessions, t.connection.id = s.connection.id ∧ o ∈ t.connection.queue.items) ∨
      o = .event e := by
  rw [ingest_decoded hdecode, publish_sessions] at hs
  rcases List.mem_map.1 hs with ⟨t, ht, rfl⟩
  by_cases hlive : h.isLive t.connection.id = true
  · rw [if_pos hlive] at ho ⊢
    rcases Connection.mem_offerEvent ho with hbefore | hnew
    · exact .inl ⟨t, ht, (t.connection.offerEvent_client e).1.symm, hbefore⟩
    · exact .inr hnew
  · rw [if_neg hlive] at ho ⊢
    exact .inl ⟨t, ht, rfl, ho⟩

/-- Frames read back.  Each event that occurred in a year of four digits, each frame from a client
and each frame to a client is decoded from the text that encodes it, provided that the text is
nested no further than a reading allows and no number of a payload or resource is kept as a
double, as a number with a fraction or beyond 64 bits is.  What is decoded from a frame of the
change feed is never nested too far.  So whatever frame an event came in, each text that is put
into a queue for it is decoded to the same event: its class, key, sequence number, payload and
time are what they were, and so are the connections that it concerns. -/
theorem frames_read_back :
    (∀ e : Event, e.Kept → 0 ≤ e.occurredAt.day.year ∧ e.occurredAt.day.year ≤ 9999 →
      (∀ n ∈ e.payload.numbers, n.IsWhole) → e.toJson.depth < Json.nestingLimit →
      Event.decode e.encode = .ok e) ∧
    (∀ m : ClientMessage, ClientMessage.decode m.encode = .ok m) ∧
    (∀ m : ServerMessage, m.Kept → (∀ n ∈ m.toJson.numbers, n.IsWhole) →
      m.toJson.depth < Json.nestingLimit → ServerMessage.decode m.encode = .ok m) ∧
    ∀ (h : Hub) (frame : String) (e : Event), Event.decode frame = .ok e →
      0 ≤ e.occurredAt.day.year ∧ e.occurredAt.day.year ≤ 9999 →
      (∀ n ∈ e.payload.numbers, n.IsWhole) →
      ∀ s ∈ (h.ingest frame).1.sessions, ∀ o ∈ s.connection.queue.items,
        (∃ t ∈ h.sessions, t.connection.id = s.connection.id ∧
          o ∈ t.connection.queue.items) ∨
        Event.decode o.text = .ok e := by
  refine ⟨fun e => Event.decode_encode, ClientMessage.decode_encode,
    fun m => ServerMessage.decode_encode, ?_⟩
  intro h frame e hdecode hyear hwhole s hs o ho
  rcases Event.kept_of_decode hdecode with ⟨hkept, hdepth⟩
  rcases mem_ingest hdecode hs ho with hbefore | rfl
  · exact .inl hbefore
  · exact .inr (Event.decode_encode hkept hyear hwhole hdepth)

/-! ### A leap second -/

/-- An event at the end of a leap second, for the key of a connection. -/
def leap : Event :=
  ⟨"moved", .keyed, some "k", .ofNat 18446744073709551615,
    .object [("a", .string "\"\\\n"), ("b", .array [.null, .number (.negative 1)])],
    ⟨⟨2016, 12, 31⟩, 86399, 1999999999⟩⟩

/-- The event reads back from its text, and so it does from the text that is forwarded to the
connection that is subscribed to its key; a request and the answer to it read back, too. -/
theorem frames_read_back_of_leap :
    Event.decode leap.encode = .ok leap ∧
      ClientMessage.decode (ClientMessage.subscribe "k" (some leap.seq)).encode =
        .ok (.subscribe "k" (some leap.seq)) ∧
      ServerMessage.decode (ServerMessage.snapshot "k" leap.payload leap.seq).encode =
        .ok (.snapshot "k" leap.payload leap.seq) ∧
      ∃ s ∈ (gathered.ingest leap.encode).1.sessions, s.connection.state = .subscribed "k" ∧
        ∃ o, s.connection.queue.items = [o] ∧ Event.decode o.text = .ok leap := by
  rcases frames_read_back with ⟨hevent, hclient, hserver, hrelay⟩
  have hpayload : leap.payload.Kept := ⟨rfl, by decide⟩
  have hread : Event.decode leap.encode = .ok leap :=
    hevent leap ⟨hpayload, by decide⟩ (by decide) (by decide) (by decide)
  refine ⟨hread, hclient _, hserver _ hpayload (by decide) (by decide), ?_⟩
  have hnone : ∀ t ∈ gathered.sessions, .event leap ∉ t.connection.queue.items := by
    intro t ht
    simp only [gathered, List.mem_cons, List.not_mem_nil, or_false] at ht
    rcases ht with rfl | rfl | rfl <;> rintro ⟨⟩
    contradiction
  have hwaits : ∃ s ∈ (gathered.publish leap).1.sessions,
      s.connection.state = .subscribed "k" ∧ s.connection.queue.items = [.event leap] :=
    ⟨_, List.mem_cons_of_mem _ List.mem_cons_self, rfl, rfl⟩
  rcases hwaits with ⟨s, hs, hstate, hitems⟩
  rw [← ingest_decoded hread] at hs
  refine ⟨s, hs, hstate, .event leap, hitems, ?_⟩
  have hmem : .event leap ∈ s.connection.queue.items := hitems ▸ List.mem_cons_self
  rcases hrelay gathered _ leap hread (by decide) (by decide) s hs _ hmem with
    ⟨t, ht, -, hbefore⟩ | hforwarded
  · exact absurd hbefore (hnone t ht)
  · exact hforwarded

end Hub
end Gatehouse
