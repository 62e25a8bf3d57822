import Gatehouse.Proofs.Relay.Order
import Gatehouse.Proofs.Relay.Registry

/-!
# Fan-out

An event that is published is offered to every registered connection.  Each makes of it what
it would make of it if there were no other: what becomes of a connection depends on what
concerns it alone, and publishing counts each connection that the event concerns once, by what
its own queue made of the event.

Main results:

- Theorem {lit}`Hub.publish_eq_ofOffers`: what publishing counts.
- Theorem {lit}`Hub.Run.lone_iff`: where the moves that concern a connection lead.
- Theorem {lit}`Hub.Run.fans_out`: every run treats each connection on its own.
-/

namespace Gatehouse

/-! ## What becomes of an event -/

/-- What the queue of a connection makes of an event. -/
def Connection.outcome (c : Connection) (e : Event) : Offer :=
  (c.queue.pushEvent e c.state.key?.isSome).2

/-- An event is put into the queue of an open connection that it concerns. -/
theorem Connection.offerEvent_delivery (c : Connection) (e : Event) :
    (c.offerEvent e).2 =
      if c.isClosed || !e.isFor c.state.key? then .skipped else .offered (c.outcome e) := by
  unfold offerEvent outcome
  split <;> rfl

/-- The outcome of an event that concerns the connection. -/
def Delivery.offer? : Delivery → Option Offer
  | .skipped => none
  | .offered offer => some offer

namespace Fanout

/-- How many connections took an event. -/
def total (f : Fanout) : Nat := f.queued + f.resyncs + f.truncated

/-- The counts of some outcomes. -/
def ofOffers (offers : List Offer) : Fanout :=
  ⟨offers.count .queued, offers.count .resync, offers.count .truncated⟩

/-- Each outcome is counted once. -/
theorem total_ofOffers (offers : List Offer) : (ofOffers offers).total = offers.length := by
  unfold total ofOffers
  induction offers with
  | nil => rfl
  | cons offer offers ih =>
      simp only at ih
      cases offer <;> simp <;> omega

/-- Outcomes are counted one after another. -/
theorem foldl_count (deliveries : List Delivery) (f : Fanout) :
    deliveries.foldl count f =
      let more := ofOffers (deliveries.filterMap Delivery.offer?)
      ⟨f.queued + more.queued, f.resyncs + more.resyncs, f.truncated + more.truncated⟩ := by
  induction deliveries generalizing f with
  | nil => rfl
  | cons delivery deliveries ih =>
      rw [List.foldl_cons, ih]
      cases delivery with
      | skipped => rfl
      | offered offer =>
          cases offer <;> simp [count, Delivery.offer?, ofOffers] <;> omega

/-- Counting begins with nothing. -/
theorem foldl_count_none (deliveries : List Delivery) :
    deliveries.foldl count none = ofOffers (deliveries.filterMap Delivery.offer?) := by
  rw [foldl_count]
  simp [none]

end Fanout

namespace Hub

variable {h : Hub} {xs : List Happening} {n : Nat}

/-- The sessions of the registered connections that an event concerns. -/
def takers (h : Hub) (e : Event) : List Session :=
  h.sessions.filter fun s => h.isLive s.connection.id && e.isFor s.connection.state.key?

/-- Publishing counts what becomes of the event at each registered connection. -/
theorem publish_counts (h : Hub) (e : Event) :
    (h.publish e).2 = (h.sessions.map fun s =>
      if h.isLive s.connection.id then (s.connection.offerEvent e).2
      else .skipped).foldl Fanout.count .none := by
  simp only [publish, List.map_map]
  congr 2
  funext s
  simp only [Function.comp_apply]
  split <;> rfl

/-- If the registered connections are open, publishing counts what the queues of those that
the event concerns make of it. -/
theorem publish_eq_ofOffers (hopen : ∀ s ∈ h.sessions, h.isLive s.connection.id = true →
      s.connection.state ≠ .closed) (e : Event) :
    (h.publish e).2 = .ofOffers ((h.takers e).map fun s => s.connection.outcome e) := by
  have hdeliveries : ∀ s ∈ h.sessions,
      (if h.isLive s.connection.id then (s.connection.offerEvent e).2 else .skipped) =
        if h.isLive s.connection.id && e.isFor s.connection.state.key? then
          .offered (s.connection.outcome e)
        else .skipped := by
    intro s hs
    cases hlive : h.isLive s.connection.id with
    | false => rfl
    | true =>
        -- The connection is open and so passes over the event only if it is not concerned.
        rw [Connection.offerEvent_delivery, Connection.isClosed_eq_false.2 (hopen s hs hlive)]
        cases e.isFor s.connection.state.key? <;> rfl
  rw [publish_counts, List.map_congr_left hdeliveries, Fanout.foldl_count_none,
    List.filterMap_map, takers, ← List.filterMap_eq_map, List.filterMap_filter]
  congr 2
  funext s
  simp only [Function.comp_apply]
  split <;> rfl

/-! ## A connection on its own -/

/-- A new session has room for one frame at least, whatever is asked for. -/
theorem accept_max (id n : Nat) (identity : Identity) :
    Session.accept id identity (max 1 n) = .accept id identity n := by
  have hroom : max 1 (max 1 n) = max 1 n := Nat.max_eq_right (Nat.le_max_left 1 n)
  simp only [Session.accept, Connection.accept, Queue.ofCapacity, hroom]

/-- The moves that concern a connection, and they alone, lead a connection on its own to where
it is in the hub, and its delivery loop undertakes the same. -/
theorem Run.lone_iff (hrun : Run (ofCapacity n) xs h) {s : Session} (hs : s ∈ h.sessions)
    {done : List Undertaking} {t : Session} :
    Session.Run (.accept s.connection.id s.connection.identity n)
        (Happening.movesOf s.connection.id false xs) done t ↔
      done = Happening.undertakenBy s.connection.id xs ∧ t = s.unattended := by
  have hlone := hrun.alone_from_start hs
  rw [accept_max] at hlone
  constructor
  · intro hother
    exact hother.deterministic hlone
  · rintro ⟨rfl, rfl⟩
    exact hlone

/-- In every run each connection is where a connection on its own is led by the moves that
concern it, in the same order, and what its delivery loop has undertaken is the same.
Publishing then counts each registered connection that the event concerns once, by what its
own queue makes of the event. -/
theorem Run.fans_out (hrun : Run (ofCapacity n) xs h) :
    (∀ s ∈ h.sessions, ∀ done t,
      Session.Run (.accept s.connection.id s.connection.identity n)
          (Happening.movesOf s.connection.id false xs) done t ↔
        done = Happening.undertakenBy s.connection.id xs ∧ t = s.unattended) ∧
      ∀ e, (h.publish e).2 = .ofOffers ((h.takers e).map fun s => s.connection.outcome e) ∧
        (h.publish e).2.total = (h.takers e).length := by
  refine ⟨fun s hs done t => hrun.lone_iff hs, fun e => ?_⟩
  have hopen : ∀ s ∈ h.sessions, h.isLive s.connection.id = true →
      s.connection.state ≠ .closed := by
    intro s hs hlive hclosed
    rw [hrun.closed_iff hs, hlive] at hclosed
    contradiction
  have hcounts := publish_eq_ofOffers hopen e
  refine ⟨hcounts, ?_⟩
  rw [hcounts, Fanout.total_ofOffers, List.length_map]

/-! ### An event for three connections -/

/-- What has happened to three connections with room for one frame each: a message waits at
the first, the second is subscribed and the third is closed. -/
def arrivals : List Happening :=
  [.register ⟨"ada", none, [], .empty⟩ 1, .announce .pong,
    .register ⟨"bob", none, [], .empty⟩ 2, .register ⟨"eve", none, [], .empty⟩ 3,
    .subscribe 2 "k" none, .close 3]

/-- The hub after that. -/
def gathered : Hub :=
  ⟨1, .ofNat 0,
    [(Session.accept 1 ⟨"ada", none, [], .empty⟩ 1).onConnection fun c =>
        (c.offerControl .pong).1,
      (Session.accept 2 ⟨"bob", none, [], .empty⟩ 1).onConnection fun c =>
        (c.subscribe "k" none).1,
      (Session.accept 3 ⟨"eve", none, [], .empty⟩ 1).onConnection .close],
    [1, 2]⟩

theorem arrivals_run : Run (ofCapacity 1) arrivals gathered :=
  .tail (.tail (.tail (.tail (.tail (.tail (.refl _) (.register _)) (.announce _))
    (.register _)) (.register _)) (.subscribe 2 "k" none)) (.close 3)

/-- The first gives up what waits for the notice, at the second it waits, and the third is not
counted; the first has gone through what concerns it alone. -/
theorem Run.fans_out_of_gathered :
    (gathered.publish (.broadcast "notice" (.ofNat 6) default)).2 = ⟨1, 0, 1⟩ ∧
      (gathered.takers (.broadcast "notice" (.ofNat 6) default)).length = 2 ∧
      Session.Run (.accept 1 ⟨"ada", none, [], .empty⟩ 1) [.operation (.control .pong)] []
        ((Session.accept 1 ⟨"ada", none, [], .empty⟩ 1).onConnection fun c =>
          (c.offerControl .pong).1) := by
  rcases arrivals_run.fans_out with ⟨hlone, hcounts⟩
  have hpublished : (gathered.publish (.broadcast "notice" (.ofNat 6) default)).2 = ⟨1, 0, 1⟩ :=
    rfl
  refine ⟨hpublished, ?_, (hlone _ List.mem_cons_self _ _).2 ⟨rfl, rfl⟩⟩
  rw [← (hcounts _).2, hpublished]
  rfl

end Hub
end Gatehouse
