import Gatehouse.Relay.Intake
import Gatehouse.Proofs.Relay.Registry

/-!
# What flows in

The loop that takes in the change feed tries to subscribe, listens, waits and tries again, and can
be stopped at any time.  Whatever its attempts meet, it takes in each frame that it is told when
it is told, once, and does nothing else to the hub.  So the hub is where it would be if the frames
had come without a break, and frames that are no events make no difference.

Main results:

- Theorem {lit}`Hub.publishAll_standing`: events register, close and subscribe nobody.
- Theorem {lit}`Intake.foldl_next_hub`: what becomes of the hub in any course of the loop.
- Theorem {lit}`Intake.hears_course`: the loop can go through every script.
- Theorem {lit}`Intake.folds_frames`: what becomes of the hub in a script, whenever it is cut
  off.
-/

namespace Gatehouse

/-! ## Frames one after another -/

/-- The event that a frame holds, if it holds one. -/
def Event.ofFrame? (frame : String) : Option Event := (Event.decode frame).toOption

/-- The later of two sequence numbers is the larger number. -/
theorem Seq.val_latest (a b : Seq) : (latest a b).val = max a.val b.val := by
  unfold latest
  split
  · rename_i hle
    exact (Nat.max_eq_right (Fin.le_def.1 hle)).symm
  · rename_i hlt
    exact (Nat.max_eq_left (Nat.le_of_lt (Fin.lt_def.1 (Fin.not_le.1 hlt)))).symm

/-- An event changes no subscription. -/
theorem Connection.offerEvent_client (c : Connection) (e : Event) :
    (c.offerEvent e).1.id = c.id ∧ (c.offerEvent e).1.identity = c.identity ∧
      (c.offerEvent e).1.state = c.state := by
  unfold offerEvent
  split <;> exact ⟨rfl, rfl, rfl⟩

namespace Hub

/-- Takes in frames one after another. -/
def ingestAll (h : Hub) (frames : List String) : Hub :=
  frames.foldl (fun h frame => (h.ingest frame).1) h

/-- Publishes events one after another. -/
def publishAll (h : Hub) (events : List Event) : Hub :=
  events.foldl (fun h e => (h.publish e).1) h

/-- Who the connections are and what they are subscribed to. -/
def standing (h : Hub) : List (Nat × Identity × ConnectionState) :=
  h.sessions.map fun s => (s.connection.id, s.connection.identity, s.connection.state)

variable (h : Hub)

@[simp]
theorem ingestAll_nil : h.ingestAll [] = h :=
  rfl

theorem ingestAll_cons (frame : String) (frames : List String) :
    h.ingestAll (frame :: frames) = (h.ingest frame).1.ingestAll frames :=
  rfl

theorem ingestAll_append (frames more : List String) :
    h.ingestAll (frames ++ more) = (h.ingestAll frames).ingestAll more :=
  List.foldl_append

@[simp]
theorem publishAll_nil : h.publishAll [] = h :=
  rfl

theorem publishAll_cons (e : Event) (events : List Event) :
    h.publishAll (e :: events) = (h.publish e).1.publishAll events :=
  rfl

/-- A frame is taken in by publishing the event that it holds. -/
theorem ingest_eq_publishAll (frame : String) :
    (h.ingest frame).1 = h.publishAll (Event.ofFrame? frame).toList := by
  unfold Event.ofFrame?
  cases hdecode : Event.decode frame with
  | ok e => simp [ingest, hdecode, Except.toOption, publishAll]
  | error fault => simp [ingest_malformed hdecode, Except.toOption]

/-- Frames are taken in by publishing the events among them. -/
theorem ingestAll_eq_publishAll (frames : List String) :
    h.ingestAll frames = h.publishAll (frames.filterMap Event.ofFrame?) := by
  induction frames generalizing h with
  | nil => rfl
  | cons frame frames ih =>
      rw [ingestAll_cons, ih, ingest_eq_publishAll, List.filterMap_cons]
      cases Event.ofFrame? frame <;> rfl

/-- Publishing registers, closes and subscribes nobody. -/
theorem publish_standing (e : Event) :
    (h.publish e).1.standing = h.standing := by
  unfold standing
  rw [publish_sessions, List.map_map]
  refine List.map_congr_left fun s _ => ?_
  rcases s.connection.offerEvent_client e with ⟨hid, hidentity, hstate⟩
  simp only [Function.comp_apply]
  split
  · simp [hid, hidentity, hstate]
  · rfl

/-- Events register, close and subscribe nobody, however many they are. -/
theorem publishAll_standing (events : List Event) :
    (h.publishAll events).live = h.live ∧ (h.publishAll events).standing = h.standing := by
  induction events generalizing h with
  | nil => exact ⟨rfl, rfl⟩
  | cons e events ih =>
      rcases ih (h.publish e).1 with ⟨hlive, hstanding⟩
      exact ⟨hlive, hstanding.trans (h.publish_standing e)⟩

/-- The last sequence number is the largest so far. -/
theorem publishAll_lastSeq (events : List Event) :
    some (h.publishAll events).lastSeq.val =
      (h.lastSeq.val :: events.map fun e => e.seq.val).max? := by
  induction events generalizing h with
  | nil => rfl
  | cons e events ih =>
      have hpublished : (h.publish e).1.lastSeq.val = max h.lastSeq.val e.seq.val :=
        Seq.val_latest _ _
      rw [publishAll_cons, ih, hpublished, List.map_cons, List.max?_cons', List.max?_cons',
        List.foldl_cons]

end Hub

/-! ## What can be told -/

/-- What can be told at a stage. -/
inductive Stage.Hears : Stage → Tiding → Prop where
  | refused : Hears .connecting .refused
  | accepted : Hears .connecting .accepted
  | frame (text : String) : Hears .subscribed (.frame text)
  | lost : Hears .subscribed .lost
  | elapsed (wait : Duration) : Hears (.waiting wait) .elapsed
  | shutdown {stage : Stage} (hgoing : stage ≠ .stopped) : Hears stage .shutdown

namespace Intake

/-- Whether the loop can be told one thing after another. -/
def Hears (i : Intake) : List Tiding → Prop
  | [] => True
  | t :: rest => i.stage.Hears t ∧ (i.next t).Hears rest

variable {i : Intake} {told more : List Tiding}

theorem hears_append :
    i.Hears (told ++ more) ↔ i.Hears told ∧ (told.foldl next i).Hears more := by
  induction told generalizing i with
  | nil => simp [Hears]
  | cons t rest ih => simp [Hears, ih, and_assoc]

@[simp]
theorem next_shutdown_hub (i : Intake) : (i.next .shutdown).hub = i.hub := by
  rcases i with ⟨hub, backoff, stage⟩
  cases stage <;> rfl

@[simp]
theorem next_shutdown_stage (i : Intake) : (i.next .shutdown).stage = .stopped := by
  rcases i with ⟨hub, backoff, stage⟩
  cases stage <;> rfl

/-- Of what the loop is told, the hub takes in a frame and nothing else. -/
theorem next_hub {t : Tiding} (h : i.stage.Hears t) :
    (i.next t).hub = i.hub.ingestAll t.frame?.toList := by
  rcases i with ⟨hub, backoff, stage⟩
  cases h with
  | refused => rfl
  | accepted => rfl
  | frame text => rfl
  | lost => rfl
  | elapsed wait => rfl
  | shutdown hgoing => exact next_shutdown_hub _

/-- In any course of the loop the hub takes in the frames that are told, in order. -/
theorem foldl_next_hub (h : i.Hears told) :
    (told.foldl next i).hub = i.hub.ingestAll (told.filterMap Tiding.frame?) := by
  induction told generalizing i with
  | nil => rfl
  | cons t rest ih =>
      rcases h with ⟨hnow, hlater⟩
      rw [List.foldl_cons, ih hlater, next_hub hnow, List.filterMap_cons]
      cases t.frame? <;> rfl

/-- A loop that is stopped stays as it is. -/
theorem foldl_next_stopped (h : i.stage = .stopped) (later : List Tiding) :
    later.foldl next i = i := by
  induction later with
  | nil => rfl
  | cons t rest ih => rw [List.foldl_cons, next_stopped h, ih]

/-! ## What is told in a script -/

/-- A subscription can yield its frames, and goes on after them. -/
theorem hears_frames (h : i.stage = .subscribed) (frames : List String) :
    i.Hears (frames.map .frame) ∧ ((frames.map .frame).foldl next i).stage = .subscribed := by
  induction frames generalizing i with
  | nil => exact ⟨trivial, h⟩
  | cons text rest ih =>
      have hnow : i.stage.Hears (.frame text) := by
        rw [h]
        exact .frame text
      have hgoing : (i.next (.frame text)).stage = .subscribed := by
        rcases i with ⟨hub, backoff, stage⟩
        cases h
        rfl
      rcases ih hgoing with ⟨hlater, hafter⟩
      exact ⟨⟨hnow, hlater⟩, hafter⟩

/-- After a subscription that is lost the loop waits. -/
theorem hears_lost (h : i.stage = .subscribed) :
    i.stage.Hears .lost ∧ ∃ wait, (i.next .lost).stage = .waiting wait := by
  rcases i with ⟨hub, backoff, stage⟩
  cases h
  exact ⟨.lost, _, rfl⟩

/-- A subscription can go as its script says, and the loop waits after it if it is lost. -/
theorem hears_subscription (h : i.stage = .subscribed) (s : Subscription) :
    i.Hears (s.tidings.map Prod.snd) ∧
      (s.lasts.isSome = true →
        ∃ wait, ((s.tidings.map Prod.snd).foldl next i).stage = .waiting wait) := by
  have hframes : (s.frames.map fun step => (step.1, Tiding.frame step.2)).map Prod.snd =
      (s.frames.map Prod.snd).map .frame := by
    rw [List.map_map, List.map_map]
    rfl
  rcases hears_frames h (s.frames.map Prod.snd) with ⟨hyields, hafter⟩
  rw [Subscription.tidings, List.map_append, hframes, hears_append, List.foldl_append]
  cases s.lasts with
  | none => exact ⟨⟨hyields, trivial⟩, by simp⟩
  | some gap =>
      rcases hears_lost hafter with ⟨hlost, hwaits⟩
      exact ⟨⟨hyields, hlost, trivial⟩, fun _ => hwaits⟩

/-- An attempt can go as its script says, and the loop waits after it if it is over. -/
theorem hears_attempt (h : i.stage = .connecting) (a : Attempt) :
    i.Hears (a.tidings.map Prod.snd) ∧
      (a.isOver = true →
        ∃ wait, ((a.tidings.map Prod.snd).foldl next i).stage = .waiting wait) := by
  rcases i with ⟨hub, backoff, stage⟩
  cases h
  unfold Attempt.tidings Attempt.isOver
  cases a.subscription with
  | none => exact ⟨⟨.refused, trivial⟩, fun _ => ⟨_, rfl⟩⟩
  | some s =>
      have hsubscribed : (Intake.next ⟨hub, backoff, .connecting⟩ .accepted).stage = .subscribed :=
        rfl
      rcases hears_subscription hsubscribed s with ⟨hgoes, hwaits⟩
      exact ⟨⟨.accepted, hgoes⟩, hwaits⟩

/-- The loop can go through every script. -/
theorem hears_course (h : i.stage = .connecting) (attempts : List Attempt) :
    i.Hears ((Attempt.course attempts).map Prod.snd) := by
  induction attempts generalizing i with
  | nil => trivial
  | cons a rest ih =>
      rcases hears_attempt h a with ⟨hgoes, hwaits⟩
      rw [Attempt.course, List.map_append, hears_append]
      refine ⟨hgoes, ?_⟩
      split
      · rename_i hover
        rcases hwaits hover with ⟨wait, hwaiting⟩
        generalize (a.tidings.map Prod.snd).foldl next i = j at hwaiting
        rcases j with ⟨hub, backoff, stage⟩
        cases hwaiting
        exact ⟨.elapsed wait, ih rfl⟩
      · trivial

end Intake

namespace Attempt

/-- The frames of the subscription, if the attempt succeeds. -/
def frames (a : Attempt) : List String :=
  (a.subscription.map fun s => s.frames.map Prod.snd).getD []

/-- The attempts that are made: those up to the first that never comes to an end. -/
def reached : List Attempt → List Attempt
  | [] => []
  | a :: rest => a :: if a.isOver then reached rest else []

/-- The frames among the first things that are told in some attempts. -/
def framesWithin (attempts : List Attempt) (count : Nat) : List String :=
  (((course attempts).take count).map Prod.snd).filterMap Tiding.frame?

/-- In an attempt the frames of its subscription are told. -/
theorem tidings_frames (a : Attempt) :
    (a.tidings.map Prod.snd).filterMap Tiding.frame? = a.frames := by
  have hframes (gaps : List (Nat × String)) :
      (gaps.map fun step => (step.1, Tiding.frame step.2)).filterMap
          (Tiding.frame? ∘ Prod.snd) = gaps.map Prod.snd := by
    rw [List.filterMap_map, ← List.filterMap_eq_map]
    rfl
  rw [List.filterMap_map, tidings, frames]
  cases a.subscription with
  | none => rfl
  | some s =>
      rw [List.filterMap_cons_none (by rfl), Subscription.tidings, List.filterMap_append, hframes]
      cases s.lasts <;> simp [Tiding.frame?]

/-- In a script the frames of the attempts that are made are told, one attempt after another. -/
theorem course_frames (attempts : List Attempt) :
    ((course attempts).map Prod.snd).filterMap Tiding.frame? =
      (reached attempts).flatMap frames := by
  induction attempts with
  | nil => rfl
  | cons a rest ih =>
      rw [course, reached, List.map_append, List.filterMap_append, tidings_frames,
        List.flatMap_cons]
      split
      · rw [List.map_cons, List.filterMap_cons_none (by rfl), ih]
      · rfl

/-- The frames that are told before a script is cut off are the first of all. -/
theorem framesWithin_prefix (attempts : List Attempt) (count : Nat) :
    framesWithin attempts count <+: (reached attempts).flatMap frames := by
  rw [← course_frames]
  exact ((List.take_prefix count _).map _).filterMap _

end Attempt

/-! ## The hub in a script -/

namespace Intake

variable (i : Intake) (attempts : List Attempt)

/-- The loop is told what the script says, whatever the times. -/
theorem moments_map_snd (now : Nat) (script : List (Nat × Tiding)) :
    (i.moments now script).map Prod.snd = script.map Prod.snd := by
  induction script generalizing i now with
  | nil => rfl
  | cons step rest ih =>
      rcases step with ⟨gap, t⟩
      rw [moments, List.map_cons, ih, List.map_cons]

/-- What is told before a deadline comes first in the script. -/
theorem toldBefore_map_snd (deadline : Nat) :
    (i.toldBefore deadline attempts).map Prod.snd =
      ((Attempt.course attempts).take (i.toldBefore deadline attempts).length).map Prod.snd := by
  have hfirst : i.toldBefore deadline attempts <+: i.moments 0 (Attempt.course attempts) :=
    List.takeWhile_prefix _
  calc (i.toldBefore deadline attempts).map Prod.snd
      = ((i.moments 0 (Attempt.course attempts)).take
          (i.toldBefore deadline attempts).length).map Prod.snd :=
        congrArg _ (List.prefix_iff_eq_take.1 hfirst)
    _ = ((Attempt.course attempts).take
          (i.toldBefore deadline attempts).length).map Prod.snd := by
        rw [List.map_take, moments_map_snd, List.map_take]

variable {i}

/-- A loop that is cut off in a script leaves the hub as the frames before that do. -/
theorem cut_hub (h : i.stage = .connecting) (count : Nat) :
    (i.cut attempts count).hub = i.hub.ingestAll (Attempt.framesWithin attempts count) := by
  have hall := i.hears_course h attempts
  rw [← List.take_append_drop count (Attempt.course attempts), List.map_append,
    hears_append] at hall
  rw [cut, next_shutdown_hub, foldl_next_hub hall.1]
  rfl

/-- Whatever the attempts meet and whenever the loop is stopped, the hub has taken in the frames
that were told before, each once and in order; they are the first of the frames that the
subscriptions yield one after another.  The hub is where the events among them lead, its last
sequence number is the largest of theirs or the one before, and nobody is registered, closed or
subscribed.  Nothing is taken in afterwards.  With a deadline, what is told before is what is told
at an earlier time. -/
theorem folds_frames (hub : Hub) (backoff : Backoff) (attempts : List Attempt) :
    (∀ count,
      let i := (start hub backoff).cut attempts count
      let frames := Attempt.framesWithin attempts count
      i.hub = hub.ingestAll frames ∧
      frames <+: (Attempt.reached attempts).flatMap Attempt.frames ∧
      i.hub = hub.publishAll (frames.filterMap Event.ofFrame?) ∧
      some i.hub.lastSeq.val =
        (hub.lastSeq.val :: (frames.filterMap Event.ofFrame?).map fun e => e.seq.val).max? ∧
      i.hub.live = hub.live ∧ i.hub.standing = hub.standing ∧
      ∀ later : List Tiding, later.foldl next i = i) ∧
    Attempt.framesWithin attempts (Attempt.course attempts).length =
      (Attempt.reached attempts).flatMap Attempt.frames ∧
    ∀ deadline, ((start hub backoff).run deadline attempts).hub =
      hub.ingestAll ((((start hub backoff).toldBefore deadline attempts).map
        Prod.snd).filterMap Tiding.frame?) := by
  refine ⟨?_, ?_, ?_⟩
  · intro count i frames
    have hhub : i.hub = hub.ingestAll frames := cut_hub (i := start hub backoff) attempts rfl count
    have hevents : i.hub = hub.publishAll (frames.filterMap Event.ofFrame?) :=
      hhub.trans (hub.ingestAll_eq_publishAll frames)
    rcases hub.publishAll_standing (frames.filterMap Event.ofFrame?) with ⟨hlive, hstanding⟩
    refine ⟨hhub, Attempt.framesWithin_prefix attempts count, hevents, ?_, ?_, ?_, ?_⟩
    · rw [hevents]
      exact hub.publishAll_lastSeq _
    · rw [hevents, hlive]
    · rw [hevents, hstanding]
    · exact foldl_next_stopped (next_shutdown_stage _)
  · rw [Attempt.framesWithin, List.take_length, Attempt.course_frames]
  · intro deadline
    have htold := (start hub backoff).toldBefore_map_snd attempts deadline
    rw [run, cut_hub (i := start hub backoff) attempts rfl, Attempt.framesWithin, ← htold]
    rfl

end Intake
end Gatehouse
