import Gatehouse.Proofs.Relay.FeedHistory

/-!
# A feed has no silent gaps

The streams of a feed read one ring, each at its own pace.  What a poll of one of them answers
depends on nothing but what happened before: the frames that were published since the stream was
opened, less those that it has read.  Either the next of them comes, or, if they are more than the
ring keeps, the stream is told how many are lost, and then ends.

Main results:

- Theorem {lit}`Channel.Tracks.step`: what the feed holds follows from what happened.
- Theorem {lit}`Channel.Tracks.poll_eq`: what a poll answers.
- Theorem {lit}`Channel.Run.no_silent_gap`: what the streams of a feed read.
-/

namespace Gatehouse
namespace Channel

variable {capacity index : Nat} {history : List Event} {e : Event} {c c' : Channel}
  {all : List String} {s s' : Stream}

/-! ## What a stream is like -/

/-- What a stream is like after all that happened, where the feed has kept some frames.  One that
reads has the rest of them before it. -/
inductive Stands (all : List String) (index : Nat) (history : List Event) : Stream → Prop where
  | reading {position : Nat} (hdropped : .dropped index ∉ history) (htold : ¬Told index history)
      (hposition : position ≤ all.length)
      (hsent : sentTo index history = yielded index history ++ all.drop position) :
      Stands all index history (.reading position)
  | told {s : Stream} (hs : s = .lagged ∨ s = .ended) (hdropped : .dropped index ∉ history)
      (htold : Told index history) (hyields : yielded index history <+: sentTo index history) :
      Stands all index history s
  | dropped (hdropped : .dropped index ∈ history)
      (hyields : yielded index history <+: sentTo index history) :
      Stands all index history .dropped

/-- A stream yields frames that were published since it was opened, in order. -/
theorem Stands.isPrefix (h : Stands all index history s) :
    yielded index history <+: sentTo index history := by
  cases h with
  | reading _ _ _ hsent => exact ⟨_, hsent.symm⟩
  | told _ _ _ hyields | dropped _ hyields => exact hyields

/-- What the feed keeps is of no interest to a stream that has ended or been dropped. -/
theorem Stands.of_unsubscribed (h : Stands all index history s) (hs : s.isSubscribed = false)
    (kept : List String) : Stands kept index history s := by
  cases h with
  | reading => exact nomatch hs
  | told hs hdropped htold hyields => exact .told hs hdropped htold hyields
  | dropped hdropped hyields => exact .dropped hdropped hyields

/-- What happens elsewhere leaves a stream where it stands; a frame that is published then is one
more that it has not read. -/
theorem Stands.append (h : Stands all index history s) (hconnected : .connected index ∈ history)
    (hother : e.index? ≠ some index) :
    Stands (all ++ e.frame?.toList) index (history ++ [e]) s := by
  rcases Event.of_unconcerned hother with ⟨hyield, hfinishes, hdrop⟩
  have htold : Told index (history ++ [e]) ↔ Told index history := by
    rw [told_append, hfinishes]
    simp
  have hdropped : .dropped index ∈ history ++ [e] ↔ .dropped index ∈ history := by
    simp [Ne.symm hdrop]
  have hyields := yielded_append_isPrefix hconnected hyield h.isPrefix
  cases h with
  | reading hd ht hposition hs =>
      refine .reading (mt hdropped.1 hd) (mt htold.1 ht) ?_ ?_
      · rw [List.length_append]
        exact Nat.le_trans hposition (Nat.le_add_right _ _)
      · rw [sentTo_append hconnected, yielded_append_of_no_yield hyield, hs,
          List.drop_append_of_le_length hposition, List.append_assoc]
  | told hs hd ht => exact .told hs (mt hdropped.1 hd) (htold.2 ht) hyields
  | dropped hd => exact .dropped (hdropped.2 hd) hyields

/-- What is no frame and happens elsewhere leaves a stream as it is. -/
theorem Stands.of_unconcerned (h : Stands all index history s)
    (hconnected : .connected index ∈ history) (hframe : e.frame? = none)
    (hother : e.index? ≠ some index) : Stands all index (history ++ [e]) s := by
  have hstands := h.append hconnected hother
  rwa [hframe, Option.toList_none, List.append_nil] at hstands

/-- A stream that is told that it lagged or has ended reads no further. -/
theorem Stands.finish {answer : Polled} (h : Stands all index history s)
    (hconnected : .connected index ∈ history) (hdropped : .dropped index ∉ history)
    (hanswer : (∃ skipped, answer = .lagged skipped) ∨ answer = .ended)
    (hs : s' = .lagged ∨ s' = .ended) :
    Stands all index (history ++ [.polled index answer]) s' := by
  have hfinishes : (Event.polled index answer).finishes index = true := by
    rcases hanswer with ⟨skipped, rfl⟩ | rfl <;> simp [Event.finishes]
  have hyield : (Event.polled index answer).yield? index = none := by
    rcases hanswer with ⟨skipped, rfl⟩ | rfl <;> rfl
  exact .told hs (by simpa using hdropped) (told_append.2 (.inr hfinishes))
    (yielded_append_isPrefix hconnected hyield h.isPrefix)

/-- What a stream that reads is like after a poll. -/
theorem Stands.read {position : Nat} {answer : Polled}
    (h : Stands all index history (.reading position)) (hconnected : .connected index ∈ history)
    (hread : c.Reads (all.drop position) position (s', answer)) :
    Stands all index (history ++ [.polled index answer]) s' := by
  have hkept := h
  cases h with
  | told hs => exact absurd hs (by simp)
  | reading hdropped htold hposition hsent =>
      have hdropped' : .dropped index ∉ history ++ [.polled index answer] := by simpa using hdropped
      have hsent' : sentTo index (history ++ [.polled index answer]) = sentTo index history :=
        sentTo_append_of_no_frame hconnected rfl
      cases hread with
      | behind => exact hkept.finish hconnected hdropped (.inl ⟨_, rfl⟩) (.inl rfl)
      | closed => exact hkept.finish hconnected hdropped (.inr rfl) (.inr rfl)
      | idle =>
          refine .reading hdropped' ?_ hposition ?_
          · simpa [told_append, Event.finishes] using htold
          · rw [hsent', yielded_append_of_no_yield rfl, hsent]
      | @next frame rest hunread =>
          have hrest : all.drop (position + 1) = rest := by
            rw [← List.drop_drop, hunread]
            rfl
          have hlength := congrArg List.length hunread
          rw [List.length_drop, List.length_cons] at hlength
          refine .reading hdropped' ?_ (by omega) ?_
          · simpa [told_append, Event.finishes] using htold
          · have hyield : (Event.polled index (.frame frame)).yield? index = some frame :=
              if_pos rfl
            rw [hsent', yielded_append, hyield, hsent, hunread, hrest]
            exact List.append_cons _ _ _

/-! ## What the feed holds -/

/-- What a feed holds after all that happened, where it has kept some frames. -/
structure Tracks (capacity : Nat) (history : List Event) (c : Channel) (all : List String) :
    Prop where
  capacity_eq : c.capacity = ceilPower capacity
  isOpen_iff : c.isOpen = true ↔ .shutDown ∉ history
  holds : c.Holds all
  connected : ∀ {index : Nat}, index < c.streams.length → .connected index ∈ history
  unopened : ∀ {index : Nat}, c.streams.length ≤ index → ∀ e ∈ history, e.index? ≠ some index
  stands : ∀ {index : Nat} {s : Stream}, c.streams[index]? = some s → Stands all index history s

/-- A new feed has no streams and holds no frames. -/
theorem tracks_ofCapacity (capacity : Nat) : Tracks capacity [] (ofCapacity capacity) [] where
  capacity_eq := rfl
  isOpen_iff := by simp [ofCapacity]
  holds := ⟨rfl, List.drop_nil.symm⟩
  connected h := absurd h (Nat.not_lt_zero _)
  unopened _ _ he := absurd he List.not_mem_nil
  stands h := nomatch h

/-- A stream of the feed was opened. -/
theorem Tracks.connected_of_get (h : Tracks capacity history c all)
    (hstream : c.streams[index]? = some s) : .connected index ∈ history :=
  h.connected (List.getElem?_eq_some_iff.1 hstream).1

/-- What does not concern a stream that was never opened does not open it. -/
theorem Tracks.unopened_append (h : Tracks capacity history c all)
    (hunopened : c.streams.length ≤ index) (hother : e.index? ≠ some index) :
    ∀ e' ∈ history ++ [e], e'.index? ≠ some index := by
  intro e' he'
  rcases List.mem_append.1 he' with hpast | hnow
  · exact h.unopened hunopened e' hpast
  · rwa [List.mem_singleton.1 hnow]

/-- A stream that becomes what it has to be leaves the others alone. -/
theorem Tracks.replace (h : Tracks capacity history c all) (he : e.index? = some index)
    (hopened : index < c.streams.length) (hstands : Stands all index (history ++ [e]) s') :
    Tracks capacity (history ++ [e]) { c with streams := c.streams.set index s' } all := by
  have hframe : e.frame? = none := by
    cases e with
    | connected | polled | dropped | shutDown => rfl
    | published => exact nomatch he
  have hshutdown : Event.shutDown ≠ e := by
    rintro rfl
    exact nomatch he
  refine ⟨h.capacity_eq, ?_, ⟨h.holds.published, h.holds.ring⟩, ?_, ?_, ?_⟩
  · simpa [hshutdown] using h.isOpen_iff
  · intro j hj
    rw [List.length_set] at hj
    exact List.mem_append_left _ (h.connected hj)
  · intro j hj
    rw [List.length_set] at hj
    refine h.unopened_append hj ?_
    rw [he, Ne, Option.some.injEq]
    omega
  · intro j s hj
    by_cases hsame : index = j
    · subst hsame
      rw [List.getElem?_set_self hopened, Option.some.injEq] at hj
      exact hj ▸ hstands
    · rw [List.getElem?_set_ne hsame] at hj
      refine (h.stands hj).of_unconcerned (h.connected_of_get hj) hframe ?_
      rwa [he, Ne, Option.some.injEq]

/-- A stream that is opened has everything before it that is published from then on. -/
theorem Tracks.connect (h : Tracks capacity history c all) :
    Tracks capacity (history ++ [.connected c.connect.2]) c.connect.1 all := by
  have hnew : Stands all c.streams.length (history ++ [.connected c.streams.length])
      (.reading c.published) := by
    have hnone := h.unopened (Nat.le_refl _)
    have hconnected : .connected c.streams.length ∉ history := fun hmem => hnone _ hmem rfl
    have hdropped : .dropped c.streams.length ∉ history := fun hmem => hnone _ hmem rfl
    have htold : ¬Told c.streams.length history := by
      rintro ⟨e, he, hfinishes⟩
      rw [(Event.of_unconcerned (hnone e he)).2.1] at hfinishes
      contradiction
    have hyielded := yielded_of_unconcerned hnone
    refine .reading (by simpa using hdropped) ?_ (Nat.le_of_eq h.holds.published) ?_
    · simpa [told_append, Event.finishes] using htold
    · rw [h.holds.published, List.drop_length, yielded_append_of_no_yield rfl, hyielded]
      exact sentTo_of_fresh hconnected
  have hlength : c.connect.1.streams.length = c.streams.length + 1 := List.length_append
  refine ⟨h.capacity_eq, ?_, ⟨h.holds.published, h.holds.ring⟩, ?_, ?_, ?_⟩
  · change c.isOpen = true ↔ _
    simpa using h.isOpen_iff
  · intro j hj
    rw [hlength] at hj
    rcases Nat.lt_succ_iff_lt_or_eq.1 hj with hold | rfl
    · exact List.mem_append_left _ (h.connected hold)
    · exact List.mem_append_right _ List.mem_cons_self
  · intro j hj
    rw [hlength] at hj
    refine h.unopened_append (Nat.le_of_succ_le hj) ?_
    exact fun hsame => absurd (Option.some.inj hsame) (Nat.ne_of_lt hj)
  · intro j s hj
    change (c.streams ++ [.reading c.published])[j]? = some s at hj
    rcases Nat.lt_trichotomy j c.streams.length with hold | rfl | hbeyond
    · rw [List.getElem?_append_left hold] at hj
      refine (h.stands hj).of_unconcerned (h.connected hold) rfl ?_
      exact fun hsame => absurd (Option.some.inj hsame) (Nat.ne_of_gt hold)
    · rw [List.getElem?_concat_length, Option.some.injEq] at hj
      exact hj ▸ hnew
    · rw [List.getElem?_eq_none (by rw [List.length_append]; exact hbeyond)] at hj
      contradiction

/-- A frame that is published is kept unless nobody subscribes. -/
theorem Tracks.publish (h : Tracks capacity history c all) (frame : String) :
    ∃ kept, Tracks capacity (history ++ [.published frame]) (c.publish frame).1 kept := by
  have hconnected : ∀ {j}, j < c.streams.length →
      .connected j ∈ history ++ [.published frame] :=
    fun hj => List.mem_append_left _ (h.connected hj)
  have hunopened : ∀ {j}, c.streams.length ≤ j →
      ∀ e ∈ history ++ [.published frame], e.index? ≠ some j :=
    fun hj => h.unopened_append hj (Option.some_ne_none _).symm
  have hopen : c.isOpen = true ↔ .shutDown ∉ history ++ [.published frame] := by
    simpa using h.isOpen_iff
  have hstands : ∀ {j s}, c.streams[j]? = some s →
      Stands (all ++ [frame]) j (history ++ [.published frame]) s := by
    intro j s hj
    have hother : (Event.published frame).index? ≠ some j := (Option.some_ne_none _).symm
    exact (h.stands hj).append (h.connected_of_get hj) hother
  by_cases hnobody : c.subscribers = 0
  · have hsame : (c.publish frame).1 = c := by rw [Channel.publish, if_pos hnobody]
    rw [hsame]
    refine ⟨all, h.capacity_eq, hopen, h.holds, hconnected, hunopened, fun hj => ?_⟩
    refine (hstands hj).of_unsubscribed ?_ all
    rw [subscribers, List.countP_eq_zero] at hnobody
    exact Bool.eq_false_iff.2 (hnobody _ (List.mem_of_getElem? hj))
  · have hholds := h.holds.publish frame hnobody
    have hrest : (c.publish frame).1.capacity = c.capacity ∧
        (c.publish frame).1.isOpen = c.isOpen ∧ (c.publish frame).1.streams = c.streams := by
      rw [Channel.publish, if_neg hnobody]
      exact ⟨rfl, rfl, rfl⟩
    rcases hrest with ⟨hcapacity, hisOpen, hstreams⟩
    refine ⟨all ++ [frame], hcapacity.trans h.capacity_eq, ?_, hholds, ?_, ?_, ?_⟩
    · rwa [hisOpen]
    · rwa [hstreams]
    · rwa [hstreams]
    · rwa [hstreams]

/-- A stream that is dropped stays dropped. -/
theorem Tracks.drop (h : Tracks capacity history c all) (hopened : index < c.streams.length) :
    Tracks capacity (history ++ [.dropped index]) (c.drop index) all := by
  have hconnected := h.connected hopened
  have hyields := (h.stands (List.getElem?_eq_getElem hopened)).isPrefix
  exact h.replace rfl hopened (.dropped (by simp) (yielded_append_isPrefix hconnected rfl hyields))

/-- A feed that is shut down keeps what it has. -/
theorem Tracks.shutdown (h : Tracks capacity history c all) :
    Tracks capacity (history ++ [.shutDown]) c.shutdown all := by
  refine ⟨h.capacity_eq, ?_, ⟨h.holds.published, h.holds.ring⟩, ?_, ?_, ?_⟩
  · simp [Channel.shutdown]
  · exact fun hj => List.mem_append_left _ (h.connected hj)
  · exact fun hj => h.unopened_append hj (Option.some_ne_none _).symm
  · intro j s hj
    exact (h.stands hj).of_unconcerned (h.connected_of_get hj) rfl (Option.some_ne_none _).symm

/-- A poll that is answered comes from a stream that reads, or from one that is done. -/
theorem poll_cases {answer : Polled} (h : (c.poll index).2 = some answer) :
    ∃ s s', c.streams[index]? = some s ∧
      (c.poll index).1 = { c with streams := c.streams.set index s' } ∧
      ((∃ position, s = .reading position ∧ c.pollAt position = (s', answer)) ∨
        (s = .lagged ∨ s = .ended) ∧ s' = .ended ∧ answer = .ended) := by
  unfold poll at h ⊢
  cases hs : c.streams[index]? with
  | none => simp [hs] at h
  | some s =>
      cases s with
      | dropped => simp [hs] at h
      | reading position =>
          simp only [hs, Option.some.injEq] at h ⊢
          exact ⟨_, _, rfl, rfl, .inl ⟨position, rfl, Prod.ext rfl h⟩⟩
      | lagged =>
          simp only [hs, Option.some.injEq] at h ⊢
          exact ⟨_, _, rfl, rfl, .inr ⟨.inl rfl, rfl, h.symm⟩⟩
      | ended =>
          simp only [hs, Option.some.injEq] at h ⊢
          rcases List.getElem?_eq_some_iff.1 hs with ⟨hindex, hget⟩
          refine ⟨_, .ended, rfl, ?_, .inr ⟨.inr rfl, rfl, h.symm⟩⟩
          rw [← hget, List.set_getElem_self]

/-- A poll takes a stream on as the frames that it has not read demand. -/
theorem Tracks.poll {answer : Polled} (h : Tracks capacity history c all)
    (hanswer : (c.poll index).2 = some answer) :
    Tracks capacity (history ++ [.polled index answer]) (c.poll index).1 all := by
  rcases poll_cases hanswer with ⟨s, s', hstream, hafter, hs⟩
  have hconnected := h.connected_of_get hstream
  rw [hafter]
  refine h.replace rfl (List.getElem?_eq_some_iff.1 hstream).1 ?_
  rcases hs with ⟨position, rfl, hread⟩ | ⟨hdone, rfl, rfl⟩
  · exact (h.stands hstream).read hconnected (hread ▸ h.holds.reads position)
  · have hdropped : .dropped index ∉ history := by
      cases h.stands hstream with
      | reading | told => assumption
      | dropped => simp at hdone
    exact (h.stands hstream).finish hconnected hdropped (.inr rfl) (.inr rfl)

/-- What the feed holds follows from what happened, step by step. -/
theorem Tracks.step (h : Tracks capacity history c all) (hstep : Step c e c') :
    ∃ kept, Tracks capacity (history ++ [e]) c' kept := by
  cases hstep with
  | connect => exact ⟨all, h.connect⟩
  | publish _ frame => exact h.publish frame
  | poll hanswer => exact ⟨all, h.poll hanswer⟩
  | drop hopened => exact ⟨all, h.drop hopened⟩
  | shutdown => exact ⟨all, h.shutdown⟩

/-- What the feed holds follows from all that happened. -/
theorem Run.tracks (h : Run capacity history c) : ∃ all, Tracks capacity history c all := by
  induction h with
  | begin => exact ⟨[], tracks_ofCapacity capacity⟩
  | step _ hstep ih =>
      rcases ih with ⟨all, hall⟩
      exact hall.step hstep

/-! ## What a poll answers -/

/-- What a stream that reads answers is due. -/
theorem Reads.eq_due {position : Nat} {result : Stream × Polled}
    (h : c.Reads (unread index history) position result)
    (hcapacity : c.capacity = ceilPower capacity)
    (hopen : c.isOpen = true ↔ .shutDown ∉ history) (htold : ¬Told index history) :
    result.2 = due capacity index history := by
  unfold due
  rw [if_neg htold]
  cases h with
  | behind hlost =>
      rw [hcapacity] at hlost ⊢
      rw [if_pos hlost]
  | next hunread hkept =>
      rw [hcapacity] at hkept
      rw [if_neg (Nat.not_lt.2 hkept), hunread]
  | idle hunread hisOpen =>
      rw [hunread, List.length_nil, if_neg (Nat.not_lt_zero _)]
      exact (if_neg (hopen.1 hisOpen)).symm
  | closed hunread hclosed =>
      have hshut : .shutDown ∈ history := by
        by_contra hnot
        rw [hopen.2 hnot] at hclosed
        contradiction
      rw [hunread, List.length_nil, if_neg (Nat.not_lt_zero _)]
      exact (if_pos hshut).symm

/-- A stream that is held answers every poll, and as it is due. -/
theorem Tracks.poll_eq (h : Tracks capacity history c all) (index : Nat) :
    (c.poll index).2 = if Held index history then some (due capacity index history) else none := by
  unfold Channel.poll
  cases hstream : c.streams[index]? with
  | none =>
      have hnone : ¬Held index history := fun hheld =>
        h.unopened (List.getElem?_eq_none_iff.1 hstream) _ hheld.1 rfl
      rw [if_neg hnone]
  | some s =>
      have hconnected := h.connected_of_get hstream
      cases h.stands hstream with
      | @reading position hdropped htold hposition hsent =>
          have hread := h.holds.reads position
          rw [← unread_of_sent hsent] at hread
          rw [if_pos ⟨hconnected, hdropped⟩]
          exact congrArg some (hread.eq_due h.capacity_eq h.isOpen_iff htold)
      | told hs hdropped htold =>
          rw [if_pos ⟨hconnected, hdropped⟩, due, if_pos htold]
          rcases hs with rfl | rfl <;> rfl
      | dropped hdropped => rw [if_neg fun hheld => hheld.2 hdropped]

/-- What happened up to some point is a run, and so is what happened then. -/
theorem Run.split {before after : List Event} (h : Run capacity history c)
    (hhistory : history = before ++ e :: after) :
    ∃ c₀ c₁, Run capacity before c₀ ∧ Step c₀ e c₁ := by
  induction h generalizing after with
  | begin => exact absurd hhistory.symm (by simp)
  | @step past c₀ c₁ last hpast hstep ih =>
      rcases List.eq_nil_or_concat after with rfl | ⟨middle, final, rfl⟩
      · rcases List.append_inj' hhistory rfl with ⟨rfl, hlast⟩
        exact ⟨c₀, c₁, hpast, List.singleton_inj.1 hlast ▸ hstep⟩
      · rw [List.concat_eq_append, ← List.cons_append, ← List.append_assoc] at hhistory
        exact ih (List.append_inj' hhistory rfl).1

/-- The frames that a stream yields are those that were published since it was opened, in order,
none left out and none twice. -/
theorem Run.yielded_isPrefix (h : Run capacity history c) (index : Nat) :
    yielded index history <+: sentTo index history := by
  rcases h.tracks with ⟨all, hall⟩
  cases hstream : c.streams[index]? with
  | some s => exact (hall.stands hstream).isPrefix
  | none =>
      have hnone := hall.unopened (List.getElem?_eq_none_iff.1 hstream)
      exact yielded_of_unconcerned hnone ▸ List.nil_prefix

/-- A poll that was answered was answered as it was due. -/
theorem Run.answer_eq_due {before after : List Event} {answer : Polled}
    (h : Run capacity history c) (hhistory : history = before ++ .polled index answer :: after) :
    (∃ c₀, Run capacity before c₀) ∧ answer = due capacity index before := by
  rcases h.split hhistory with ⟨c₀, c₁, hbefore, hstep⟩
  rcases hbefore.tracks with ⟨all, hall⟩
  refine ⟨⟨c₀, hbefore⟩, ?_⟩
  cases hstep with
  | poll hanswer =>
      rw [hall.poll_eq] at hanswer
      split at hanswer
      · exact (Option.some.inj hanswer).symm
      · contradiction

/-- Let streams be opened, polled and dropped and frames be published in any order, until the feed
is shut down, and let the streams be polled and dropped after that as well.  Every stream yields
the frames that were published since it was opened, in order and none of them twice, without a
gap.  As long as it is not dropped, every poll of it is answered, and the answer follows from what
happened before.  If the frames that it has not read are more than the ring keeps, it is told how
many of them are lost; whoever has been told that, or the end, is told nothing but the end from
then on; and the end comes otherwise only after the feed was shut down and all frames have been
yielded. -/
theorem Run.no_silent_gap (h : Run capacity history c) (index : Nat) :
    yielded index history <+: sentTo index history ∧
    (c.poll index).2 =
      (if Held index history then some (due capacity index history) else none) ∧
    ∀ before answer after, history = before ++ .polled index answer :: after →
      answer = due capacity index before ∧
      (¬Told index before → ceilPower capacity < (unread index before).length →
        answer = .lagged ((unread index before).length - ceilPower capacity)) ∧
      ((∃ skipped, answer = .lagged skipped) ∨ answer = .ended →
        ∀ later, .polled index later ∈ after → later = .ended) ∧
      (answer = .ended → Told index before ∨
        .shutDown ∈ before ∧ yielded index before = sentTo index before) := by
  rcases h.tracks with ⟨all, hall⟩
  refine ⟨h.yielded_isPrefix index, hall.poll_eq index, fun before answer after hhistory => ?_⟩
  rcases h.answer_eq_due hhistory with ⟨⟨c₀, hbefore⟩, hdue⟩
  refine ⟨hdue, fun htold hlost => hdue.trans (due_of_lost htold hlost), ?_, ?_⟩
  · intro hfinal later hlater
    rcases List.append_of_mem hlater with ⟨middle, rest, rfl⟩
    have hsplit : history =
        (before ++ .polled index answer :: middle) ++ .polled index later :: rest := by
      rw [hhistory, List.append_assoc, List.cons_append]
    rw [(h.answer_eq_due hsplit).2]
    refine due_of_told ⟨.polled index answer, by simp, ?_⟩
    rcases hfinal with ⟨skipped, rfl⟩ | rfl <;> simp [Event.finishes]
  · intro hended
    rcases due_eq_ended (hdue.symm.trans hended) with htold | ⟨hshut, hread⟩
    · exact .inl htold
    · have hlength := List.drop_eq_nil_iff.1 hread
      exact .inr ⟨hshut, (hbefore.yielded_isPrefix index).eq_of_length_le hlength⟩

/-! ### Two streams, one too slow -/

/-- A ring of two frames is overrun for a stream; another one reads on after the feed was shut
down. -/
def overrun : List Event :=
  [.connected 0, .published "a", .connected 1, .published "b", .published "c",
    .polled 0 (.lagged 1), .polled 1 (.frame "b"), .shutDown, .polled 1 (.frame "c")]

/-- The slow stream has lost one of three frames, the other one has got both of its own; what is
due to both is the end. -/
theorem no_silent_gap_of_overrun :
    ∃ c, Run 2 overrun c ∧ sentTo 0 overrun = ["a", "b", "c"] ∧ yielded 0 overrun = [] ∧
      sentTo 1 overrun = ["b", "c"] ∧ yielded 1 overrun = ["b", "c"] ∧
      (c.poll 0).2 = some .ended ∧ (c.poll 1).2 = some .ended := by
  have hopened : Run 2 [.connected 0, .published "a", .connected 1] _ :=
    ((Run.begin.step (.connect rfl)).step (.publish rfl "a")).step (.connect rfl)
  have hpublished : Run 2 [.connected 0, .published "a", .connected 1, .published "b",
      .published "c"] _ :=
    (hopened.step (.publish rfl "b")).step (.publish rfl "c")
  have hrun : Run 2 overrun _ :=
    (((hpublished.step (.poll rfl)).step (.poll rfl)).step .shutdown).step (.poll rfl)
  rcases hrun.no_silent_gap 0 with ⟨-, hslow, -⟩
  rcases hrun.no_silent_gap 1 with ⟨-, hother, -⟩
  exact ⟨_, hrun, rfl, rfl, rfl, rfl, hslow, hother⟩

end Channel
end Gatehouse
