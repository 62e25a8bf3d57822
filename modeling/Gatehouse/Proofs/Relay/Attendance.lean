import Gatehouse.Proofs.Relay.Malformed

/-!
# The end of an attendance

A connection is attended to from its beginning until its client is gone or its delivery loop
is over.  A delivery loop is over when it finds the connection closed or when something failed
that it had undertaken.  Whichever comes first, the connection is closed and no longer
registered when its attendance is over, also if it was closed by its id before; the other
connections do not notice.

Main results:

- Theorem {lit}`Session.Run.accounts`: why a delivery loop is over.
- Theorem {lit}`Hub.Run.attended_iff`: which connections are attended to.
- Theorem {lit}`Hub.Run.attendance_ends_clean`: what the end of an attendance leaves behind.
-/

namespace Gatehouse

/-! ## Why a delivery loop is over -/

/-- Whether the result of a delivery loop is borne out by the session and by the moves before:
the connection is closed, a send failed, or a fetch failed. -/
def Session.BornOut (moves : List Move) (s : Session) : Except DeliveryFault Unit → Prop
  | .ok () => s.connection.state = .closed
  | .error (.send reason) => .sent (.error reason) ∈ moves
  | .error (.snapshot fault) => .fetched (.error fault) ∈ moves

namespace Session

/-- Whether a delivery loop that is over has a reason, and one that sends the notice of a fault
has met the fault. -/
def Accounts (moves : List Move) (s : Session) : Prop :=
  (∀ result, s.loop = some (.ended result) → s.BornOut moves result) ∧
    ∀ fault, s.loop = some (.sending (.notice fault)) → .fetched (.error fault) ∈ moves

variable {s t : Session} {moves : List Move} {move : Move} {now done : List Undertaking}

/-- A loop that is not over and sends no notice accounts for nothing. -/
theorem accounts_of_busy {loop : Option Phase} (hloop : s.loop = loop)
    (hover : ∀ result, loop ≠ some (.ended result))
    (hnotice : ∀ fault, loop ≠ some (.sending (.notice fault))) : s.Accounts moves :=
  ⟨fun result hended => absurd (hloop ▸ hended) (hover result),
    fun fault hsending => absurd (hloop ▸ hsending) (hnotice fault)⟩

/-- A loop that is over with a result that is borne out accounts for it. -/
theorem accounts_of_ended {result : Except DeliveryFault Unit}
    (hended : s.loop = some (.ended result)) (hresult : s.BornOut moves result) :
    s.Accounts moves := by
  refine ⟨fun other hother => ?_, fun fault hsending => ?_⟩
  · rw [hended, Option.some.injEq, Phase.ended.injEq] at hother
    exact hother ▸ hresult
  · rw [hended] at hsending
    cases hsending

/-- After every move the loop accounts for itself. -/
theorem Moves.accounts (h : Moves s move now t) (hs : s.Accounts moves) :
    t.Accounts (moves ++ [move]) := by
  have hearlier : ∀ {other : Move}, other ∈ moves → other ∈ moves ++ [move] :=
    fun hmem => List.mem_append_left _ hmem
  have hlast : move ∈ moves ++ [move] := List.mem_append_right _ List.mem_cons_self
  cases h with
  | operation op =>
      refine ⟨fun result hended => ?_, fun fault hsending => hearlier (hs.2 fault hsending)⟩
      have hbefore := hs.1 result hended
      match result, hbefore with
      | .ok (), hclosed => exact (Moves.operation op).closed_iff.2 (.inl hclosed)
      | .error (.send reason), hsent => exact hearlier hsent
      | .error (.snapshot fault), hfetched => exact hearlier hfetched
  | start => exact accounts_of_busy rfl (by simp) (by simp)
  | abandon => exact accounts_of_busy rfl (by simp) (by simp)
  | take =>
      rcases s.take_handout with ⟨step, c, hhandout, htake⟩
      rw [htake]
      cases hhandout with
      | closed hclosed => exact accounts_of_ended rfl hclosed
      | _ => exact accounts_of_busy rfl (by simp [Step.phase]) (by simp [Step.phase])
  | wake _ hsignal =>
      rw [wake_of_signal hsignal]
      exact accounts_of_busy rfl (by simp) (by simp)
  | @sent dispatch hsending outcome =>
      rcases s.sent_cases dispatch outcome with
        ⟨-, -, hsent⟩ | ⟨reason, rfl, -, hsent⟩ | ⟨fault, rfl, hsent⟩
      · rw [hsent]
        exact accounts_of_busy rfl (by simp) (by simp)
      · rw [hsent]
        exact accounts_of_ended rfl hlast
      · rw [hsent]
        exact accounts_of_ended rfl (hearlier (hs.2 fault hsending))
  | @fetched key seq _ answer =>
      rcases s.fetched_cases key seq answer with
        ⟨resource, -, -, hfetched⟩ | ⟨resource, -, hclosed, hfetched⟩ | ⟨fault, rfl, hfetched⟩
      · rw [hfetched]
        exact accounts_of_busy rfl (by simp) (by simp)
      · rw [hfetched]
        exact accounts_of_ended rfl hclosed
      · rw [hfetched]
        refine ⟨fun result hended => by simp at hended, fun other hother => ?_⟩
        have hsame : fault = other := by simpa using hother
        exact hsame ▸ hlast

/-- After every run the loop accounts for itself, if it did before. -/
theorem Run.accounts (hrun : Run s moves done t) (hs : s.Accounts []) : t.Accounts moves := by
  induction hrun with
  | refl => exact hs
  | tail _ hmove ih => exact hmove.accounts ih

/-- In every run a delivery loop is over because its connection is closed, or because a send or
a fetch failed. -/
theorem Run.ended_bornOut {id n : Nat} {identity : Identity}
    (hrun : Run (accept id identity n) moves done s) {result : Except DeliveryFault Unit}
    (hended : s.loop = some (.ended result)) : s.BornOut moves result :=
  (hrun.accounts (accounts_of_busy rfl (by simp [accept]) (by simp [accept]))).1 result hended

/-- No move begins or ends an attendance. -/
theorem Moves.attended_eq (h : Moves s move now t) : t.attended = s.attended := by
  cases h with
  | operation => rfl
  | start => rfl
  | abandon => rfl
  | take =>
      rcases s.take_handout with ⟨step, c, -, htake⟩
      rw [htake]
      rfl
  | wake _ hsignal =>
      rw [wake_of_signal hsignal]
      rfl
  | @sent dispatch _ outcome =>
      rcases s.sent_cases dispatch outcome with
        ⟨-, -, hsent⟩ | ⟨_, -, -, hsent⟩ | ⟨_, -, hsent⟩ <;> rw [hsent] <;> rfl
  | @fetched key seq _ answer =>
      rcases s.fetched_cases key seq answer with
        ⟨_, -, -, hfetched⟩ | ⟨_, -, -, hfetched⟩ | ⟨_, -, hfetched⟩ <;> rw [hfetched] <;> rfl

end Session

/-! ## Which connections are attended to -/

namespace Happening

/-- The connection whose attendance a happening ends. -/
def ends? : Happening → Option Nat
  | hangUp id | reap id => some id
  | _ => none

/-- The end of an attendance concerns no other connection. -/
theorem concerns_of_ends? {x : Happening} {id : Nat} (hends : x.ends? = some id) (other : Nat) :
    x.concerns other = (other == id) := by
  cases x <;> simp_all [ends?, concerns, id?]

end Happening

namespace Hub

variable {h h' : Hub} {x : Happening} {xs : List Happening} {n id : Nat} {s : Session}

/-- What ends the attendance of a connection finds it attended to, because its client is gone
or its delivery loop is over, and releases it. -/
theorem Acts.of_ends (hact : h.Acts x h') (hends : x.ends? = some id) :
    h' = h.release id ∧ ∃ s, h.session? id = some s ∧ s.attended = true ∧
      (x = .hangUp id ∨ x = .reap id ∧ ∃ result, s.loop = some (.ended result)) := by
  cases hact with
  | hangUp hs hattended =>
      obtain rfl : _ = id := Option.some.inj hends
      exact ⟨hangUp_of_attended hs hattended, _, hs, hattended, .inl rfl⟩
  | reap hs hattended hended =>
      obtain rfl : _ = id := Option.some.inj hends
      exact ⟨reap_of_ended hs hattended hended, _, hs, hattended, .inr ⟨rfl, _, hended⟩⟩
  | _ => simp [Happening.ends?] at hends

/-- A change that keeps the attendance of each session. -/
theorem map_attended {f : Session → Session} (hends : x.ends? = none)
    (hf : ∀ s ∈ h.sessions, (f s).attended = s.attended) :
    (h.sessions.map f).map Session.attended =
      h.sessions.map fun s => s.attended && x.ends? != some s.connection.id := by
  rw [List.map_map]
  refine List.map_congr_left fun s hs => ?_
  simp [hf s hs, hends]

/-- A change of one session that keeps its attendance. -/
theorem map_attended_one {f : Session → Session} (hends : x.ends? = none)
    (hf : ∀ s ∈ h.sessions, s.connection.id = id → (f s).attended = s.attended) :
    (h.sessions.map fun s => if s.connection.id == id then f s else s).map Session.attended =
      h.sessions.map fun s => s.attended && x.ends? != some s.connection.id := by
  refine map_attended hends fun s hs => ?_
  split
  · rename_i hid
    exact hf s hs (by simpa using hid)
  · rfl

/-- Where a connection is released its attendance ends, and no other's. -/
theorem map_attended_release (hends : x.ends? = some id) :
    (h.release id).sessions.map Session.attended =
      h.sessions.map fun s => s.attended && x.ends? != some s.connection.id := by
  rw [release_sessions, List.map_map]
  refine List.map_congr_left fun s _ => ?_
  rw [Function.comp_apply, hends]
  by_cases hid : s.connection.id = id
  · subst hid
    cases h.isLive s.connection.id <;> simp [Session.onConnection]
  · have hother : ¬ id = s.connection.id := fun hsame => hid hsame.symm
    simp [hid, hother]

/-- Which sessions are attended to after a happening. -/
theorem Acts.attended_eq (hn : h.Numbered) (hact : h.Acts x h') :
    h'.sessions.map Session.attended =
      (h.sessions.map fun s => s.attended && x.ends? != some s.connection.id) ++
        (x.added h.capacity).map Session.attended := by
  cases hact with
  | register identity => simp [Happening.added, Happening.ends?, Hub.register]
  | attend identity =>
      rw [attend_sessions, List.map_append, List.map_append,
        map_attended_one (x := .attend identity (h.attend identity).2) rfl]
      · simp [Happening.added, Session.accept, Connection.accept]
      · intro s hs hid
        exact absurd (hn.lt_nextId (mem_ids hs)) (by omega)
  | close id =>
      rw [close_sessions]
      refine (map_attended_one rfl fun s _ _ => ?_).trans (List.append_nil _).symm
      split <;> rfl
  | subscribe id key seq =>
      rw [subscribe_sessions]
      refine (map_attended_one rfl fun s _ _ => ?_).trans (List.append_nil _).symm
      split <;> rfl
  | unsubscribe id =>
      rw [unsubscribe_sessions]
      refine (map_attended_one rfl fun s _ _ => ?_).trans (List.append_nil _).symm
      split <;> rfl
  | publish e =>
      rw [publish_sessions]
      refine (map_attended rfl fun s _ => ?_).trans (List.append_nil _).symm
      split <;> rfl
  | announce m =>
      rw [announce_sessions]
      refine (map_attended rfl fun s _ => ?_).trans (List.append_nil _).symm
      split <;> rfl
  | @text id _ _ words =>
      rw [clientText, update_sessions]
      refine (map_attended_one rfl fun s _ _ => ?_).trans (List.append_nil _).symm
      rfl
  | hangUp hs hattended =>
      rw [hangUp_of_attended hs hattended]
      exact (map_attended_release rfl).trans (List.append_nil _).symm
  | reap hs hattended hended =>
      rw [reap_of_ended hs hattended hended]
      exact (map_attended_release rfl).trans (List.append_nil _).symm
  | @move id s t move now hs hmove =>
      rcases mem_of_session? hs with ⟨hmem, hid⟩
      refine (map_attended_one rfl fun u hu huid => ?_).trans (List.append_nil _).symm
      rw [hn.eq_of_id_eq hu hmem (huid.trans hid.symm)]
      exact hmove.attended_eq

/-- An attendance ends only where it has begun. -/
theorem Run.mem_ids_of_ends (hrun : Run (ofCapacity n) xs h) (hx : x ∈ xs)
    (hends : x.ends? = some id) : id ∈ h.ids := by
  induction hrun with
  | refl => simp at hx
  | @tail g h ys y hrun hact ih =>
      rw [hact.ids_eq (hrun.numbered (numbered_ofCapacity n))]
      refine List.mem_append_left _ ?_
      rcases List.mem_append.1 hx with hearlier | hlast
      · exact ih hearlier
      · obtain rfl : x = y := List.mem_singleton.1 hlast
        rcases hact.of_ends hends with ⟨-, s, hs, -⟩
        rcases mem_of_session? hs with ⟨hmem, rfl⟩
        exact mem_ids hmem

/-- A session that is added is attended to if it is made for it, and its attendance does not
end at once. -/
theorem Acts.attended_of_added (hact : h.Acts x h') (hs : s ∈ x.added h.capacity) :
    (s.attended = true ↔ ∃ identity, .attend identity s.connection.id = x) ∧ x.ends? = none := by
  cases hact with
  | register identity =>
      rw [List.mem_singleton.1 hs]
      simp [Session.accept, Happening.ends?]
  | attend identity =>
      rw [List.mem_singleton.1 hs]
      simp [Session.accept, Session.start, Connection.accept, Happening.ends?]
  | _ => simp [Happening.added] at hs

/-- Attended to are the connections that were made for it and whose attendance has not
ended. -/
theorem Run.attended_iff (hrun : Run (ofCapacity n) xs h) (hs : s ∈ h.sessions) :
    s.attended = true ↔
      (∃ identity, .attend identity s.connection.id ∈ xs) ∧
        ∀ x ∈ xs, x.ends? ≠ some s.connection.id := by
  induction hrun generalizing s with
  | refl => simp [ofCapacity] at hs
  | @tail g h ys y hrun hact ih =>
      have hn : g.Numbered := hrun.numbered (numbered_ofCapacity n)
      rcases hact.sessions_eq hn with ⟨change, hsessions, hfeeds⟩
      have hattended := hact.attended_eq hn
      rw [hsessions, List.map_append, List.map_map, List.append_cancel_right_eq,
        List.map_inj_left] at hattended
      rw [hsessions] at hs
      rcases List.mem_append.1 hs with hold | hnew
      · rcases List.mem_map.1 hold with ⟨t, ht, rfl⟩
        have hbegun : (∃ identity, .attend identity t.connection.id ∈ ys ++ [y]) ↔
            ∃ identity, .attend identity t.connection.id ∈ ys := by
          refine exists_congr fun identity => ?_
          rw [List.mem_append, List.mem_singleton, or_iff_left]
          rintro rfl
          have hlt := hn.lt_nextId (mem_ids ht)
          have hgiven : t.connection.id = g.nextId := hact.given_eq rfl
          omega
        have hchange : (change t).attended = (t.attended && y.ends? != some t.connection.id) :=
          hattended t ht
        rw [(hfeeds t ht).client_eq.1, hchange, hbegun, List.forall_mem_append,
          List.forall_mem_singleton, ← and_assoc, ← ih ht]
        simp
      · rcases hact.run_added hnew with ⟨hid, -⟩
        rcases hact.attended_of_added hnew with ⟨hbegins, hends⟩
        have hfresh : s.connection.id ∉ g.ids := by
          intro hmem
          exact absurd (hn.lt_nextId hmem) (by omega)
        have hbegun : (∃ identity, .attend identity s.connection.id ∈ ys ++ [y]) ↔
            ∃ identity, .attend identity s.connection.id = y := by
          refine exists_congr fun identity => ?_
          rw [List.mem_append, List.mem_singleton, or_iff_right]
          intro hmem
          rw [← hrun.ids_eq] at hfresh
          exact hfresh (List.mem_filterMap.2 ⟨_, hmem, rfl⟩)
        have hkept : ∀ x ∈ ys ++ [y], x.ends? ≠ some s.connection.id := by
          intro x hx hown
          rcases List.mem_append.1 hx with hearlier | hlast
          · exact hfresh (hrun.mem_ids_of_ends hearlier hown)
          · rw [List.mem_singleton.1 hlast, hends] at hown
            cases hown
        rw [hbegins, hbegun, and_iff_left hkept]

/-! ## The end of an attendance -/

/-- A session is found by its id. -/
theorem Numbered.session?_of_mem (hn : h.Numbered) (hs : s ∈ h.sessions) :
    h.session? s.connection.id = some s := by
  cases hfound : h.session? s.connection.id with
  | none => exact absurd (beq_self_eq_true _) (List.find?_eq_none.1 hfound s hs)
  | some t =>
      rcases mem_of_session? hfound with ⟨ht, hid⟩
      rw [hn.eq_of_id_eq ht hs hid]

/-- Releasing a connection leaves it closed, if those that are not registered are closed, and
leaves the others as they are. -/
theorem session?_release (h : Hub) (id other : Nat) :
    (h.release id).session? other = (h.session? other).map fun s =>
      if s.connection.id == id then
        if h.isLive id then { s.abandon with attended := false }.onConnection .close
        else { s.abandon with attended := false }
      else s := by
  unfold session?
  rw [release_sessions, List.find?_map]
  congr 2
  funext s
  rw [Function.comp_apply]
  split
  · split <;> rfl
  · rfl

/-- A connection that is not the one released is found as it was. -/
theorem session?_release_of_ne {other : Nat} (hother : other ≠ id) :
    (h.release id).session? other = h.session? other := by
  rw [session?_release]
  cases hs : h.session? other with
  | none => rfl
  | some s =>
      have hne : s.connection.id ≠ id := by rwa [(mem_of_session? hs).2]
      simp [hne]

/-- The end of an attendance takes the connection out of the registry, and no other. -/
theorem Acts.isLive_of_ends (hact : h.Acts x h') (hends : x.ends? = some id) (other : Nat) :
    h'.isLive other = (other != id && h.isLive other) := by
  rw [hact.isLive_eq, Happening.concerns_of_ends? hends]
  by_cases hother : other = id
  · subst hother
    cases x <;> simp_all [Happening.ends?, Happening.registers]
  · simp [hother]

/-- After its attendance has ended a connection is registered no more. -/
theorem Run.isLive_of_ends (hrun : Run (ofCapacity n) xs h) (hx : x ∈ xs)
    (hends : x.ends? = some id) : h.isLive id = false := by
  induction hrun with
  | refl => simp at hx
  | @tail g h ys y hrun hact ih =>
      rcases List.mem_append.1 hx with hearlier | hlast
      · have hn : g.Numbered := hrun.numbered (numbered_ofCapacity n)
        have hid : id ∈ g.ids := hrun.mem_ids_of_ends hearlier hends
        rw [hact.isLive_eq, ih hearlier]
        cases hconcerns : y.concerns id with
        | false => rfl
        | true => exact hact.registers_false hn hid hconcerns
      · obtain rfl : x = y := List.mem_singleton.1 hlast
        simp [hact.isLive_of_ends hends]

/-- Why the attendance of a connection ends with a happening after some others. -/
inductive Ending (xs : List Happening) (id : Nat) : Happening → Prop where
  /-- The client is gone. -/
  | gone : Ending xs id (.hangUp id)
  /-- The connection has been closed by its id. -/
  | closed (hclosed : .close id ∈ xs) : Ending xs id (.reap id)
  /-- A frame could not be sent. -/
  | unsent {reason : String} {now : List Undertaking}
      (hsent : .move id (.sent (.error reason)) now ∈ xs) : Ending xs id (.reap id)
  /-- A snapshot could not be fetched. -/
  | unfetched {fault : SnapshotFault} {now : List Undertaking}
      (hfetched : .move id (.fetched (.error fault)) now ∈ xs) : Ending xs id (.reap id)

/-- An attended connection that is closed has been closed by its id. -/
theorem Run.close_mem_of_attended (hrun : Run (ofCapacity n) xs h) (hs : s ∈ h.sessions)
    (hattended : s.attended = true) (hclosed : s.connection.state = .closed) :
    .close s.connection.id ∈ xs := by
  rcases (hrun.attended_iff hs).1 hattended with ⟨⟨identity, hbegun⟩, hkept⟩
  have hgone : ¬ Happening.IsOpen s.connection.id xs := by
    rw [← hrun.isLive_iff, (hrun.closed_iff hs).1 hclosed]
    exact Bool.false_ne_true
  rcases List.append_of_mem hbegun with ⟨before, after, hsplit⟩
  have hends : ∃ x ∈ after, x.closed? = some s.connection.id := by
    refine Classical.byContradiction fun hnone => hgone ?_
    exact ⟨before, _, after, hsplit, rfl, fun x hx hcloses => hnone ⟨x, hx, hcloses⟩⟩
  rcases hends with ⟨x, hx, hcloses⟩
  have hmem : x ∈ xs := by
    rw [hsplit]
    exact List.mem_append_right _ (List.mem_cons_of_mem _ hx)
  have hnot := hkept x hmem
  cases x with
  | close id =>
      obtain rfl : id = s.connection.id := Option.some.inj hcloses
      exact hmem
  | hangUp id => exact absurd hcloses hnot
  | reap id => exact absurd hcloses hnot
  | _ => simp [Happening.closed?] at hcloses

/-- An attendance ends for one of these reasons. -/
theorem Run.ending (hrun : Run (ofCapacity n) xs h) (hact : h.Acts x h')
    (hends : x.ends? = some id) : Ending xs id x := by
  rcases hact.of_ends hends with ⟨-, s, hs, hattended, rfl | ⟨rfl, result, hended⟩⟩
  · exact .gone
  · rcases mem_of_session? hs with ⟨hmem, rfl⟩
    have hresult := (hrun.alone_from_start hmem).ended_bornOut hended
    match result, hresult with
    | .ok (), hclosed => exact .closed (hrun.close_mem_of_attended hmem hattended hclosed)
    | .error (.send reason), hsent =>
        rcases Happening.exists_of_mem_movesOf (.inl ⟨_, rfl⟩) hsent with ⟨now, hmove⟩
        exact .unsent hmove
    | .error (.snapshot fault), hfetched =>
        rcases Happening.exists_of_mem_movesOf (.inr ⟨_, rfl⟩) hfetched with ⟨now, hmove⟩
        exact .unfetched hmove

/-- What ends the attendance of a connection leaves it closed and without a delivery loop. -/
theorem Run.closed_of_ends (hrun : Run (ofCapacity n) xs h) (hact : h.Acts x h')
    (hends : x.ends? = some id) :
    ∃ s', h'.session? id = some s' ∧ s'.connection.state = .closed ∧
      s'.attended = false ∧ s'.loop = none := by
  rcases hact.of_ends hends with ⟨hrelease, s, hs, -⟩
  have hafter := h.session?_release id id
  rw [← hrelease, hs, Option.map_some, if_pos (by simpa using (mem_of_session? hs).2)] at hafter
  rcases mem_of_session? hafter with ⟨hmem, hid⟩
  have hgone : h'.isLive id = false := by simp [hact.isLive_of_ends hends]
  refine ⟨_, hafter, ((hrun.tail hact).closed_iff hmem).2 (hid.symm ▸ hgone), ?_⟩
  cases h.isLive id <;> exact ⟨rfl, rfl⟩

/-- A connection that has been attended to is attended to no more if its attendance has ended,
and is closed then. -/
theorem Run.closed_of_attended (hrun : Run (ofCapacity n) xs h) {identity : Identity}
    (hbegun : .attend identity id ∈ xs) :
    ∃ s, h.session? id = some s ∧ (s.attended = false ↔ ∃ x ∈ xs, x.ends? = some id) ∧
      (s.attended = false → s.connection.state = .closed ∧ h.isLive id = false) := by
  have hid : id ∈ h.ids := by
    rw [← hrun.ids_eq]
    exact List.mem_filterMap.2 ⟨_, hbegun, rfl⟩
  rcases List.mem_map.1 hid with ⟨s, hs, rfl⟩
  have hends : s.attended = false ↔ ∃ x ∈ xs, x.ends? = some s.connection.id := by
    rw [← Bool.not_eq_true, hrun.attended_iff hs, not_and]
    constructor
    · intro hover
      refine Classical.byContradiction fun hnone => hover ⟨identity, hbegun⟩ ?_
      exact fun x hx hown => hnone ⟨x, hx, hown⟩
    · rintro ⟨x, hx, hown⟩ - hkept
      exact hkept x hx hown
  have hn : h.Numbered := hrun.numbered (numbered_ofCapacity n)
  refine ⟨s, hn.session?_of_mem hs, hends, fun hover => ?_⟩
  rcases hends.1 hover with ⟨x, hx, hown⟩
  have hgone := hrun.isLive_of_ends hx hown
  exact ⟨(hrun.closed_iff hs).2 hgone, hgone⟩

/-- Whatever ends the attendance of a connection in a run, be it that its client is gone, that
it has been closed by its id, or that a send or a fetch failed: afterwards the connection is
closed, its delivery loop is dropped, and it is not registered.  The session of every other
connection, and whether it is registered, stays as it was.  Nothing else ends an attendance, and
where one has ended the connection stays closed and unregistered. -/
theorem Run.attendance_ends_clean (hrun : Run (ofCapacity n) xs h) :
    (∀ {x : Happening} {h' : Hub} {id : Nat}, h.Acts x h' → x.ends? = some id →
      (∃ s, h.session? id = some s ∧ s.attended = true) ∧ Ending xs id x ∧
      (∃ s', h'.session? id = some s' ∧ s'.connection.state = .closed ∧
        s'.attended = false ∧ s'.loop = none) ∧
      h'.isLive id = false ∧
      ∀ other, other ≠ id →
        h'.session? other = h.session? other ∧ h'.isLive other = h.isLive other) ∧
    ∀ identity id, .attend identity id ∈ xs →
      ∃ s, h.session? id = some s ∧ (s.attended = false ↔ ∃ x ∈ xs, x.ends? = some id) ∧
        (s.attended = false → s.connection.state = .closed ∧ h.isLive id = false) := by
  refine ⟨fun {x h' id} hact hends => ?_, fun _ _ hbegun => hrun.closed_of_attended hbegun⟩
  rcases hact.of_ends hends with ⟨hrelease, s, hs, hattended, -⟩
  have hlive := hact.isLive_of_ends hends
  refine ⟨⟨s, hs, hattended⟩, hrun.ending hact hends, hrun.closed_of_ends hact hends,
    by simp [hlive], fun other hother => ⟨?_, by simp [hlive, hother]⟩⟩
  rw [hrelease, session?_release_of_ne hother]

/-! ### A send that fails after the connection has been closed -/

/-- An attended session for whose client the answer to a ping waits. -/
def asked : Session :=
  { (Session.accept 1 ⟨"ada", none, [], .empty⟩ 2).start with attended := true }.onConnection
    fun c => (c.offerControl .pong).1

/-- The same session when its loop sends the answer. -/
def answering : Session := asked.take

/-- The session of another client, for whom the same answer waits. -/
def bystander : Session :=
  (Session.accept 2 ⟨"bob", none, [], .empty⟩ 2).onConnection fun c => (c.offerControl .pong).1

/-- A hub at which the send has failed after the connection was closed by its id. -/
def cutOff : Hub :=
  ⟨2, .ofNat 0,
    [(answering.onConnection .close).sent (.frame (.control .pong)) (.error "broken pipe"),
      bystander], [2]⟩

theorem cutOff_run :
    Run (ofCapacity 2)
      [.attend ⟨"ada", none, [], .empty⟩ 1, .register ⟨"bob", none, [], .empty⟩ 2,
        .announce .pong, .move 1 .take [.send (.frame (.control .pong))], .close 1,
        .move 1 (.sent (.error "broken pipe")) []] cutOff := by
  have hasked : Run (ofCapacity 2)
      [.attend ⟨"ada", none, [], .empty⟩ 1, .register ⟨"bob", none, [], .empty⟩ 2,
        .announce .pong] ⟨2, .ofNat 0, [asked, bystander], [1, 2]⟩ :=
    .tail (.tail (.tail (.refl _) (.attend _)) (.register _)) (.announce _)
  have htake : Acts ⟨2, .ofNat 0, [asked, bystander], [1, 2]⟩
      (.move 1 .take [.send (.frame (.control .pong))])
      ⟨2, .ofNat 0, [answering, bystander], [1, 2]⟩ :=
    .move rfl (@Session.Moves.take asked rfl) (by simp)
  have hfail : Acts ⟨2, .ofNat 0, [answering.onConnection .close, bystander], [2]⟩
      (.move 1 (.sent (.error "broken pipe")) []) cutOff :=
    .move rfl (@Session.Moves.sent (answering.onConnection .close) (.frame (.control .pong)) rfl _)
      (by simp)
  exact ((hasked.tail htake).tail (.close 1)).tail hfail

/-- The attendance ends, the connection is closed and not registered, and the other client's is
untouched. -/
theorem Run.attendance_ends_clean_of_cutOff :
    (∃ s', (cutOff.reap 1).session? 1 = some s' ∧ s'.connection.state = .closed) ∧
      (cutOff.reap 1).isLive 1 = false ∧ (cutOff.reap 1).session? 2 = some bystander ∧
      (cutOff.reap 1).isLive 2 = true ∧
      ∃ s, cutOff.session? 1 = some s ∧ (s.attended = false ↔
        ∃ x ∈ [Happening.attend ⟨"ada", none, [], .empty⟩ 1,
          .register ⟨"bob", none, [], .empty⟩ 2, .announce .pong,
          .move 1 .take [.send (.frame (.control .pong))], .close 1,
          .move 1 (.sent (.error "broken pipe")) []], x.ends? = some 1) := by
  rcases cutOff_run.attendance_ends_clean with ⟨hends, hattended⟩
  have hreap : cutOff.Acts (.reap 1) (cutOff.reap 1) := .reap rfl rfl rfl
  rcases hends hreap rfl with ⟨-, -, ⟨s', hs', hclosed, -⟩, hgone, hothers⟩
  rcases hothers 2 (by decide) with ⟨hsession, hlive⟩
  rcases hattended ⟨"ada", none, [], .empty⟩ 1 List.mem_cons_self with ⟨s, hs, hover, -⟩
  exact ⟨⟨s', hs', hclosed⟩, hgone, hsession, hlive, s, hs, hover⟩

end Hub
end Gatehouse
