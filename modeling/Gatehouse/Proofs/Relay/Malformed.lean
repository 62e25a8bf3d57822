import Gatehouse.Proofs.Relay.Fanout

/-!
# Malformed input

Two kinds of texts come in: frames of the change feed, which hold events, and texts of clients,
which hold messages.  A frame that holds no event is passed over.  A text that holds no message
is answered with an error, and nothing else comes of it; the answer waits behind what waits
already, and if there is no place for it there is no answer.

Main results:

- Theorem {lit}`Hub.heed_malformed`: what a connection makes of a text that is no message.
- Theorem {lit}`Hub.Numbered.update_one`: a change of one session leaves the others where they
  are.
- Theorem {lit}`Hub.Run.malformed_inert`: what malformed input changes in a run.
-/

namespace Gatehouse

/-! ## The answer -/

/-- What is answered to a text that is no message. -/
def Outbound.refusal (fault : Json.Fault) : Outbound :=
  .control (.error ⟨400, Operation.refusal_lt⟩ ("invalid message: " ++ fault.message))

namespace Hub

variable {h : Hub} {id n : Nat} {s : Session} {xs : List Happening}

/-- A text that is no message is answered, if there is room for the answer. -/
theorem heed_malformed {text : String} {fault : Json.Fault}
    (hf : ClientMessage.decode text = .error fault) (c : Connection) :
    heed c text = if c.HasRoom then c.enqueue (.refusal fault) else c := by
  unfold heed
  rw [hf]
  exact c.offerControl_fst _

/-! ## One session among others -/

/-- The sessions before and after one session have other ids. -/
theorem Numbered.others (hn : h.Numbered) {before after : List Session}
    (hsplit : h.sessions = before ++ s :: after) :
    ∀ t ∈ before ++ after, t.connection.id ≠ s.connection.id := by
  have hascend : h.ids.Pairwise (· < ·) := hn.ids_ascend
  rw [ids, hsplit, List.map_append, List.map_cons, List.pairwise_append,
    List.pairwise_cons] at hascend
  rcases hascend with ⟨-, ⟨habove, -⟩, hbelow⟩
  intro t ht
  rcases List.mem_append.1 ht with hbefore | hafter
  · have hlt := hbelow _ (List.mem_map_of_mem hbefore) _ List.mem_cons_self
    omega
  · have hlt := habove _ (List.mem_map_of_mem hafter)
    omega

/-- A change of one session leaves the others where they are. -/
theorem Numbered.update_one (hn : h.Numbered) (hs : h.session? id = some s) :
    ∃ before after, h.sessions = before ++ s :: after ∧
      ∀ f, h.update id f = { h with sessions := before ++ f s :: after } := by
  rcases mem_of_session? hs with ⟨hmem, rfl⟩
  rcases List.append_of_mem hmem with ⟨before, after, hsplit⟩
  have hothers := hn.others hsplit
  refine ⟨before, after, hsplit, fun f => ?_⟩
  have hstays : ∀ part : List Session, (∀ t ∈ part, t ∈ before ++ after) →
      (part.map fun t => if t.connection.id == s.connection.id then f t else t) = part := by
    intro part hpart
    refine (List.map_congr_left fun t ht => ?_).trans (List.map_id part)
    exact if_neg (by simpa using hothers t (hpart t ht))
  rw [update, hsplit, List.map_append, List.map_cons,
    hstays before fun t ht => List.mem_append_left _ ht,
    hstays after fun t ht => List.mem_append_right _ ht]
  simp

/-- In every run a frame that holds no event changes nothing, and a text that holds no message
changes its own connection at most: the answer, with the code of a bad request, is put behind
what waits there if the connection is open and has a place for it, and otherwise nothing
changes.  Neither touches what the connection is subscribed to, the snapshot that it is owed or
what waits already. -/
theorem Run.malformed_inert (hrun : Run (ofCapacity n) xs h) :
    (∀ frame fault, Event.decode frame = .error fault → h.ingest frame = (h, none)) ∧
    ∀ id s text fault, h.session? id = some s → ClientMessage.decode text = .error fault →
      ∃ before after s',
        h.sessions = before ++ s :: after ∧
        h.clientText id text = { h with sessions := before ++ s' :: after } ∧
        s' = { s with connection := { s.connection with
                queue := { s.connection.queue with items := s'.connection.queue.items }
                signal := s'.connection.signal } } ∧
        (s.connection.state ≠ .closed ∧ s.connection.queue.isFull = false →
          s'.connection.queue.items = s.connection.queue.items ++ [.refusal fault]) ∧
        (¬ (s.connection.state ≠ .closed ∧ s.connection.queue.isFull = false) → s' = s) := by
  refine ⟨fun frame fault hf => ingest_malformed hf, ?_⟩
  intro id s text fault hs hf
  rcases (hrun.numbered (numbered_ofCapacity n)).update_one hs with
    ⟨before, after, hsplit, hupdate⟩
  refine ⟨before, after, s.onConnection fun c => heed c text, hsplit, hupdate _, ?_⟩
  by_cases hroom : s.connection.HasRoom
  · have hheeds : heed s.connection text = s.connection.enqueue (.refusal fault) := by
      rw [heed_malformed hf, if_pos hroom]
    refine ⟨?_, fun _ => ?_, fun hnone => absurd hroom hnone⟩
    · rw [Session.onConnection, hheeds]
      rfl
    · rw [Session.onConnection_connection, hheeds]
      rfl
  · have hheeds : heed s.connection text = s.connection := by
      rw [heed_malformed hf, if_neg hroom]
    have hsame : (s.onConnection fun c => heed c text) = s := by
      rw [Session.onConnection, hheeds]
    rw [hsame]
    exact ⟨rfl, fun hsome => absurd hsome hroom, fun _ => rfl⟩

/-! ### Texts that are no messages -/

/-- The answer to an empty text waits at the connection that is subscribed; at the one whose only
place is taken and at the one that is closed nothing changes. -/
theorem Run.malformed_inert_of_gathered :
    (gathered.ingest "").1 = gathered ∧
      (gathered.clientText 1 "").sessions = gathered.sessions ∧
      (gathered.clientText 3 "").sessions = gathered.sessions ∧
      ∃ s' fault, s' ∈ (gathered.clientText 2 "").sessions ∧
        s'.connection.state = .subscribed "k" ∧
        s'.connection.queue.items = [.refusal fault] := by
  rcases arrivals_run.malformed_inert with ⟨hframe, htext⟩
  refine ⟨?_, ?_, ?_, ?_⟩
  · rw [hframe "" _ rfl]
  · rcases htext 1 _ "" _ rfl rfl with ⟨before, after, s', hsplit, hafter, -, -, hsame⟩
    rw [hafter, hsplit, hsame (by decide)]
  · rcases htext 3 _ "" _ rfl rfl with ⟨before, after, s', hsplit, hafter, -, -, hsame⟩
    rw [hafter, hsplit, hsame (by decide)]
  · rcases htext 2 _ "" _ rfl rfl with ⟨before, after, s', -, hafter, hrest, hitems, -⟩
    refine ⟨s', _, ?_, ?_, hitems (by decide)⟩
    · rw [hafter]
      exact List.mem_append_right _ List.mem_cons_self
    · rw [hrest]
      rfl

end Hub
end Gatehouse
