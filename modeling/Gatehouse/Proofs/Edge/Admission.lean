import Gatehouse.Edge.Gate

/-!
# Who gets past the gate

Two functions look at the path of a request.  One decides whether the request needs a
token, the other what answers it.  Paths of the realtime service need none, since its
route asks for a token itself, so that the gate holds as long as every such path has that
route.

Main results:

- Theorem {lit}`Route.of_realtime_eq_forward_iff`: the one path of the realtime service
  that has no route is its root with a slash at the end.
- Theorem {lit}`Gate.passesOn_iff`: which requests are passed on to the service behind the
  gate.
- Theorem {lit}`Gate.passes_unvouched_iff`: which requests get past the gate without a
  token.
-/

namespace Gatehouse

/-! ## Routes of the realtime service -/

namespace Route

/-- A path of the realtime service is known for sockets, unless it is the root of the
service with a slash at the end. -/
theorem Local.ofPath?_realtime {path : String} (hrealtime : isRealtimePath path = true) :
    Local.ofPath? path = if path = realtimePath ++ "/" then none else some .socket := by
  have hhealth : path ≠ "/health" := by
    rintro rfl
    exact absurd hrealtime (by decide)
  have heffective : path ≠ "/authz/effective" := by
    rintro rfl
    exact absurd hrealtime (by decide)
  unfold Local.ofPath?
  rw [if_neg hhealth, if_neg heffective]
  by_cases hroot : path = realtimePath
  · have hslash : path ≠ realtimePath ++ "/" := by
      rw [hroot]
      decide
    rw [if_pos hroot, if_neg hslash]
  · rw [if_neg hroot]
    by_cases hslash : path = realtimePath ++ "/"
    · simp [hslash]
    · simp [hslash, hrealtime]

/-- The route of a path of the realtime service. -/
theorem of_realtime {method path : String} (hrealtime : isRealtimePath path = true) :
    of method path =
      if path = realtimePath ++ "/" then forward
      else if Local.socket.methods.contains method then socket else wrongMethod := by
  unfold of
  rw [Local.ofPath?_realtime hrealtime]
  by_cases hslash : path = realtimePath ++ "/"
  · rw [if_pos hslash, if_pos hslash]
  · rw [if_neg hslash, if_neg hslash]
    rfl

/-- The one path of the realtime service whose requests are forwarded. -/
theorem of_realtime_eq_forward_iff {method path : String}
    (hrealtime : isRealtimePath path = true) :
    of method path = forward ↔ path = realtimePath ++ "/" := by
  rw [of_realtime hrealtime]
  split
  · simpa
  · split <;> simpa

/-- Requests for all other paths of the realtime service are for sockets, or have a method
that is not for them. -/
theorem of_realtime_eq_socket_or_iff {method path : String}
    (hrealtime : isRealtimePath path = true) :
    of method path = socket ∨ of method path = wrongMethod ↔
      path ≠ realtimePath ++ "/" := by
  rw [of_realtime hrealtime]
  split
  · simpa
  · split <;> simpa

/-- No path of the realtime service asks for effective roles. -/
theorem of_realtime_ne_effective {method path : String}
    (hrealtime : isRealtimePath path = true) : of method path ≠ effective := by
  rw [of_realtime hrealtime]
  split
  · simp
  · split <;> simp

end Route

/-! ## Requests that are let through -/

namespace Gate

variable {g : Gate} {s : Surroundings} {r : Request}

/-- Whether a request may be let through: its path needs no token, or its bearer token is
accepted. -/
def Vouched (g : Gate) (r : Request) : Prop :=
  g.isOpen r.target.path = true ∨
    ∃ token identity, Credential.bearerToken r.headers = .ok token ∧
      g.authenticate token = .ok identity

/-- What answers a request, unless it is refused. -/
def handler? (g : Gate) (r : Request) : Option Route :=
  match g.admission r.target.path r.headers with
  | .refused _ => none
  | _ => some (Route.of r.method r.target.path)

/-- Whether a request is passed on to the service behind the gate: what comes of it depends
on how that service is reached. -/
def PassesOn (g : Gate) (s : Surroundings) (r : Request) : Prop :=
  ∃ t t' : Transport, g.serve { s with transport := t } r ≠ g.serve { s with transport := t' } r

/-- A token is accepted exactly if it tells who sends the request. -/
theorem identify_ok_iff {headers : Headers} {identity : Identity} :
    g.identify headers = .ok identity ↔
      ∃ token, Credential.bearerToken headers = .ok token ∧
        g.authenticate token = .ok identity := by
  unfold identify
  cases Credential.bearerToken headers with
  | error fault => simp [Except.bind]
  | ok token => simp [Except.bind]

/-- A request is answered by its route if it may be let through or is for the realtime
service; any other one is refused. -/
theorem handler?_eq_some_iff {route : Route} :
    g.handler? r = some route ↔
      (g.Vouched r ∨ isRealtimePath r.target.path = true) ∧
        Route.of r.method r.target.path = route := by
  have hidentify : (∃ token identity, Credential.bearerToken r.headers = .ok token ∧
      g.authenticate token = .ok identity) ↔
      ∃ identity, g.identify r.headers = .ok identity := by
    simp only [identify_ok_iff]
    exact exists_comm
  unfold handler? admission Vouched
  rw [hidentify]
  by_cases hfree : (g.isOpen r.target.path || isRealtimePath r.target.path) = true
  · simp only [hfree, if_true, Option.some.injEq]
    rw [Bool.or_eq_true] at hfree
    constructor
    · intro hroute
      exact ⟨hfree.imp_left .inl, hroute⟩
    · rintro ⟨-, hroute⟩
      exact hroute
  · simp only [hfree]
    rw [Bool.or_eq_true, not_or] at hfree
    cases hidentity : g.identify r.headers with
    | ok identity => simp
    | error fault => simp [hfree.1, hfree.2]

/-! ### The marked request -/

/-- The mark of a request does not touch its token. -/
@[simp]
theorem bearerToken_marked (id : String) (r : Request) :
    Credential.bearerToken (marked id r).headers = Credential.bearerToken r.headers := by
  have hname : "authorization" ≠ Credential.correlationField := by decide
  unfold Credential.bearerToken Headers.first?
  rw [marked, Headers.all_put_of_ne r.headers hname]

/-- A request is let through with its mark exactly if it is without. -/
@[simp]
theorem admission_marked (g : Gate) (id path : String) (r : Request) :
    g.admission path (marked id r).headers = g.admission path r.headers := by
  unfold admission identify
  rw [bearerToken_marked]

/-- What comes of a request that is let through is what its route answers. -/
theorem decide_response (s : Surroundings) (id : String) {route : Route}
    (h : g.handler? r = some route) :
    ∃ identity, (g.decide s id (marked id r)).response =
      (g.answer s identity (marked id r)).response := by
  unfold handler? at h
  rw [← admission_marked g id] at h
  unfold decide
  have htarget : (marked id r).target.path = r.target.path := rfl
  rw [htarget]
  cases hadmission : g.admission r.target.path (marked id r).headers with
  | anyone => exact ⟨none, rfl⟩
  | known identity => exact ⟨some identity, rfl⟩
  | refused fault => simp [hadmission] at h

/-- What is added to complete an answer does not touch its status. -/
theorem serve_status (g : Gate) (s : Surroundings) (r : Request) :
    (g.serve s r).response.status =
      (g.decide s (Credential.correlationId r.headers s.freshId)
        (marked (Credential.correlationId r.headers s.freshId) r)).response.status := by
  simp only [serve, Response.correlate_status, Response.complete_status]

/-- A request that is refused is answered with the status of refusals. -/
theorem serve_refused (s : Surroundings) (h : g.handler? r = none) :
    (g.serve s r).response.status = 401 := by
  unfold handler? at h
  split at h
  · rename_i fault hadmission
    rw [serve_status, decide]
    have htarget : ∀ id, (marked id r).target.path = r.target.path := fun _ => rfl
    rw [htarget, admission_marked, hadmission]
    rfl
  · simp at h

/-! ### Passing on -/

/-- The answer to a request that is forwarded has the status of what the service behind the
gate answers to it, if it can be reached. -/
theorem serve_forward_status (s : Surroundings) (h : g.handler? r = some .forward)
    (hsize : r.body.size ≤ largestBody) :
    ∃ id, (g.serve s r).response.status =
      ((s.transport (outgoing g.target (marked id r))).map Response.status).getD 502 := by
  refine ⟨Credential.correlationId r.headers s.freshId, ?_⟩
  generalize hid : Credential.correlationId r.headers s.freshId = id
  have hroute : Route.of (marked id r).method (marked id r).target.path = .forward :=
    (handler?_eq_some_iff.1 h).2
  have hfits : ¬ largestBody < (marked id r).body.size := Nat.not_lt.2 hsize
  rcases decide_response s id h with ⟨identity, hresponse⟩
  rw [serve_status, hid, hresponse, answer, hroute]
  simp only [Gatehouse.forward, if_neg hfits]
  cases s.transport (outgoing g.target (marked id r)) <;> rfl

/-- How the service behind the gate is reached matters for the one request that is forwarded
to it. -/
theorem answer_transport {identity : Option Identity} (t t' : Transport)
    (h : Route.of r.method r.target.path = .forward → r.body.size ≤ largestBody →
      t (outgoing g.target r) = t' (outgoing g.target r)) :
    g.answer { s with transport := t } identity r =
      g.answer { s with transport := t' } identity r := by
  unfold answer
  cases hroute : Route.of r.method r.target.path with
  | health => rfl
  | effective => rfl
  | socket => rfl
  | wrongMethod => rfl
  | forward =>
      by_cases hlarge : largestBody < r.body.size
      · simp only [Gatehouse.forward, if_pos hlarge]
      · have hsame := h hroute (Nat.le_of_not_lt hlarge)
        simp only [Gatehouse.forward, if_neg hlarge, hsame]

/-- How the service behind the gate is reached matters for the one marked request that is
forwarded to it, unless it is refused. -/
theorem serve_transport (t t' : Transport)
    (h : g.handler? r = some .forward → r.body.size ≤ largestBody →
      t (outgoing g.target (marked (Credential.correlationId r.headers s.freshId) r)) =
        t' (outgoing g.target (marked (Credential.correlationId r.headers s.freshId) r))) :
    g.serve { s with transport := t } r = g.serve { s with transport := t' } r := by
  have hdecide : g.decide { s with transport := t }
        (Credential.correlationId r.headers s.freshId)
        (marked (Credential.correlationId r.headers s.freshId) r) =
      g.decide { s with transport := t' } (Credential.correlationId r.headers s.freshId)
        (marked (Credential.correlationId r.headers s.freshId) r) := by
    generalize Credential.correlationId r.headers s.freshId = id at h ⊢
    have hadmission : g.admission (marked id r).target.path (marked id r).headers =
        g.admission r.target.path r.headers := admission_marked g id r.target.path r
    unfold decide
    rw [hadmission]
    unfold handler? at h
    cases hentry : g.admission r.target.path r.headers with
    | refused fault => rfl
    | anyone =>
        simp only [hentry, Option.some.injEq] at h
        exact answer_transport t t' h
    | known identity =>
        simp only [hentry, Option.some.injEq] at h
        have hanswer : g.answer { s with transport := t } (some identity) (marked id r) =
            g.answer { s with transport := t' } (some identity) (marked id r) :=
          answer_transport t t' h
        simp only [hanswer]
  unfold serve
  simp only [hdecide]

/-- A request is passed on exactly if it is forwarded and its body is not too large. -/
theorem passesOn_iff :
    g.PassesOn s r ↔ g.handler? r = some .forward ∧ r.body.size ≤ largestBody := by
  constructor
  · rintro ⟨t, t', hdiffers⟩
    by_cases hpassed : g.handler? r = some .forward ∧ r.body.size ≤ largestBody
    · exact hpassed
    · have hsame := serve_transport (s := s) t t' fun hforward hsize =>
        absurd ⟨hforward, hsize⟩ hpassed
      exact absurd hsame hdiffers
  · rintro ⟨hforward, hsize⟩
    let reply : Response := .empty 200
    refine ⟨fun _ => none, fun _ => some reply, ?_⟩
    intro hsame
    rcases serve_forward_status { s with transport := fun _ => none } hforward hsize with
      ⟨_, hnone⟩
    rcases serve_forward_status { s with transport := fun _ => some reply } hforward hsize with
      ⟨_, hsome⟩
    rw [hsame, hsome] at hnone
    simp [reply, Response.empty] at hnone

/-- A request for which nothing vouches gets past the gate exactly if its path is the root
of the realtime service with a slash at the end: it is passed on to the service behind the
gate, unless its body is too large.  All other paths of the realtime service have its
route. -/
theorem passes_unvouched_iff (g : Gate) (s : Surroundings) (r : Request) :
    (¬ g.Vouched r →
      (g.PassesOn s r ∨ g.handler? r = some .effective ↔
        r.target.path = realtimePath ++ "/" ∧ r.body.size ≤ largestBody)) ∧
    (isRealtimePath r.target.path = true →
      (Route.of r.method r.target.path = .forward ↔
        r.target.path = realtimePath ++ "/") ∧
      (Route.of r.method r.target.path = .socket ∨
          Route.of r.method r.target.path = .wrongMethod ↔
        r.target.path ≠ realtimePath ++ "/")) := by
  constructor
  · intro hunvouched
    have hlet : g.Vouched r ∨ isRealtimePath r.target.path = true ↔
        isRealtimePath r.target.path = true := or_iff_right hunvouched
    rw [passesOn_iff, handler?_eq_some_iff, handler?_eq_some_iff, hlet]
    constructor
    · rintro (⟨⟨hrealtime, hforward⟩, hsize⟩ | ⟨hrealtime, heffective⟩)
      · exact ⟨(Route.of_realtime_eq_forward_iff hrealtime).1 hforward, hsize⟩
      · exact absurd heffective (Route.of_realtime_ne_effective hrealtime)
    · rintro ⟨hslash, hsize⟩
      have hrealtime : isRealtimePath r.target.path = true := by
        rw [hslash]
        decide
      exact .inl ⟨⟨hrealtime, (Route.of_realtime_eq_forward_iff hrealtime).2 hslash⟩, hsize⟩
  · intro hrealtime
    exact ⟨Route.of_realtime_eq_forward_iff hrealtime,
      Route.of_realtime_eq_socket_or_iff hrealtime⟩

/-! ### A request without a token -/

/-- A gate that opens no path and accepts no token. -/
def barred : Gate where
  authenticate := fun _ => .error .badSignature
  isOpen := fun _ => false
  permissions := ⟨Permissions.defaultSuffixes⟩
  target := "http://localhost"

/-- What a request meets where no service can be reached. -/
def secluded : Surroundings := ⟨"id", "now", fun _ => none, false⟩

/-- A request for the root of the realtime service with a slash at the end. -/
def slashed : Request := ⟨"GET", .place "/rt/", [], ByteArray.empty⟩

theorem not_vouched_slashed : ¬ barred.Vouched slashed := by
  simp [Vouched, barred]

/-- The request is passed on although it shows no token. -/
theorem passes_unvouched_slashed :
    ¬ barred.Vouched slashed ∧
      (barred.PassesOn secluded slashed ∨ barred.handler? slashed = some .effective) := by
  have hsize : slashed.body.size ≤ largestBody := Nat.zero_le _
  have hpasses := (passes_unvouched_iff barred secluded slashed).1 not_vouched_slashed
  exact ⟨not_vouched_slashed, hpasses.2 ⟨by decide, hsize⟩⟩

/-- Not every request that gets past the gate has something that vouches for it. -/
theorem not_always_vouched :
    ¬ ∀ (g : Gate) (s : Surroundings) (r : Request),
      (g.PassesOn s r ∨ g.handler? r = some .effective) → g.Vouched r := by
  intro halways
  have hrealtime : isRealtimePath slashed.target.path = true := by decide
  have hforward : Route.of slashed.method slashed.target.path = .forward := by decide
  have hpasses : barred.PassesOn secluded slashed :=
    passesOn_iff.2 ⟨handler?_eq_some_iff.2 ⟨.inr hrealtime, hforward⟩, Nat.zero_le _⟩
  exact not_vouched_slashed (halways _ _ _ (.inl hpasses))

end Gate
end Gatehouse
