import Gatehouse.Proofs.Edge.Admission
import Gatehouse.Proofs.Json.Members
import Gatehouse.Proofs.Relay.Registry

/-!
# Who gets a connection

Requests for the realtime service are let through without a look at their token, so that the
route for sockets alone decides who gets a connection.  It looks for a token where a client that
opens a socket puts it, and registers whom the token speaks for if it is accepted.  No other
route registers anyone.

Main results:

- Theorem {lit}`Hub.Acts.clients_eq`: whom a happening adds to the clients of a hub.
- Theorem {lit}`Gate.serve_socket`: for whom a request opens a socket.
- Theorem {lit}`Gate.Serves.clients_eq`: who the clients of a hub behind a gate are.
- Theorem {lit}`Gate.registers_admitted`: what comes of a request for a socket, and that nobody
  else is registered.
-/

namespace Gatehouse

/-! ## The clients of a hub -/

/-- Who gets a new connection. -/
def Happening.client? : Happening → Option Identity
  | register identity _ | attend identity _ => some identity
  | _ => none

/-- Without a new connection there is no new client. -/
theorem Happening.client?_eq_none {x : Happening} (h : x.given? = none) : x.client? = none := by
  cases x <;> simp_all [given?, client?]

namespace Hub

variable {h h' : Hub} {x : Happening}

/-- Whose connections there ever were, in the order in which they were made. -/
def clients (h : Hub) : List Identity := h.sessions.map fun s => s.connection.identity

/-- A happening adds a client if it gives out a connection, and changes no other. -/
theorem Acts.clients_eq (hn : h.Numbered) (hact : h.Acts x h') :
    h'.clients = h.clients ++ x.client?.toList := by
  rcases hact.sessions_eq hn with ⟨change, hsessions, hfeeds⟩
  have hsame : (h.sessions.map change).map (fun s => s.connection.identity) = h.clients := by
    rw [List.map_map]
    exact List.map_congr_left fun s hs => (hfeeds s hs).client_eq.2
  rw [clients, hsessions, List.map_append, hsame]
  cases x <;> rfl

end Hub

/-! ## Requests for sockets -/

/-- The route for sockets has paths of the realtime service alone. -/
theorem Route.isRealtimePath_of_socket {method path : String}
    (h : Route.of method path = .socket) : isRealtimePath path = true := by
  have hknown : Local.ofPath? path = some .socket := by
    unfold Route.of at h
    cases hpath : Local.ofPath? path with
    | none => simp [hpath] at h
    | some known =>
        simp only [hpath] at h
        split at h
        · cases known <;> simp_all [Local.route]
        · simp at h
  unfold Local.ofPath? at hknown
  split at hknown
  · simp at hknown
  · split at hknown
    · simp at hknown
    · split at hknown
      · rename_i hroot
        rw [hroot]
        decide
      · split at hknown
        · rename_i hrealtime
          exact hrealtime.1
        · simp at hknown

namespace Gate

variable {g : Gate} {s : Surroundings} {r : Request} {query : Option String}
  {identity : Identity}

/-- Whether a request asks for a socket, with what its query says about a token. -/
def AsksForSocket (s : Surroundings) (r : Request) (query : Option String) : Prop :=
  Route.of r.method r.target.path = .socket ∧ socketQuery s.upgradable r = .ok query

/-- Whether the token with which a request asks for a socket is accepted and speaks for
someone. -/
def Admits (g : Gate) (r : Request) (query : Option String) (identity : Identity) : Prop :=
  ∃ token, Credential.socketToken? r.headers query = some token ∧
    g.authenticate token = .ok identity

/-- For whom a request opens a socket. -/
def caller? (g : Gate) (s : Surroundings) (r : Request) : Option Identity :=
  if Route.of r.method r.target.path = .socket then
    (socketQuery s.upgradable r).toOption.bind fun query =>
      (Credential.socketToken? r.headers query).bind fun token =>
        (g.authenticate token).toOption
  else none

/-- A request opens a socket for someone if it asks for one with a token that is accepted and
speaks for him. -/
theorem caller?_eq_some_iff :
    g.caller? s r = some identity ↔
      ∃ query, AsksForSocket s r query ∧ g.Admits r query identity := by
  unfold caller? AsksForSocket Admits
  by_cases hroute : Route.of r.method r.target.path = .socket
  · simp [hroute, Option.bind_eq_some_iff, Json.toOption_eq_some_iff]
  · simp [hroute]

/-- A request opens no socket if it asks for none or its token is not accepted. -/
theorem caller?_eq_none_iff :
    g.caller? s r = none ↔
      ∀ query, AsksForSocket s r query → ∀ identity, ¬ g.Admits r query identity := by
  rw [Option.eq_none_iff_forall_ne_some]
  constructor
  · intro hnone query hasks identity hadmits
    exact hnone identity (caller?_eq_some_iff.2 ⟨query, hasks, hadmits⟩)
  · intro hnobody identity hcaller
    rcases caller?_eq_some_iff.1 hcaller with ⟨query, hasks, hadmits⟩
    exact hnobody query hasks identity hadmits

/-- A request says one thing about a token in its query. -/
theorem AsksForSocket.query_eq {other : Option String} (h : AsksForSocket s r query)
    (hother : AsksForSocket s r other) : other = query :=
  Except.ok.inj (hother.2.symm.trans h.2)

/-! ### The marked request -/

/-- The mark of a request touches no other field. -/
theorem first?_marked (name : String) (hname : name ≠ Credential.correlationField) (id : String)
    (r : Request) : (marked id r).headers.first? name = r.headers.first? name := by
  rw [Headers.first?, marked, Headers.all_put_of_ne r.headers hname, ← Headers.first?]

theorem isWord_marked (name : String) (hname : name ≠ Credential.correlationField)
    (id word : String) (r : Request) :
    isWord (marked id r).headers name word = isWord r.headers name word := by
  simp only [isWord, first?_marked name hname]

theorem holdsWord_marked (name : String) (hname : name ≠ Credential.correlationField)
    (id word : String) (r : Request) :
    holdsWord (marked id r).headers name word = holdsWord r.headers name word := by
  simp only [holdsWord, first?_marked name hname]

/-- The mark of a request does not touch what a request for a socket says. -/
@[simp]
theorem socketQuery_marked (upgradable : Bool) (id : String) (r : Request) :
    socketQuery upgradable (marked id r) = socketQuery upgradable r := by
  have hconnection := holdsWord_marked "connection" (by decide) id "upgrade" r
  have hupgrade := isWord_marked "upgrade" (by decide) id "websocket" r
  have hkey := first?_marked "sec-websocket-key" (by decide) id r
  have hversion := isWord_marked "sec-websocket-version" (by decide) id socketVersion r
  unfold socketQuery
  rw [hconnection, hupgrade, hkey, hversion]
  rfl

/-- The mark of a request does not touch its token for a socket. -/
@[simp]
theorem socketToken?_marked (id : String) (r : Request) (query : Option String) :
    Credential.socketToken? (marked id r).headers query =
      Credential.socketToken? r.headers query := by
  have hprotocol := first?_marked "sec-websocket-protocol" (by decide) id r
  simp only [Credential.socketToken?, Headers.text?, hprotocol]

/-! ### What comes of them -/

/-- A request that opens a socket is answered by the upgrade, whatever its path needs. -/
theorem decide_of_socket (id : String) (hroute : Route.of r.method r.target.path = .socket) :
    g.decide s id (marked id r) = g.upgrade s (marked id r) := by
  have hrealtime : isRealtimePath (marked id r).target.path = true :=
    Route.isRealtimePath_of_socket hroute
  have hadmission : g.admission (marked id r).target.path (marked id r).headers = .anyone := by
    simp [admission, hrealtime]
  have hmarked : Route.of (marked id r).method (marked id r).target.path = .socket := hroute
  unfold decide
  rw [hadmission]
  simp only [answer, hmarked]

/-- No other route opens a socket. -/
theorem answer_socket_of_ne (identity : Option Identity)
    (hroute : Route.of r.method r.target.path ≠ .socket) :
    (g.answer s identity r).socket = none := by
  unfold answer
  cases hother : Route.of r.method r.target.path with
  | socket => exact absurd hother hroute
  | forward =>
      simp only
      split <;> rfl
  | _ => rfl

/-- The upgrade opens a socket for the one who is admitted. -/
theorem upgrade_socket (hroute : Route.of r.method r.target.path = .socket) :
    (g.upgrade s r).socket = g.caller? s r := by
  unfold upgrade caller?
  rw [if_pos hroute]
  cases socketQuery s.upgradable r with
  | error misfit => rfl
  | ok query =>
      simp only [Except.toOption, Option.bind_some]
      cases Credential.socketToken? r.headers query with
      | none => rfl
      | some token =>
          simp only [Option.bind_some]
          cases g.authenticate token <;> rfl

/-- The mark of a request does not touch for whom it opens a socket. -/
@[simp]
theorem caller?_marked (id : String) : g.caller? s (marked id r) = g.caller? s r := by
  have hmethod : (marked id r).method = r.method := rfl
  have htarget : (marked id r).target = r.target := rfl
  simp only [caller?, socketQuery_marked, socketToken?_marked, hmethod, htarget]

/-- A request opens a socket for the caller whose token is accepted and for nobody else. -/
theorem serve_socket (g : Gate) (s : Surroundings) (r : Request) :
    (g.serve s r).socket = g.caller? s r := by
  have hserved : (g.serve s r).socket =
      (g.decide s (Credential.correlationId r.headers s.freshId)
        (marked (Credential.correlationId r.headers s.freshId) r)).socket := rfl
  rw [hserved]
  generalize Credential.correlationId r.headers s.freshId = id
  by_cases hroute : Route.of r.method r.target.path = .socket
  · have hmarked : Route.of (marked id r).method (marked id r).target.path = .socket := hroute
    rw [decide_of_socket id hroute, upgrade_socket hmarked, caller?_marked]
  · have hnone : g.caller? s r = none := if_neg hroute
    have hmarked : Route.of (marked id r).method (marked id r).target.path ≠ .socket := hroute
    rw [hnone, decide]
    split
    · exact answer_socket_of_ne _ hmarked
    · exact answer_socket_of_ne _ hmarked
    · rfl

/-- Who gets a socket is registered and attended to once the connection has become one, and
nobody else is. -/
theorem join_serve (g : Gate) (s : Surroundings) (r : Request) (hub : Hub) (becomes : Bool) :
    join hub (g.serve s r) becomes =
      match g.caller? s r, becomes with
      | some identity, true => ((hub.attend identity).1, some (hub.attend identity).2)
      | _, _ => (hub, none) := by
  unfold join
  rw [serve_socket]
  cases g.caller? s r with
  | none => rfl
  | some identity => cases becomes <;> rfl

/-- What is added to complete an answer does not touch whether the connection is closed. -/
theorem serve_connection (g : Gate) (s : Surroundings) (r : Request) :
    (g.serve s r).response.headers.all "connection" =
      (g.decide s (Credential.correlationId r.headers s.freshId)
        (marked (Credential.correlationId r.headers s.freshId) r)).response.headers.all
          "connection" := by
  have hmark : "connection" ≠ Credential.correlationField := by decide
  rw [serve, Response.all_correlate_of_ne hmark,
    Response.all_complete_of_ne (by decide) (by decide)]

/-- The answer to a request for a socket is that of the upgrade, completed. -/
theorem serve_of_asks (g : Gate) (hasks : AsksForSocket s r query) :
    ∃ id, AsksForSocket s (marked id r) query ∧
      (g.serve s r).response.status = (g.upgrade s (marked id r)).response.status ∧
      (g.serve s r).response.headers.all "connection" =
        (g.upgrade s (marked id r)).response.headers.all "connection" := by
  rcases hasks with ⟨hroute, hquery⟩
  refine ⟨Credential.correlationId r.headers s.freshId,
    ⟨hroute, (socketQuery_marked _ _ _).trans hquery⟩, ?_, ?_⟩
  · rw [serve_status, decide_of_socket _ hroute]
  · rw [serve_connection, decide_of_socket _ hroute]

/-- The upgrade accepts a token that is accepted. -/
theorem upgrade_response_of_admits (hasks : AsksForSocket s r query)
    (hadmits : g.Admits r query identity) :
    (g.upgrade s r).response = socketAccepted r.headers := by
  rcases hadmits with ⟨token, htoken, haccepted⟩
  simp only [upgrade, hasks.2, htoken, haccepted]

/-- The upgrade refuses everyone else. -/
theorem upgrade_response_of_nobody (hasks : AsksForSocket s r query)
    (hnobody : ∀ identity, ¬ g.Admits r query identity) :
    (g.upgrade s r).response = socketRefused := by
  unfold upgrade
  simp only [hasks.2]
  cases htoken : Credential.socketToken? r.headers query with
  | none => rfl
  | some token =>
      cases hverdict : g.authenticate token with
      | ok identity => exact absurd ⟨token, htoken, hverdict⟩ (hnobody identity)
      | error fault => simp only [hverdict]

/-- A request for a socket with a token that is accepted is answered with a switch of protocols,
and whoever the token speaks for is registered once the connection has become a socket. -/
theorem serve_of_admits (hasks : AsksForSocket s r query) (hadmits : g.Admits r query identity) :
    (g.serve s r).response.status = 101 ∧
      ∀ hub, join hub (g.serve s r) true =
          ((hub.attend identity).1, some (hub.attend identity).2) ∧
        join hub (g.serve s r) false = (hub, none) := by
  constructor
  · rcases serve_of_asks g hasks with ⟨id, hmarked, hstatus, -⟩
    have hadmitted : g.Admits (marked id r) query identity := by
      simpa only [Admits, socketToken?_marked] using hadmits
    rw [hstatus, upgrade_response_of_admits hmarked hadmitted]
    rfl
  · intro hub
    have hcaller : g.caller? s r = some identity :=
      caller?_eq_some_iff.2 ⟨query, hasks, hadmits⟩
    rw [join_serve, join_serve, hcaller]
    exact ⟨rfl, rfl⟩

/-- A request for a socket without a token that is accepted is answered with a refusal that
closes the connection, and nobody is registered. -/
theorem serve_of_nobody (hasks : AsksForSocket s r query)
    (hnobody : ∀ identity, ¬ g.Admits r query identity) :
    (g.serve s r).response.status = 401 ∧
      (g.serve s r).response.headers.all "connection" = [Text.utf8 "close"] ∧
      ∀ hub becomes, join hub (g.serve s r) becomes = (hub, none) := by
  rcases serve_of_asks g hasks with ⟨id, hmarked, hstatus, hconnection⟩
  have hrefused : ∀ identity, ¬ g.Admits (marked id r) query identity := by
    simpa only [Admits, socketToken?_marked] using hnobody
  refine ⟨?_, ?_, ?_⟩
  · rw [hstatus, upgrade_response_of_nobody hmarked hrefused]
    rfl
  · rw [hconnection, upgrade_response_of_nobody hmarked hrefused]
    rfl
  · intro hub becomes
    have hcaller : g.caller? s r = none :=
      caller?_eq_none_iff.2 fun other hother => hasks.query_eq hother ▸ hnobody
    rw [join_serve, hcaller]

/-- A request that asks for no socket registers nobody. -/
theorem join_of_not_asks (hnone : ∀ query, ¬ AsksForSocket s r query) (hub : Hub)
    (becomes : Bool) : join hub (g.serve s r) becomes = (hub, none) := by
  have hcaller : g.caller? s r = none :=
    caller?_eq_none_iff.2 fun query hasks => absurd hasks (hnone query)
  rw [join_serve, hcaller]

/-! ## Requests one after another -/

/-- A request with what it meets. -/
structure Call where
  surroundings : Surroundings
  request : Request
  /-- Whether the connection becomes a socket if the answer says so. -/
  becomes : Bool

/-- Who is registered in answer to a call. -/
def Call.joins? (c : Call) (g : Gate) : Option Identity :=
  if c.becomes then g.caller? c.surroundings c.request else none

theorem Call.joins?_eq_some_iff {c : Call} :
    c.joins? g = some identity ↔
      c.becomes = true ∧ ∃ query, AsksForSocket c.surroundings c.request query ∧
        g.Admits c.request query identity := by
  unfold joins?
  cases c.becomes with
  | false => simp
  | true => simp [caller?_eq_some_iff]

/-- Some calls at a gate and where they lead its hub.  In between anything may happen at the hub
but that someone is registered there. -/
inductive Serves (g : Gate) : Hub → List Call → Hub → Prop where
  | refl (h : Hub) : Serves g h [] h
  | call {h h' : Hub} {calls : List Call} (hserves : Serves g h calls h') (c : Call) :
      Serves g h (calls ++ [c]) (join h' (g.serve c.surroundings c.request) c.becomes).1
  | other {h h' h'' : Hub} {calls : List Call} {x : Happening} (hserves : Serves g h calls h')
      (hact : h'.Acts x h'') (hnobody : x.given? = none) : Serves g h calls h''

/-- The clients of the hub are those who were registered in answer to a call, in order. -/
theorem Serves.clients_eq {n : Nat} {calls : List Call} {h : Hub}
    (hserves : g.Serves (.ofCapacity n) calls h) :
    h.Numbered ∧ h.clients = calls.filterMap fun c => c.joins? g := by
  induction hserves with
  | refl => exact ⟨Hub.numbered_ofCapacity n, rfl⟩
  | @call h' calls hserves c ih =>
      rcases ih with ⟨hn, hclients⟩
      have hjoins : c.joins? g = if c.becomes then g.caller? c.surroundings c.request
        else none := rfl
      rw [join_serve, List.filterMap_append, ← hclients]
      cases hcaller : g.caller? c.surroundings c.request with
      | none => simp [hn, hjoins, hcaller]
      | some identity =>
          cases hbecomes : c.becomes with
          | false => simp [hn, hjoins, hbecomes]
          | true =>
              have hact : h'.Acts (.attend identity (h'.attend identity).2)
                  (h'.attend identity).1 := .attend identity
              refine ⟨hact.numbered hn, ?_⟩
              rw [hact.clients_eq hn]
              simp [hjoins, hcaller, hbecomes, Happening.client?]
  | other hserves hact hnobody ih =>
      rcases ih with ⟨hn, hclients⟩
      refine ⟨hact.numbered hn, ?_⟩
      rw [hact.clients_eq hn, Happening.client?_eq_none hnobody, hclients]
      exact List.append_nil _

/-- A request for a socket whose token is accepted is answered with a switch of protocols; once
the connection has become a socket, exactly the one for whom the token speaks is registered, and
once.  Without a token or if it is not accepted, the answer is a refusal that closes the
connection, and nobody is registered.  No other request registers anyone.  So after any requests,
whatever else has happened, the clients are exactly those whose tokens were accepted. -/
theorem registers_admitted (g : Gate) :
    (∀ s r query, AsksForSocket s r query →
      (∀ identity, g.Admits r query identity →
        (g.serve s r).response.status = 101 ∧
        ∀ hub, join hub (g.serve s r) true =
            ((hub.attend identity).1, some (hub.attend identity).2) ∧
          join hub (g.serve s r) false = (hub, none)) ∧
      ((∀ identity, ¬ g.Admits r query identity) →
        (g.serve s r).response.status = 401 ∧
        (g.serve s r).response.headers.all "connection" = [Text.utf8 "close"] ∧
        ∀ hub becomes, join hub (g.serve s r) becomes = (hub, none))) ∧
    (∀ s r, (∀ query, ¬ AsksForSocket s r query) →
      ∀ hub becomes, join hub (g.serve s r) becomes = (hub, none)) ∧
    (∀ (c : Call) identity, c.joins? g = some identity ↔
      c.becomes = true ∧ ∃ query, AsksForSocket c.surroundings c.request query ∧
        g.Admits c.request query identity) ∧
    ∀ n calls h, g.Serves (.ofCapacity n) calls h →
      h.clients = calls.filterMap fun c => c.joins? g := by
  refine ⟨?_, ?_, ?_, ?_⟩
  · intro s r query hasks
    exact ⟨fun identity hadmits => serve_of_admits hasks hadmits, serve_of_nobody hasks⟩
  · intro s r hnone
    exact join_of_not_asks hnone
  · exact fun c identity => Call.joins?_eq_some_iff
  · intro n calls h hserves
    exact hserves.clients_eq.2

/-! ### Two clients that knock -/

/-- A gate that opens no path and accepts one token. -/
def keeper : Gate :=
  { barred with authenticate := fun token =>
      if token = "pass" then .ok ⟨"ada", none, [], .empty⟩ else .error .badSignature }

/-- A request for a socket with a token among the subprotocols. -/
def knock (token : String) : Request :=
  ⟨"GET", .place "/rt",
    [.ofText "connection" "upgrade", .ofText "upgrade" "websocket",
      .ofText "sec-websocket-key" "key", .ofText "sec-websocket-version" socketVersion,
      .ofText "sec-websocket-protocol" ("bearer, " ++ token)],
    ByteArray.empty⟩

/-- A call with such a request, whose connection becomes a socket if it may. -/
def Call.knocking (token : String) : Call :=
  ⟨{ secluded with upgradable := true }, knock token, true⟩

/-- One client is let in and is the only one in the hub; the other is refused. -/
theorem registers_admitted_of_knocking :
    AsksForSocket { secluded with upgradable := true } (knock "pass") none ∧
      keeper.Admits (knock "pass") none ⟨"ada", none, [], .empty⟩ ∧
      (keeper.serve { secluded with upgradable := true } (knock "pass")).response.status = 101 ∧
      (keeper.serve { secluded with upgradable := true } (knock "fail")).response.status = 401 ∧
      ∃ h, keeper.Serves (.ofCapacity 1) [.knocking "pass", .knocking "fail"] h ∧
        h.clients = [⟨"ada", none, [], .empty⟩] := by
  rcases keeper.registers_admitted with ⟨hanswers, -, -, hclients⟩
  have hpass : AsksForSocket { secluded with upgradable := true } (knock "pass") none :=
    ⟨by decide, rfl⟩
  have hfail : AsksForSocket { secluded with upgradable := true } (knock "fail") none :=
    ⟨by decide, rfl⟩
  have hadmits : keeper.Admits (knock "pass") none ⟨"ada", none, [], .empty⟩ := ⟨"pass", rfl, rfl⟩
  have hnobody : ∀ identity, ¬ keeper.Admits (knock "fail") none identity := by
    rintro identity ⟨token, htoken, haccepted⟩
    have hsame : some "fail" = some token := htoken
    cases hsame
    simp [keeper] at haccepted
  refine ⟨hpass, hadmits, ((hanswers _ _ _ hpass).1 _ hadmits).1,
    ((hanswers _ _ _ hfail).2 hnobody).1, _,
    .call (.call (.refl _) (.knocking "pass")) (.knocking "fail"), ?_⟩
  rw [hclients 1 _ _ (.call (.call (.refl _) (.knocking "pass")) (.knocking "fail"))]
  rfl

end Gate
end Gatehouse
