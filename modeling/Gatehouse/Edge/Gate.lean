import Gatehouse.Edge.Allowlist
import Gatehouse.Edge.Credential
import Gatehouse.Edge.Effective
import Gatehouse.Edge.Forward
import Gatehouse.Edge.Query
import Gatehouse.Relay.Hub
import Gatehouse.Text.Mark

/-!
# The gate

Every request is looked at once: a request for an open path or for the realtime service
is let through, any other needs a token that is accepted.  What is let through is
answered by the route of its path; what has no route is forwarded.  Each decision about
a token is written to the audit log.

Main results:

- Theorem {lit}`Gate.known_shows_token`: who is known has shown a token that is accepted.
- Theorem {lit}`Gate.serve_correlated`: an answer carries the correlation id of its
  request, once.

Current gaps:

- The audit log holds the decisions about tokens; other lines of a log are left out.
-/

namespace Gatehouse

/-! ## Audit -/

/-- What was decided about a token. -/
inductive Verdict where
  | accepted (identity : Identity)
  | refused (fault : AuthFault)

/-- An entry of the audit log. -/
structure AuditEntry where
  /-- Whether the token was to open a socket. -/
  socket : Bool
  correlation : String
  path : String
  verdict : Verdict

namespace AuditEntry

/-- How serious an entry is. -/
def level (e : AuditEntry) : String :=
  match e.verdict with
  | .accepted _ => "INFO"
  | .refused _ => "WARN"

/-- The wording of an entry. -/
def message (e : AuditEntry) : String :=
  (if e.socket then "ws " else "") ++
    (match e.verdict with
      | .accepted _ => "auth success"
      | .refused _ => "auth failure")

end AuditEntry

/-! ## Routes -/

/-- What answers a request. -/
inductive Route where
  | health
  | effective
  | socket
  | forward
  /-- The path is known, but not with this method. -/
  | wrongMethod
deriving DecidableEq, Repr

namespace Route

/-- The methods with which a path is known. -/
inductive Local where
  | health
  | effective
  | socket
deriving DecidableEq, Repr

/-- What a path is known for. -/
def Local.ofPath? (path : String) : Option Local :=
  if path = "/health" then some health
  else if path = "/authz/effective" then some effective
  else if path = realtimePath then some socket
  else if isRealtimePath path ∧ path ≠ realtimePath ++ "/" then some socket
  else none

/-- The methods of what a path is known for. -/
def Local.methods : Local → List String
  | health | socket => ["GET", "HEAD"]
  | effective => ["POST"]

/-- The route of what a path is known for. -/
def Local.route : Local → Route
  | health => .health
  | effective => .effective
  | socket => .socket

/-- The route of a request. -/
def of (method path : String) : Route :=
  match Local.ofPath? path with
  | none => forward
  | some known => if known.methods.contains method then known.route else wrongMethod

/-- The methods to name in an answer: those of the path, if the request has another. -/
def allowed (method path : String) : List String :=
  match Local.ofPath? path with
  | none => []
  | some known => if known.methods.contains method then [] else known.methods

end Route

/-! ## The gate -/

/-- What decides about requests. -/
structure Gate where
  /-- Who a token speaks for. -/
  authenticate : String → Except AuthFault Identity
  /-- Whether a path needs no token. -/
  isOpen : String → Bool
  permissions : Permissions
  /-- Where requests are forwarded. -/
  target : String

/-- How a request came to be let through, or not. -/
inductive Admission where
  /-- Its path needs no token. -/
  | anyone
  | known (identity : Identity)
  | refused (fault : AuthFault)

/-- What a request meets. -/
structure Surroundings where
  /-- An id for a request that has none. -/
  freshId : String
  /-- The time as a text. -/
  time : String
  /-- How the service behind the gate is reached. -/
  transport : Transport
  /-- Whether a connection can become a socket. -/
  upgradable : Bool

/-- What comes of a request. -/
structure Outcome where
  response : Response
  /-- The entries of the audit log, in order. -/
  entries : List AuditEntry
  /-- Who gets a socket. -/
  socket : Option Identity

namespace Gate

/-- Who the bearer token of a request speaks for. -/
def identify (g : Gate) (headers : Headers) : Except AuthFault Identity :=
  (Credential.bearerToken headers).bind g.authenticate

/-- Decides about a request. -/
def admission (g : Gate) (path : String) (headers : Headers) : Admission :=
  if g.isOpen path || isRealtimePath path then .anyone
  else
    match g.identify headers with
    | .ok identity => .known identity
    | .error fault => .refused fault

/-- The answer to a refused request. -/
def refuse (refusal : Refusal) : Response :=
  .ofText refusal.status Response.jsonType refusal.body

/-- The answer that all is well. -/
def healthResponse (time : String) : Response :=
  .ofText 200 Response.jsonType
    (Json.Value.object [("ok", .bool true), ("ts", .string time)]).text

/-- The answer to a question for effective roles. -/
def effectiveResponse (g : Gate) (identity : Option Identity) (r : Request) : Response :=
  match identity with
  | none => Misfit.noIdentity.response
  | some caller =>
      match EffectiveCall.ofRequest r with
      | .error misfit => misfit.response
      | .ok call =>
          match call.answer g.permissions caller with
          | .ok roles => .ofText 200 Response.jsonType (call.toJson caller roles).text
          | .error denied => refuse (.forbidden denied)

/-! ### Sockets -/

/-- Whether the first value of a name is a word, in whatever case. -/
def isWord (headers : Headers) (name word : String) : Bool :=
  match headers.first? name with
  | some value => Text.lower (String.ofList (value.map fun b => Char.ofNat b.toNat)) == word
  | none => false

/-- Whether the first value of a name holds a word somewhere, in whatever case. -/
def holdsWord (headers : Headers) (name word : String) : Bool :=
  match (headers.first? name).bind Text.ofUtf8? with
  | some text => Text.holdsMark word.toList (Text.lower text).toList
  | none => false

/-- The version of sockets. -/
def socketVersion : String := "13"

/-- The token in the query of a request for a socket, if the request is one. -/
def socketQuery (upgradable : Bool) (r : Request) : Except Misfit (Option String) :=
  match Query.lookup r.target.query? "token" with
  | .repeated => .error .badQuery
  | .found token =>
      if r.method ≠ "GET" then .error .upgradeMethod
      else if !(holdsWord r.headers "connection" "upgrade" &&
          isWord r.headers "upgrade" "websocket" &&
          (r.headers.first? "sec-websocket-key").isSome &&
          isWord r.headers "sec-websocket-version" socketVersion) then .error .noUpgrade
      else if !upgradable then .error .notUpgradable
      else .ok token

/-- The answer to a request for a socket without a good token. -/
def socketRefused : Response :=
  { Response.empty 401 with headers := [HeaderField.ofText "connection" "close"] }

/-- Whether the client offers the subprotocol of bearer tokens. -/
def offersBearer (headers : Headers) : Bool :=
  match headers.text? "sec-websocket-protocol" with
  | some text => ((Text.splitOn ',' text).map Text.trim).contains Credential.scheme
  | none => false

/-- The answer with which a connection becomes a socket.  Its proof that the key was read
is up to the transport. -/
def socketAccepted (headers : Headers) : Response :=
  { Response.empty 101 with
    headers := [HeaderField.ofText "connection" "upgrade",
        HeaderField.ofText "upgrade" "websocket"] ++
      (if offersBearer headers then
        [HeaderField.ofText "sec-websocket-protocol" Credential.scheme] else []) }

/-- Answers a request for a socket. -/
def upgrade (g : Gate) (s : Surroundings) (r : Request) : Outcome :=
  match socketQuery s.upgradable r with
  | .error misfit => ⟨misfit.response, [], none⟩
  | .ok query =>
      let entry (verdict : Verdict) : AuditEntry :=
        ⟨true, Credential.correlationId r.headers s.freshId, r.target.path, verdict⟩
      match Credential.socketToken? r.headers query with
      | none => ⟨socketRefused, [entry (.refused .missing)], none⟩
      | some token =>
          match g.authenticate token with
          | .ok identity =>
              ⟨socketAccepted r.headers, [entry (.accepted identity)], some identity⟩
          | .error fault => ⟨socketRefused, [entry (.refused fault)], none⟩

/-! ### Serving -/

/-- Answers a request that is let through. -/
def answer (g : Gate) (s : Surroundings) (identity : Option Identity) (r : Request) : Outcome :=
  match Route.of r.method r.target.path with
  | .health => ⟨healthResponse s.time, [], none⟩
  | .effective => ⟨g.effectiveResponse identity r, [], none⟩
  | .socket => g.upgrade s r
  | .forward =>
      match Gatehouse.forward s.transport g.target r with
      | .ok response => ⟨response, [], none⟩
      | .error refusal => ⟨refuse refusal, [], none⟩
  | .wrongMethod => ⟨Response.empty 405, [], none⟩

/-- The request with a single correlation id. -/
def marked (id : String) (r : Request) : Request :=
  { r with headers := r.headers.put Credential.correlationField (Text.utf8 id) }

/-- What comes of a request before its answer is completed. -/
def decide (g : Gate) (s : Surroundings) (id : String) (r : Request) : Outcome :=
  let entry (verdict : Verdict) : AuditEntry := ⟨false, id, r.target.path, verdict⟩
  match g.admission r.target.path r.headers with
  | .anyone => g.answer s none r
  | .known identity =>
      let outcome := g.answer s (some identity) r
      { outcome with entries := entry (.accepted identity) :: outcome.entries }
  | .refused fault => ⟨refuse (.unauthorized fault), [entry (.refused fault)], none⟩

/-- What comes of a request. -/
def serve (g : Gate) (s : Surroundings) (r : Request) : Outcome :=
  let id := Credential.correlationId r.headers s.freshId
  let outcome := g.decide s id (marked id r)
  { outcome with
    response := (outcome.response.complete r.method
      (Route.allowed r.method r.target.path)).correlate Credential.correlationField id }

/-- Once the connection has become a socket, who gets it is registered and attended to; the
number of the connection, if there is one. -/
def join (hub : Hub) (outcome : Outcome) (becomes : Bool) : Hub × Option Nat :=
  match outcome.socket with
  | some identity =>
      if becomes then
        let (hub, id) := hub.attend identity
        (hub, some id)
      else (hub, none)
  | none => (hub, none)

/-! ## Laws -/

/-- Who is known has shown a token that is accepted. -/
theorem known_shows_token {g : Gate} {path : String} {headers : Headers} {identity : Identity}
    (h : g.admission path headers = .known identity) :
    ∃ token, Credential.bearerToken headers = .ok token ∧
      g.authenticate token = .ok identity := by
  unfold admission at h
  split at h
  · simp at h
  · split at h
    · rename_i i hi
      simp only [Admission.known.injEq] at h
      subst h
      unfold identify at hi
      cases ht : Credential.bearerToken headers with
      | error fault => simp [ht, Except.bind] at hi
      | ok token => exact ⟨token, rfl, by simpa [ht, Except.bind] using hi⟩
    · simp at h

/-- An answer carries the correlation id of its request, once. -/
theorem serve_correlated (g : Gate) (s : Surroundings) (r : Request) :
    (g.serve s r).response.headers.all Credential.correlationField =
      [Text.utf8 (Credential.correlationId r.headers s.freshId)] :=
  Response.all_correlate _ _ _

end Gate
end Gatehouse
