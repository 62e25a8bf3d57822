import Gatehouse.Proofs.Edge.Passage

/-!
# Which fields are relayed

Between a client and the service behind the gate the fields of a message go in both directions
as they came, with the same values in the same order, except for a fixed list of fields that
concern one connection, the length of a body that is sent on, and the id of the request.  The
list is fixed indeed: the options of a connection field, which may name further fields that are
meant for one connection, are not read.

Main results:

- Theorem {lit}`Gate.serve_of_reply`: the answer to a request is what is relayed of the answer
  of the service, marked with the id.
- Theorem {lit}`Gate.relays_intact`: which values of which fields are relayed.
- Theorem {lit}`Gate.relays_nominated`: the options of a connection field make no difference.
-/

namespace Gatehouse

/-! ## Fields as they are received -/

namespace Headers

variable {name : String}

/-- The header of a message whose fields have names in whatever case. -/
def received (fields : List (String × List UInt8)) : Headers :=
  fields.map fun f => HeaderField.ofBytes f.1 f.2

/-- The values of the fields with a name, in whatever case, in order. -/
def valuesOf (fields : List (String × List UInt8)) (name : String) : List (List UInt8) :=
  (fields.filter fun f => Text.equalIgnoringCase f.1 name).map Prod.snd

/-- The values of a name are those of the fields with the name in whatever case. -/
theorem all_received (fields : List (String × List UInt8)) (name : String) :
    (received fields).all (Text.lower name) = valuesOf fields name := by
  unfold received all valuesOf
  rw [List.filter_map, List.map_map]
  rfl

/-- Taking out a field keeps the first value of every other name. -/
theorem first?_without_of_ne (headers : Headers) {field : String} (h : name ≠ field) :
    (headers.without field).first? name = headers.first? name := by
  rw [first?, all_without_of_ne headers h, ← first?]

/-- Whether a name is an option in a connection field, in whatever case. -/
def Nominates (headers : Headers) (name : String) : Prop :=
  ∃ value ∈ headers.all "connection",
    ∃ option ∈ Text.splitOn ',' (String.ofList (value.map fun b => Char.ofNat b.toNat)),
      Text.lower (Text.trim option) = name

end Headers

/-! ## Fields of one connection -/

section

variable {headers : Headers} {field : String}

/-- Whether there was a field of one connection makes no difference to what is passed on. -/
theorem stripHops_without (headers : Headers) (h : field ∈ hopFields) :
    stripHops (headers.without field) = stripHops headers := by
  unfold stripHops Headers.without
  rw [List.filter_filter]
  apply List.filter_congr
  intro f _
  by_cases hname : f.name = field
  · simp [hname, h]
  · simp [hname]

/-- A field that is passed on is put into what is passed on. -/
theorem stripHops_put (headers : Headers) (value : List UInt8) (h : field ∉ hopFields) :
    stripHops (headers.put field value) = (stripHops headers).put field value := by
  have hlast : stripHops [⟨field, value⟩] = [⟨field, value⟩] :=
    List.filter_cons_of_pos (by simpa using h)
  unfold Headers.put Headers.without
  rw [stripHops, List.filter_append, ← stripHops, ← stripHops, hlast]
  congr 1
  unfold stripHops
  rw [List.filter_filter, List.filter_filter]
  exact List.filter_congr fun f _ => Bool.and_comm _ _

end

/-! ## Answers that are relayed -/

namespace Route

/-- A request that is forwarded needs no other method. -/
theorem allowed_of_forward {method path : String} (h : of method path = forward) :
    allowed method path = [] := by
  unfold of at h
  unfold allowed
  cases hpath : Local.ofPath? path with
  | none => rfl
  | some known =>
      simp only [hpath] at h
      split at h
      · cases known <;> exact nomatch h
      · exact nomatch h

end Route

/-- Nothing is added to an answer whose length is not known. -/
theorem Response.complete_streamed {r : Response} (h : r.streamed = true) (method : String) :
    (r.complete method []).headers = r.headers := by
  unfold complete
  simp only [List.isEmpty_nil, if_true, h]
  split <;> rfl

/-- A request without its fields for the connection. -/
def Request.unconnected (r : Request) : Request :=
  { r with headers := r.headers.without "connection" }

/-- An answer without its fields for the connection. -/
def Response.unconnected (reply : Response) : Response :=
  { reply with headers := reply.headers.without "connection" }

/-- An answer is relayed as if it had no field for the connection. -/
theorem relay_unconnected (reply : Response) : relay reply.unconnected = relay reply := by
  unfold relay Response.unconnected
  dsimp only
  rw [stripHops_without reply.headers (by decide)]

namespace Gate

variable {g : Gate} {s : Surroundings} {r : Request} {o : Outgoing} {reply : Response}

/-- The answer to a request that is passed on is what is relayed of the answer of the service,
marked with the id of the request. -/
theorem serve_of_reply (hpassed : g.passedOn? s r = some o) (hreply : s.transport o = some reply) :
    (g.serve s r).response = ((relay reply).complete r.method []).correlate
      Credential.correlationField (Credential.correlationId r.headers s.freshId) := by
  unfold passedOn? at hpassed
  split at hpassed
  · rename_i hforward
    rw [Option.some.injEq] at hpassed
    rw [serve]
    dsimp only
    generalize Credential.correlationId r.headers s.freshId = id at hpassed ⊢
    have hroute : Route.of r.method r.target.path = .forward :=
      (handler?_eq_some_iff.1 hforward.1).2
    have hmarked : Route.of (marked id r).method (marked id r).target.path = .forward := hroute
    have hfits : ¬ largestBody < (marked id r).body.size := Nat.not_lt.2 hforward.2
    rcases decide_response s id hforward.1 with ⟨identity, hresponse⟩
    have hanswer : (g.answer s identity (marked id r)).response = relay reply := by
      simp only [answer, hmarked, Gatehouse.forward, if_neg hfits, hpassed, hreply]
    rw [hresponse, hanswer, Route.allowed_of_forward hroute]
  · simp at hpassed

/-- Which values of a field are relayed of the answer of the service. -/
theorem all_serve_of_reply (hpassed : g.passedOn? s r = some o)
    (hreply : s.transport o = some reply) (name : String) :
    (g.serve s r).response.headers.all name =
      if name ∈ hopFields then []
      else if name = Credential.correlationField then
        [Text.utf8 (Credential.correlationId r.headers s.freshId)]
      else reply.headers.all name := by
  have hkept : Credential.correlationField ∉ hopFields := by decide
  rw [serve_of_reply hpassed hreply]
  by_cases hmark : name = Credential.correlationField
  · rw [hmark, if_neg hkept, if_pos rfl]
    exact Response.all_correlate _ _ _
  · rw [if_neg hmark, Response.all_correlate_of_ne hmark, Response.complete_streamed rfl]
    exact all_stripHops reply.headers name

/-- Fields for the connection make no difference to who answers a request. -/
theorem handler?_unconnected (g : Gate) (r : Request) :
    g.handler? r.unconnected = g.handler? r := by
  have htoken : Credential.bearerToken (r.headers.without "connection") =
      Credential.bearerToken r.headers := by
    unfold Credential.bearerToken
    rw [Headers.first?_without_of_ne r.headers (by decide)]
  unfold handler? Request.unconnected admission identify
  rw [htoken]

/-- Fields for the connection make no difference to the id of a request. -/
theorem correlationId_unconnected (r : Request) (fresh : String) :
    Credential.correlationId r.unconnected.headers fresh =
      Credential.correlationId r.headers fresh := by
  unfold Credential.correlationId Credential.correlationId? Headers.text? Request.unconnected
  rw [Headers.first?_without_of_ne r.headers (by decide)]

/-- Fields for the connection make no difference to what is passed on for a request. -/
theorem passedOn?_unconnected (g : Gate) (s : Surroundings) (r : Request) :
    g.passedOn? s r.unconnected = g.passedOn? s r := by
  have hkept : Credential.correlationField ∉ hopFields := by decide
  have hstripped : ∀ id, stripHops (marked id r.unconnected).headers =
      stripHops (marked id r).headers := by
    intro id
    unfold marked Request.unconnected
    dsimp only
    rw [stripHops_put _ _ hkept, stripHops_put _ _ hkept, stripHops_without r.headers (by decide)]
  unfold passedOn? outgoing
  rw [handler?_unconnected, correlationId_unconnected, hstripped]
  rfl

/-! ## What is relayed in both directions -/

/-- Nothing of a field is relayed exactly if it is left out, or if there is nothing of it and it
is not the id. -/
theorem relayed_eq_nil_iff {name : String} {leftOut : List String} {id : List UInt8}
    {values : List (List UInt8)} :
    (if name ∈ leftOut then [] else if name = Credential.correlationField then [id] else values) =
        [] ↔
      name ∈ leftOut ∨ name ≠ Credential.correlationField ∧ values = [] := by
  split
  · rename_i hout
    simp [hout]
  · rename_i hkept
    split
    · rename_i hmark
      rw [hmark] at hkept
      simp [hkept, hmark]
    · rename_i hmark
      simp [hkept, hmark]

/-- Let a request be passed on.  Of each field that it has, in whatever case its name is, all
values are passed on in their order, except for the length of the body and the fields of one
connection, of which there are none, and for the id, of which there is one.  On the wire the
request has the same values, and says that it accepts everything unless it says what it accepts;
the requests that follow redirects have no field of one connection either.  In the same way all
values of each field of the answer of the service are passed on, except for the fields of one
connection and for the id. -/
theorem relays_intact {fields : List (String × List UInt8)}
    (hfields : r.headers = Headers.received fields) (hpassed : g.passedOn? s r = some o) :
    (∀ name, o.headers.all (Text.lower name) =
      if Text.lower name ∈ "content-length" :: hopFields then []
      else if Text.lower name = Credential.correlationField then
        [Text.utf8 (Credential.correlationId r.headers s.freshId)]
      else Headers.valuesOf fields name) ∧
    (∀ w, o.onWire? = some w → ∀ name, w.headers.all (Text.lower name) =
      if Text.lower name = "accept" ∧ Headers.valuesOf fields "accept" = [] then
        [Text.utf8 "*/*"]
      else o.headers.all (Text.lower name)) ∧
    (∀ wire, ∀ w ∈ g.sent s wire r, ∀ name, Text.lower name ∈ hopFields →
      w.headers.all (Text.lower name) = []) ∧
    ∀ reply replied, s.transport o = some reply → reply.headers = Headers.received replied →
      ∀ name, (g.serve s r).response.headers.all (Text.lower name) =
        if Text.lower name ∈ hopFields then []
        else if Text.lower name = Credential.correlationField then
          [Text.utf8 (Credential.correlationId r.headers s.freshId)]
        else Headers.valuesOf replied name := by
  have hall : ∀ name, o.headers.all (Text.lower name) =
      if Text.lower name ∈ "content-length" :: hopFields then []
      else if Text.lower name = Credential.correlationField then
        [Text.utf8 (Credential.correlationId r.headers s.freshId)]
      else Headers.valuesOf fields name := by
    intro name
    rw [all_passedOn hpassed, ← Headers.all_received, ← hfields]
  have haccept : o.headers.all "accept" = Headers.valuesOf fields "accept" := by
    have hlower : Text.lower "accept" = "accept" := by decide
    have hnothop : Text.lower "accept" ∉ "content-length" :: hopFields := by decide
    have hmark : Text.lower "accept" ≠ Credential.correlationField := by decide
    have hvalues := hall "accept"
    rwa [if_neg hnothop, if_neg hmark, hlower] at hvalues
  refine ⟨hall, ?_, ?_, ?_⟩
  · intro w hw name
    rw [Outgoing.all_onWire hw, haccept]
  · intro wire w hw name hhop
    rcases first_of_mem_sent hw with ⟨o', first, hpassed', hfirst, habridges⟩
    rw [hpassed, Option.some.injEq] at hpassed'
    rw [← hpassed'] at hfirst
    have hother : Text.lower name ≠ "accept" := by
      intro hname
      rw [hname] at hhop
      exact absurd hhop (by decide)
    have hnone : first.headers.all (Text.lower name) = [] := by
      rw [Outgoing.all_onWire hfirst, if_neg fun h => hother h.1, hall,
        if_pos (List.mem_cons_of_mem _ hhop)]
    have hnew : Text.lower name ≠ refererField := by
      intro hname
      rw [hname] at hhop
      exact absurd hhop (by decide)
    -- redirects only take these fields away, so that none of them comes back
    rcases habridges (Text.lower name) hnew with hsame | hgone
    · rw [hsame, hnone]
    · exact hgone.2
  · intro reply replied hreply hreplied name
    rw [all_serve_of_reply hpassed hreply, ← Headers.all_received, ← hreplied]

/-! ### A message with private fields -/

/-- The fields of a request that nominates a private one, which it has twice. -/
def privateFields : List (String × List UInt8) :=
  [("Connection", Text.utf8 "close, X-Private"), ("X-Private", Text.utf8 "1"),
    ("Keep-Alive", Text.utf8 "timeout=5"), ("x-private", Text.utf8 "2"),
    ("Authorization", goodCredential)]

/-- A request with these fields. -/
def nominating : Request where
  method := "GET"
  target := .place "/api"
  headers := Headers.received privateFields
  body := ByteArray.empty

/-- The fields of an answer that nominates a private one, which it has twice. -/
def secretFields : List (String × List UInt8) :=
  [("X-Secret", Text.utf8 "a"), ("connection", Text.utf8 "X-SECRET"),
    ("x-secret", Text.utf8 "b")]

/-- An answer with these fields. -/
def secretive : Response where
  status := 200
  headers := Headers.received secretFields
  body := ByteArray.empty
  streamed := false

/-- Surroundings in which the service behind the gate gives this answer. -/
def confiding : Surroundings where
  freshId := "id"
  time := "now"
  transport := fun _ => some secretive
  upgradable := false

/-- Both values of the private fields are relayed, and nothing of the fields of one
connection. -/
theorem relays_intact_of_private :
    ∃ o, narrow.passedOn? confiding nominating = some o ∧
      o.headers.all "x-private" = [Text.utf8 "1", Text.utf8 "2"] ∧
      o.headers.all "keep-alive" = [] ∧
      (narrow.serve confiding nominating).response.headers.all "x-secret" =
        [Text.utf8 "a", Text.utf8 "b"] := by
  have hlower : Text.lower "X-Private" = "x-private" ∧ Text.lower "Keep-Alive" = "keep-alive" ∧
      Text.lower "X-Secret" = "x-secret" := by decide
  rcases hlower with ⟨hprivate, halive, hsecret⟩
  have hpassed : ∃ o, narrow.passedOn? confiding nominating = some o := ⟨_, rfl⟩
  rcases hpassed with ⟨o, hpassed⟩
  rcases relays_intact (g := narrow) (s := confiding) (r := nominating) rfl hpassed with
    ⟨hrequest, -, -, hanswer⟩
  have hvalues := hrequest "X-Private"
  have hdropped := hrequest "Keep-Alive"
  have hreplied := hanswer secretive secretFields rfl rfl "X-Secret"
  rw [hprivate, if_neg (by decide), if_neg (by decide)] at hvalues
  rw [halive, if_pos (by decide)] at hdropped
  rw [hsecret, if_neg (by decide), if_neg (by decide)] at hreplied
  exact ⟨o, hpassed, hvalues, hdropped, hreplied⟩

/-- Let a request be passed on.  A field that one of its fields for the connection nominates is
passed on like any other: there is none of it exactly if it is in the fixed list or is the length
of the body, or if the request has none and it is not the id.  Without the fields for the
connection the same would be passed on.  So it is with the answer of the service: a nominated
field is relayed unless it is in the fixed list, and the answer would be the same without fields
for the connection.  No field of the fixed list is relayed in either direction. -/
theorem relays_nominated (hpassed : g.passedOn? s r = some o) :
    (∀ name, r.headers.Nominates name →
      (o.headers.all name = [] ↔ name ∈ "content-length" :: hopFields ∨
        name ≠ Credential.correlationField ∧ r.headers.all name = [])) ∧
    g.passedOn? s r.unconnected = some o ∧
    (∀ name ∈ hopFields, o.headers.all name = []) ∧
    ∀ reply, s.transport o = some reply →
      (∀ name, reply.headers.Nominates name →
        ((g.serve s r).response.headers.all name = [] ↔ name ∈ hopFields ∨
          name ≠ Credential.correlationField ∧ reply.headers.all name = [])) ∧
      (g.serve { s with transport := fun _ => some reply.unconnected } r).response =
        (g.serve s r).response ∧
      ∀ name ∈ hopFields, (g.serve s r).response.headers.all name = [] := by
  refine ⟨?_, ?_, ?_, ?_⟩
  · intro name _
    rw [all_passedOn hpassed, relayed_eq_nil_iff]
  · rw [passedOn?_unconnected, hpassed]
  · intro name hhop
    rw [all_passedOn hpassed, if_pos (List.mem_cons_of_mem _ hhop)]
  · intro reply hreply
    refine ⟨?_, ?_, ?_⟩
    · intro name _
      rw [all_serve_of_reply hpassed hreply, relayed_eq_nil_iff]
    · have hsame : g.passedOn? { s with transport := fun _ => some reply.unconnected } r =
          some o := hpassed
      rw [serve_of_reply hpassed hreply, serve_of_reply hsame rfl, relay_unconnected]
    · intro name hhop
      rw [all_serve_of_reply hpassed hreply, if_pos hhop]

/-- The request nominates its private field. -/
theorem nominates_private : nominating.headers.Nominates "x-private" :=
  ⟨Text.utf8 "close, X-Private", by decide, " X-Private", by decide, by decide⟩

/-- The nominated fields are relayed in both directions. -/
theorem relays_nominated_of_private :
    ∃ o, narrow.passedOn? confiding nominating = some o ∧
      nominating.headers.Nominates "x-private" ∧ o.headers.all "x-private" ≠ [] ∧
      secretive.headers.Nominates "x-secret" ∧
      (narrow.serve confiding nominating).response.headers.all "x-secret" ≠ [] := by
  have hsecret : secretive.headers.Nominates "x-secret" :=
    ⟨Text.utf8 "X-SECRET", by decide, "X-SECRET", by decide, by decide⟩
  have hpassed : ∃ o, narrow.passedOn? confiding nominating = some o := ⟨_, rfl⟩
  rcases hpassed with ⟨o, hpassed⟩
  rcases relays_nominated hpassed with ⟨hrequest, -, -, hanswer⟩
  rcases hanswer secretive rfl with ⟨hanswer, -, -⟩
  refine ⟨o, hpassed, nominates_private, ?_, hsecret, ?_⟩
  · rw [ne_eq, hrequest "x-private" nominates_private]
    decide
  · rw [ne_eq, hanswer "x-secret" hsecret]
    decide

/-- Not every field that a connection field nominates stays behind. -/
theorem not_always_stopped :
    ¬ ∀ (g : Gate) (s : Surroundings) (r : Request) (o : Outgoing) (name : String),
      g.passedOn? s r = some o → r.headers.Nominates name → o.headers.all name = [] := by
  intro halways
  have hpassed : ∃ o, narrow.passedOn? confiding nominating = some o := ⟨_, rfl⟩
  rcases hpassed with ⟨o, hpassed⟩
  have hnone := halways _ _ _ _ _ hpassed nominates_private
  rw [all_passedOn hpassed] at hnone
  exact absurd hnone (by decide)

end Gate
end Gatehouse
