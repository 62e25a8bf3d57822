import Gatehouse.Proofs.Edge.Admission

/-!
# What is passed on

The gate looks at the first credential of a request and passes on all of them.  On the wire
the values of a field stay together: a request that follows a redirect has all of them or, if
they describe a body or are for one host only, none.  Only the field for the address that it
comes from is its own.

Main results:

- Theorem {lit}`Gate.all_passedOn`: which values of a field are passed on.
- Theorem {lit}`Outgoing.abridges_sent`: every request on the wire has all values of a field or
  none, but for the address that it comes from.
- Theorem {lit}`Gate.serve_congr_wire`: the requests that are sent on the wire for a request
  are all that matters of the wire.
- Theorem {lit}`Gate.sends_unchecked_iff`: which requests are sent on with a credential that
  nobody has looked at.
-/

namespace Gatehouse

/-! ## Credentials -/

namespace Credential

/-- The credentials of a header: the values of its authorization fields. -/
def values (headers : Headers) : List (List UInt8) := headers.all "authorization"

/-- Whether a credential is a bearer token. -/
def Bears (value : List UInt8) (token : String) : Prop :=
  ∃ text, HeaderField.readable? value = some text ∧ ofAuthorization text = .ok token

/-- The bearer token of a request is that of its first credential. -/
theorem bearerToken_eq_ok_iff {headers : Headers} {token : String} :
    bearerToken headers = .ok token ↔
      ∃ value, (values headers).head? = some value ∧ Bears value token := by
  unfold bearerToken Headers.first? values Bears
  cases (headers.all "authorization").head? with
  | none => simp
  | some value => cases htext : HeaderField.readable? value with
    | none => simp [htext]
    | some text => simp [htext]

end Credential

/-! ## The request that is passed on -/

namespace Gate

variable {g : Gate} {s : Surroundings} {r : Request} {o : Outgoing} {identity : Identity}

/-- The request that is passed on to the service behind the gate, if there is one. -/
def passedOn? (g : Gate) (s : Surroundings) (r : Request) : Option Outgoing :=
  if g.handler? r = some .forward ∧ r.body.size ≤ largestBody then
    some (outgoing g.target (marked (Credential.correlationId r.headers s.freshId) r))
  else none

/-- A request is passed on exactly if there is one that is passed on for it. -/
theorem passesOn_iff_passedOn? : g.PassesOn s r ↔ ∃ o, g.passedOn? s r = some o := by
  rw [passesOn_iff]
  unfold passedOn?
  split
  · rename_i hpassed
    simp [hpassed]
  · rename_i hpassed
    simp [hpassed]

/-- How the service behind the gate is reached matters for the request that is passed on to
it, and for nothing else. -/
theorem serve_congr (t : Transport)
    (h : ∀ o, g.passedOn? s r = some o → t o = s.transport o) :
    g.serve { s with transport := t } r = g.serve s r := by
  refine serve_transport (s := s) t s.transport fun hforward hsize => h _ ?_
  rw [passedOn?, if_pos ⟨hforward, hsize⟩]

/-- What is passed on has the body length and the fields of one connection taken out, the
correlation id put in, and all other values of the request that it is for. -/
theorem all_passedOn (h : g.passedOn? s r = some o) (name : String) :
    o.headers.all name =
      if name ∈ "content-length" :: hopFields then []
      else if name = Credential.correlationField then
        [Text.utf8 (Credential.correlationId r.headers s.freshId)]
      else r.headers.all name := by
  unfold passedOn? at h
  split at h
  · rw [← Option.some.inj h]
    by_cases hlength : name = "content-length"
    · rw [hlength, if_pos List.mem_cons_self]
      exact Headers.all_without _ _
    · have hmember : name ∈ "content-length" :: hopFields ↔ name ∈ hopFields := by
        rw [List.mem_cons]
        exact or_iff_right hlength
      simp only [hmember]
      have hstripped : (outgoing g.target (marked _ r)).headers.all name =
          (stripHops (marked (Credential.correlationId r.headers s.freshId) r).headers).all name :=
        Headers.all_without_of_ne _ hlength
      rw [hstripped, all_stripHops]
      congr 1
      by_cases hmark : name = Credential.correlationField
      · rw [hmark, if_pos rfl]
        exact Headers.all_put _ _ _
      · rw [if_neg hmark]
        exact Headers.all_put_of_ne _ hmark _
  · exact nomatch h

/-- A request that is passed on has all credentials of the request that it is for. -/
theorem credentials_passedOn (h : g.passedOn? s r = some o) :
    Credential.values o.headers = Credential.values r.headers := by
  have hkept : "authorization" ∉ "content-length" :: hopFields := by decide
  have hmark : "authorization" ≠ Credential.correlationField := by decide
  unfold Credential.values
  rw [all_passedOn h, if_neg hkept, if_neg hmark]

end Gate

/-! ## Requests on the wire -/

/-- Whether headers are what redirects leave of others: a name has all of its values still or,
if it describes a body or is for one host only, none.  The field for the address that a request
comes from is left aside. -/
def Headers.Abridges (left headers : Headers) : Prop :=
  ∀ name, name ≠ refererField →
    left.all name = headers.all name ∨ name ∈ bodyFields ++ hostFields ∧ left.all name = []

namespace Headers

variable {left middle headers : Headers} {names : List String}

theorem Abridges.refl (headers : Headers) : headers.Abridges headers :=
  fun _ _ => .inl rfl

theorem Abridges.trans (h : left.Abridges middle) (hmiddle : middle.Abridges headers) :
    left.Abridges headers := by
  intro name hname
  rcases h name hname with hsame | hnone
  · rw [hsame]
    exact hmiddle name hname
  · exact .inr hnone

/-- Headers without some fields that describe a body or are for one host only. -/
theorem abridges_withoutAll (headers : Headers) (h : names ⊆ bodyFields ++ hostFields) :
    (headers.withoutAll names).Abridges headers := by
  intro name _
  rw [all_withoutAll]
  split
  · rename_i hname
    exact .inr ⟨h hname, rfl⟩
  · exact .inl rfl

/-- Headers with another address that the request comes from. -/
theorem abridges_put_referer (headers : Headers) (value : List UInt8) :
    (headers.put refererField value).Abridges headers :=
  fun _ hname => .inl (headers.all_put_of_ne hname value)

end Headers

namespace WireRequest

variable {w next : WireRequest} {reply : Response}

/-- An answer asks for the same request again, or for one without the body. -/
theorem afterStatus_cases {status : Nat} (h : w.afterStatus? status = some next) :
    next = w ∨ ∃ method, next = w.withoutBody method := by
  unfold afterStatus? at h
  split at h
  · split at h
    · exact .inr ⟨_, (Option.some.inj h).symm⟩
    · exact .inl (Option.some.inj h).symm
  · split at h
    · exact .inr ⟨_, (Option.some.inj h).symm⟩
    · exact .inl (Option.some.inj h).symm
  · exact .inr ⟨_, (Option.some.inj h).symm⟩
  · exact .inl (Option.some.inj h).symm
  · exact .inl (Option.some.inj h).symm
  · exact nomatch h

/-- What an answer asks for has all values of a field or, if they describe a body, none. -/
theorem abridges_afterStatus {status : Nat} (h : w.afterStatus? status = some next) :
    next.headers.Abridges w.headers := by
  rcases afterStatus_cases h with rfl | ⟨method, rfl⟩
  · exact .refl next.headers
  · exact w.headers.abridges_withoutAll (List.subset_append_left _ _)

/-- At another host the fields for one host only are taken away. -/
theorem abridges_moveTo (w : WireRequest) (url : Url) :
    (w.moveTo url).headers.Abridges w.headers := by
  have hkept : ∀ same : Bool,
      (if same then w.headers else w.headers.withoutAll hostFields).Abridges w.headers := by
    intro same
    cases same with
    | true => exact .refl w.headers
    | false => exact w.headers.abridges_withoutAll (List.subset_append_right _ _)
  unfold moveTo
  dsimp only
  split
  · exact hkept _
  · exact (Headers.abridges_put_referer _ _).trans (hkept _)

/-- The headers of the next request are what is left of those of the request, but for the address
that it comes from. -/
theorem abridges_next (h : w.next? reply = some next) : next.headers.Abridges w.headers := by
  rcases Option.bind_eq_some_iff.1 h with ⟨moved, hmoved, hlocated⟩
  rcases Option.bind_eq_some_iff.1 hlocated with ⟨location, -, hjoined⟩
  rcases Option.bind_eq_some_iff.1 hjoined with ⟨url, -, hnext⟩
  rw [← Option.some.inj hnext]
  exact (abridges_moveTo moved url).trans (abridges_afterStatus hmoved)

/-- The requests that are sent while redirects are followed, in order. -/
def trail (wire : WireRequest → Option Response) : Nat → WireRequest → List WireRequest
  | 0, w => [w]
  | left + 1, w =>
      match (wire w).bind w.next? with
      | none => [w]
      | some next => w :: trail wire left next

/-- The first request on the trail. -/
theorem mem_trail_self (wire : WireRequest → Option Response) (left : Nat) (w : WireRequest) :
    w ∈ trail wire left w := by
  cases left with
  | zero => simp [trail]
  | succ left =>
      simp only [trail]
      split
      · exact List.mem_cons_self
      · exact List.mem_cons_self

/-- Without redirects left, the one request that is sent is answered unless the answer
redirects. -/
theorem followRedirects_zero (wire : WireRequest → Option Response) (w : WireRequest) :
    followRedirects wire 0 w =
      (wire w).bind fun reply => if (w.next? reply).isNone then some reply else none := by
  rw [followRedirects]
  cases wire w with
  | none => rfl
  | some reply => cases hnext : w.next? reply <;> simp [hnext]

/-- With redirects left, an answer that redirects is followed. -/
theorem followRedirects_succ (wire : WireRequest → Option Response) (left : Nat)
    (w : WireRequest) :
    followRedirects wire (left + 1) w =
      (wire w).bind fun reply => (w.next? reply).elim (some reply) (followRedirects wire left) := by
  rw [followRedirects]
  cases wire w with
  | none => rfl
  | some reply => cases hnext : w.next? reply <;> simp [hnext]

/-- The trail holds all requests that the wire is asked for. -/
theorem followRedirects_congr {wire wire' : WireRequest → Option Response} (left : Nat)
    (w : WireRequest) (h : ∀ sent ∈ trail wire left w, wire' sent = wire sent) :
    followRedirects wire' left w = followRedirects wire left w := by
  have hfirst : wire' w = wire w := h w (mem_trail_self wire left w)
  induction left generalizing w with
  | zero => rw [followRedirects_zero, followRedirects_zero, hfirst]
  | succ left ih =>
      rw [followRedirects_succ, followRedirects_succ, hfirst]
      cases hreply : wire w with
      | none => rfl
      | some reply => cases hnext : w.next? reply with
        | none => simp [hnext]
        | some next =>
            have hrest : ∀ sent ∈ trail wire left next, wire' sent = wire sent := by
              intro sent hsent
              exact h sent (by simp [trail, hreply, hnext, hsent])
            have hfollowed := ih next hrest (hrest next (mem_trail_self wire left next))
            simp [hnext, hfollowed]

/-- The headers of every request on the trail are what is left of those of the first one. -/
theorem abridges_of_mem_trail {wire : WireRequest → Option Response} {left : Nat}
    {w sent : WireRequest} (h : sent ∈ trail wire left w) :
    sent.headers.Abridges w.headers := by
  induction left generalizing w with
  | zero =>
      rw [List.mem_singleton.1 h]
      exact .refl w.headers
  | succ left ih =>
      simp only [trail] at h
      split at h
      · rw [List.mem_singleton.1 h]
        exact .refl w.headers
      · rename_i next hnext
        rcases Option.bind_eq_some_iff.1 hnext with ⟨reply, -, hnext⟩
        rcases List.mem_cons.1 h with rfl | h
        · exact .refl sent.headers
        · exact (ih h).trans (abridges_next hnext)

end WireRequest

namespace Outgoing

variable {o : Outgoing}

/-- The request on the wire, if its address can be read. -/
def onWire? (o : Outgoing) : Option WireRequest := do
  let url ← Url.parse? o.address
  let accepts := (o.headers.all "accept").isEmpty
  let headers := if accepts then o.headers ++ [HeaderField.ofText "accept" "*/*"] else o.headers
  return ⟨o.method, url, headers, o.body⟩

/-- All requests that are sent for a request to a service. -/
def sent (wire : WireRequest → Option Response) (o : Outgoing) : List WireRequest :=
  o.onWire?.elim [] (WireRequest.trail wire mostRedirects)

/-- A service that is reached by the wire answers what is followed from the request on the
wire. -/
theorem ofWire_eq (wire : WireRequest → Option Response) (o : Outgoing) :
    Transport.ofWire wire o = o.onWire?.bind (followRedirects wire mostRedirects) := by
  unfold Transport.ofWire onWire?
  cases Url.parse? o.address with
  | none => rfl
  | some url => simp only [Option.bind_eq_bind, Option.bind_some, pure]

/-- What is sent is the trail of the request on the wire. -/
theorem sent_of_onWire {w : WireRequest} (h : o.onWire? = some w)
    (wire : WireRequest → Option Response) :
    o.sent wire = WireRequest.trail wire mostRedirects w := by
  rw [sent, h, Option.elim_some]

/-- What is sent for a request to a service is all that the wire is asked for. -/
theorem ofWire_congr {wire wire' : WireRequest → Option Response}
    (h : ∀ w ∈ o.sent wire, wire' w = wire w) :
    Transport.ofWire wire' o = Transport.ofWire wire o := by
  rw [ofWire_eq, ofWire_eq]
  cases hfirst : o.onWire? with
  | none => simp only [Option.bind_none]
  | some first =>
      rw [sent_of_onWire hfirst] at h
      rw [Option.bind_some, Option.bind_some]
      exact WireRequest.followRedirects_congr mostRedirects first h

/-- The request on the wire is sent to its address. -/
theorem url_of_onWire {w : WireRequest} (h : o.onWire? = some w) :
    Url.parse? o.address = some w.url := by
  rcases Option.bind_eq_some_iff.1 h with ⟨url, hurl, hw⟩
  rw [hurl, ← Option.some.inj hw]

/-- The request on the wire has the values of the request to the service, and says that it
accepts everything unless it says what it accepts. -/
theorem all_onWire {w : WireRequest} (h : o.onWire? = some w) (name : String) :
    w.headers.all name =
      if name = "accept" ∧ o.headers.all "accept" = [] then [Text.utf8 "*/*"]
      else o.headers.all name := by
  have haccept : HeaderField.ofText "accept" "*/*" = ⟨"accept", Text.utf8 "*/*"⟩ := by
    rw [HeaderField.ofText, HeaderField.ofBytes, show Text.lower "accept" = "accept" by decide]
  have hsupplied : Headers.all [⟨"accept", Text.utf8 "*/*"⟩] name =
      if name = "accept" then [Text.utf8 "*/*"] else [] := by
    by_cases hname : name = "accept"
    · simp [Headers.all, hname]
    · simp [Headers.all, hname, Ne.symm hname]
  rcases Option.bind_eq_some_iff.1 h with ⟨url, -, hw⟩
  rw [← Option.some.inj hw]
  dsimp only
  split
  · rename_i hnone
    rw [List.isEmpty_iff] at hnone
    rw [Headers.all_append, haccept, hsupplied]
    by_cases hname : name = "accept"
    · simp [hname, hnone]
    · simp [hname]
  · rename_i hsome
    rw [List.isEmpty_iff] at hsome
    rw [if_neg fun hnone => hsome hnone.2]

/-- The request on the wire has all credentials. -/
theorem credentials_onWire {w : WireRequest} (h : o.onWire? = some w) :
    Credential.values w.headers = Credential.values o.headers := by
  have hother : "authorization" ≠ "accept" := by decide
  unfold Credential.values
  rw [all_onWire h, if_neg fun haccept => hother haccept.1]

/-- The headers of every request on the wire are what is left of those of the first one. -/
theorem abridges_sent {wire : WireRequest → Option Response} {w : WireRequest}
    (h : w ∈ o.sent wire) :
    ∃ first, o.onWire? = some first ∧ w.headers.Abridges first.headers := by
  cases hfirst : o.onWire? with
  | none => simp [sent, hfirst] at h
  | some first =>
      rw [sent_of_onWire hfirst] at h
      exact ⟨first, rfl, WireRequest.abridges_of_mem_trail h⟩

/-- Every request on the wire has all credentials or none. -/
theorem credentials_sent {wire : WireRequest → Option Response} {w : WireRequest}
    (h : w ∈ o.sent wire) :
    Credential.values w.headers = Credential.values o.headers ∨
      Credential.values w.headers = [] := by
  rcases abridges_sent h with ⟨first, hfirst, habridges⟩
  rw [← credentials_onWire hfirst]
  exact (habridges "authorization" (by decide)).imp_right And.right

/-- The request on the wire is sent. -/
theorem mem_sent_of_onWire {w : WireRequest} (h : o.onWire? = some w)
    (wire : WireRequest → Option Response) : w ∈ o.sent wire := by
  rw [sent_of_onWire h]
  exact WireRequest.mem_trail_self wire mostRedirects w

/-- If anything is sent, the request on the wire is. -/
theorem onWire_of_sent {wire : WireRequest → Option Response} (h : o.sent wire ≠ []) :
    ∃ w, o.onWire? = some w := by
  cases hfirst : o.onWire? with
  | none => exact absurd (by rw [sent, hfirst, Option.elim_none]) h
  | some first => exact ⟨first, rfl⟩

end Outgoing

/-! ## Credentials that are sent on -/

namespace Gate

variable {g : Gate} {s : Surroundings} {r : Request} {identity : Identity}

/-- All requests that are sent on the wire for a request. -/
def sent (g : Gate) (s : Surroundings) (wire : WireRequest → Option Response) (r : Request) :
    List WireRequest :=
  (g.passedOn? s r).elim [] (Outgoing.sent wire)

/-- The headers of what is sent on the wire for a request are what is left of those of the first
request that is sent. -/
theorem first_of_mem_sent {wire : WireRequest → Option Response} {w : WireRequest}
    (h : w ∈ g.sent s wire r) :
    ∃ o first, g.passedOn? s r = some o ∧ o.onWire? = some first ∧
      w.headers.Abridges first.headers := by
  unfold sent at h
  cases hpassed : g.passedOn? s r with
  | none => simp [hpassed] at h
  | some o =>
      rw [hpassed, Option.elim_some] at h
      rcases Outgoing.abridges_sent h with ⟨first, hfirst, habridges⟩
      exact ⟨o, first, rfl, hfirst, habridges⟩

/-- What is sent on the wire for a request is all that matters of the wire. -/
theorem serve_congr_wire {wire wire' : WireRequest → Option Response}
    (h : ∀ w ∈ g.sent s wire r, wire' w = wire w) :
    g.serve { s with transport := .ofWire wire' } r =
      g.serve { s with transport := .ofWire wire } r := by
  refine serve_congr (s := { s with transport := .ofWire wire }) _ fun o hpassed => ?_
  have hsame : g.passedOn? s r = some o := hpassed
  rw [sent, hsame, Option.elim_some] at h
  exact Outgoing.ofWire_congr h

/-- Whether a credential is the one that tells the gate who sends a request. -/
structure Checks (g : Gate) (headers : Headers) (identity : Identity) (value : List UInt8) :
    Prop where
  first : (Credential.values headers).head? = some value
  accepted : ∃ token, Credential.Bears value token ∧ g.authenticate token = .ok identity

/-- Who is known has shown a credential that is accepted. -/
theorem checks_of_known {path : String} {headers : Headers}
    (h : g.admission path headers = .known identity) :
    ∃ value, g.Checks headers identity value := by
  rcases known_shows_token h with ⟨token, htoken, haccepted⟩
  rcases Credential.bearerToken_eq_ok_iff.1 htoken with ⟨value, hfirst, hbears⟩
  exact ⟨value, hfirst, token, hbears, haccepted⟩

/-- Some request on the wire has a certain credential exactly if anything is sent and the
credential is one of the request. -/
theorem sends_credential_iff {wire : WireRequest → Option Response} {value : List UInt8} :
    (∃ w ∈ g.sent s wire r, value ∈ Credential.values w.headers) ↔
      g.sent s wire r ≠ [] ∧ value ∈ Credential.values r.headers := by
  unfold sent
  cases hpassed : g.passedOn? s r with
  | none => simp
  | some o =>
      have hkept := credentials_passedOn hpassed
      simp only [Option.elim_some]
      constructor
      · rintro ⟨w, hw, hvalue⟩
        refine ⟨List.ne_nil_of_mem hw, ?_⟩
        rcases Outgoing.credentials_sent hw with hall | hnone
        · rw [← hkept, ← hall]
          exact hvalue
        · rw [hnone] at hvalue
          exact absurd hvalue List.not_mem_nil
      · rintro ⟨hsent, hvalue⟩
        rcases Outgoing.onWire_of_sent hsent with ⟨w, hw⟩
        refine ⟨w, Outgoing.mem_sent_of_onWire hw wire, ?_⟩
        rw [Outgoing.credentials_onWire hw, hkept]
        exact hvalue

/-- A request whose sender is known is passed on with all of its credentials, of which the
gate has looked at the first.  One that nobody has looked at is sent on the wire exactly if
anything is sent and the request has a credential besides the first and unlike it. -/
theorem sends_unchecked_iff (wire : WireRequest → Option Response)
    (h : g.admission r.target.path r.headers = .known identity) :
    ∃ checked, g.Checks r.headers identity checked ∧
      (∀ o, g.passedOn? s r = some o →
        Credential.values o.headers = Credential.values r.headers) ∧
      ((∃ w ∈ g.sent s wire r, ∃ value ∈ Credential.values w.headers, value ≠ checked) ↔
        g.sent s wire r ≠ [] ∧ ∃ value ∈ Credential.values r.headers, value ≠ checked) := by
  rcases checks_of_known h with ⟨checked, hchecked⟩
  refine ⟨checked, hchecked, fun o hpassed => credentials_passedOn hpassed, ?_⟩
  constructor
  · rintro ⟨w, hw, value, hvalue, hother⟩
    rcases sends_credential_iff.1 ⟨w, hw, hvalue⟩ with ⟨hsent, hgiven⟩
    exact ⟨hsent, value, hgiven, hother⟩
  · rintro ⟨hsent, value, hgiven, hother⟩
    rcases sends_credential_iff.2 ⟨hsent, hgiven⟩ with ⟨w, hw, hvalue⟩
    exact ⟨w, hw, value, hvalue, hother⟩

/-! ### A request with two credentials -/

/-- Someone without groups and roles. -/
def someone : Identity := ⟨"u", none, [], RoleSet.empty⟩

/-- A gate that opens no path and accepts one token. -/
def narrow : Gate where
  authenticate := fun token => if token = "good" then .ok someone else .error .badSignature
  isOpen := fun _ => false
  permissions := ⟨Permissions.defaultSuffixes⟩
  target := "http://localhost"

/-- A credential with the token that the gate accepts. -/
def goodCredential : List UInt8 := Text.utf8 "Bearer good"

/-- A credential that the gate would refuse. -/
def forgedCredential : List UInt8 := Text.utf8 "Bearer forged"

/-- A request with both credentials. -/
def twofold : Request where
  method := "GET"
  target := .place "/api"
  headers := [⟨"authorization", goodCredential⟩, ⟨"authorization", forgedCredential⟩]
  body := ByteArray.empty

/-- The sender of the request is known. -/
theorem known_twofold :
    narrow.admission twofold.target.path twofold.headers = .known someone := rfl

/-- The request is passed on, and its address can be read. -/
theorem exists_onWire_twofold :
    ∃ o w, narrow.passedOn? secluded twofold = some o ∧ o.onWire? = some w := by
  have hsome : ((narrow.passedOn? secluded twofold).bind Outgoing.onWire?).isSome = true := by
    decide +kernel
  rcases Option.isSome_iff_exists.1 hsome with ⟨w, hw⟩
  rcases Option.bind_eq_some_iff.1 hw with ⟨o, hpassed, hwire⟩
  exact ⟨o, w, hpassed, hwire⟩

/-- The credential that would be refused is sent on the wire. -/
theorem sends_forged_credential :
    narrow.admission twofold.target.path twofold.headers = .known someone ∧
      ∃ w ∈ narrow.sent secluded (fun _ => none) twofold,
        ∃ value ∈ Credential.values w.headers, ¬ narrow.Checks twofold.headers someone value := by
  refine ⟨known_twofold, ?_⟩
  rcases sends_unchecked_iff (s := secluded) (fun _ => none) known_twofold with
    ⟨checked, hchecked, -, hsends⟩
  have hgood : checked = goodCredential := (Option.some.inj hchecked.first).symm
  have hsent : narrow.sent secluded (fun _ => none) twofold ≠ [] := by
    rcases exists_onWire_twofold with ⟨o, w, hpassed, hwire⟩
    rw [sent, hpassed, Option.elim_some]
    exact List.ne_nil_of_mem (Outgoing.mem_sent_of_onWire hwire _)
  have hother : forgedCredential ≠ checked := by
    rw [hgood]
    decide
  rcases hsends.2 ⟨hsent, forgedCredential, by decide, hother⟩ with ⟨w, hw, value, hvalue, hne⟩
  refine ⟨w, hw, value, hvalue, fun hlooked => hne ?_⟩
  rw [hgood]
  exact (Option.some.inj hlooked.first).symm

/-- Not every credential that is passed on for a known sender is the one that the gate has
looked at. -/
theorem not_always_checked :
    ¬ ∀ (g : Gate) (s : Surroundings) (r : Request) (identity : Identity) (o : Outgoing),
      g.admission r.target.path r.headers = .known identity → g.passedOn? s r = some o →
      ∀ value ∈ Credential.values o.headers, g.Checks r.headers identity value := by
  intro halways
  rcases exists_onWire_twofold with ⟨o, -, hpassed, -⟩
  have hgiven : forgedCredential ∈ Credential.values o.headers := by
    rw [credentials_passedOn hpassed]
    decide
  have hchecked := halways _ _ _ _ _ known_twofold hpassed forgedCredential hgiven
  exact absurd hchecked.first (by decide)

end Gate
end Gatehouse
