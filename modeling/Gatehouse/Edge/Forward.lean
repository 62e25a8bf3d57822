import Gatehouse.Edge.Message
import Gatehouse.Edge.Refusal
import Gatehouse.Edge.Url

/-!
# Forwarding

A request is forwarded to one service with its method, path, query, fields and body.
Fields that concern one connection only are not passed on in either direction.  How the
service is reached is a parameter; one way is to follow its redirects, with the address
that each redirect comes from in a field.

Main results:

- Theorem {lit}`all_stripHops`: which values of a name are passed on.
- Theorem {lit}`outgoing_address`: the address is the target, without the slashes at its
  end, and the path and query as they stand.

Current gaps:

- Why a service has not answered is not told: there is one wording for all reasons.
-/

namespace Gatehouse

/-! ## Fields of one connection -/

/-- The fields that concern one connection only. -/
def hopFields : List String :=
  ["connection", "proxy-authenticate", "proxy-authorization", "te", "trailer",
    "transfer-encoding", "upgrade", "host", "keep-alive"]

/-- Headers without some fields. -/
def Headers.withoutAll (headers : Headers) (names : List String) : Headers :=
  headers.filter fun f => !names.contains f.name

/-- All values of a name stay, or none. -/
theorem Headers.all_withoutAll (headers : Headers) (names : List String) (name : String) :
    (headers.withoutAll names).all name = if name ∈ names then [] else headers.all name := by
  unfold withoutAll Headers.all
  rw [List.filter_filter]
  split
  · rename_i h
    rw [List.map_eq_nil_iff, List.filter_eq_nil_iff]
    intro f _ hf
    simp only [Bool.and_eq_true, beq_iff_eq, Bool.not_eq_true', List.contains_eq_mem,
      decide_eq_false_iff_not] at hf
    exact hf.2 (hf.1 ▸ h)
  · rename_i h
    congr 1
    apply List.filter_congr
    intro f _
    by_cases hn : f.name = name
    · simp [hn, h]
    · simp [hn]

/-- The fields that are passed on. -/
def stripHops (headers : Headers) : Headers :=
  headers.filter fun f => !hopFields.contains f.name

/-- All values of a name are passed on, or none. -/
theorem all_stripHops (headers : Headers) (name : String) :
    (stripHops headers).all name = if name ∈ hopFields then [] else headers.all name :=
  headers.all_withoutAll hopFields name

/-! ## Requests to a service -/

/-- A request to a service. -/
structure Outgoing where
  method : String
  address : String
  headers : Headers
  body : ByteArray

/-- How a service is reached: its answer, if there is one. -/
abbrev Transport := Outgoing → Option Response

/-- The largest body that is forwarded, in bytes. -/
def largestBody : Nat := 16 * 1024 * 1024

/-- The request to a service for a request. -/
def outgoing (target : String) (r : Request) : Outgoing where
  method := r.method
  address := withoutTrailingSlashes target ++ r.target.passedOn
  headers := (stripHops r.headers).without "content-length"
  body := r.body

/-- The answer for the answer of a service. -/
def relay (reply : Response) : Response :=
  { reply with headers := stripHops reply.headers, streamed := true }

/-- Forwards a request, unless its body is too large. -/
def forward (transport : Transport) (target : String) (r : Request) :
    Except Refusal Response :=
  if largestBody < r.body.size then .error (.badRequest "length limit exceeded")
  else
    match transport (outgoing target r) with
    | some reply => .ok (relay reply)
    | none => .error (.badGateway "error sending request")

/-- The address is the target, without the slashes at its end, and the path and query as
they stand. -/
theorem outgoing_address (target : String) (r : Request) :
    (outgoing target r).address = withoutTrailingSlashes target ++ r.target.passedOn := rfl

/-! ## Redirects -/

/-- A request on the wire. -/
structure WireRequest where
  method : String
  url : Url
  headers : Headers
  body : ByteArray

/-- How many redirects are followed. -/
def mostRedirects : Nat := 10

/-- The fields that describe a body. -/
def bodyFields : List String :=
  ["content-type", "content-length", "content-encoding", "transfer-encoding"]

/-- The fields that are for one host only. -/
def hostFields : List String :=
  ["authorization", "cookie", "cookie2", "proxy-authorization", "www-authenticate"]

/-- The field that names the address that a redirected request comes from. -/
def refererField : String := "referer"

namespace WireRequest

/-- The request without its body, with a method that needs none. -/
def withoutBody (r : WireRequest) (method : String) : WireRequest :=
  { r with method, headers := r.headers.withoutAll bodyFields, body := ByteArray.empty }

/-- The request after an answer with this status, if the status asks for another
request. -/
def afterStatus? (r : WireRequest) (status : Nat) : Option WireRequest :=
  match status with
  | 301 | 302 => some (if r.method == "POST" then r.withoutBody "GET" else r)
  | 303 => some (r.withoutBody (if r.method == "HEAD" then "HEAD" else "GET"))
  | 307 | 308 => some r
  | _ => none

/-- The request at another address; what is for one host only stays there.  It names the
address that it comes from, unless only that one is encrypted. -/
def moveTo (r : WireRequest) (url : Url) : WireRequest :=
  let sameHost := r.url.endpoint == url.endpoint
  let kept := if sameHost then r.headers else r.headers.withoutAll hostFields
  let exposed := r.url.scheme == "https" && url.scheme == "http"
  { r with
    url
    headers := if exposed then kept else kept.put refererField (Text.utf8 r.url.text) }

/-- The next request after an answer that redirects. -/
def next? (r : WireRequest) (reply : Response) : Option WireRequest := do
  let moved ← r.afterStatus? reply.status
  let url ← r.url.join? (← reply.headers.text? "location")
  return moved.moveTo url

end WireRequest

/-- Sends a request and follows at most so many redirects. -/
def followRedirects (wire : WireRequest → Option Response) : Nat → WireRequest → Option Response
  | left, r =>
      match wire r with
      | none => none
      | some reply =>
          match r.next? reply, left with
          | none, _ => some reply
          | some _, 0 => none
          | some r, left + 1 => followRedirects wire left r

/-- The transport that sends requests on the wire and follows redirects.  A request says
that it accepts everything unless it says what it accepts. -/
def Transport.ofWire (wire : WireRequest → Option Response) : Transport := fun r => do
  let url ← Url.parse? r.address
  let accepts := (r.headers.all "accept").isEmpty
  let headers := if accepts then r.headers ++ [HeaderField.ofText "accept" "*/*"] else r.headers
  followRedirects wire mostRedirects ⟨r.method, url, headers, r.body⟩

end Gatehouse
