import Gatehouse.Proofs.Edge.Correlation
import Gatehouse.Proofs.Edge.Joining

/-!
# Where a token stands

A token is carried in the authorization field of a request, among the subprotocols that a
client of a socket offers, or in the query.  The three places separate it from what stands
beside it in different ways, and allow for spaces around it.  A token is written in characters
that none of them takes for a separator, so that each of them yields the token as it is, and
the gate gives one verdict about it.

Main results:

- Theorem {lit}`Credential.ofAuthorization_text`: the token of an authorization field.
- Theorem {lit}`Credential.ofSubprotocols?_text`: the token among subprotocols.
- Theorem {lit}`Query.lookup_tokenText`: the token in a query.
- Theorem {lit}`Gate.carriers_agree`: wherever a token stands, it is the one that is read, and
  the verdict is the same.
-/

namespace Gatehouse

/-! ## The characters of a token -/

namespace Credential

/-- A character with which tokens are written: a letter, a digit, a hyphen, an underscore or a
dot. -/
def isTokenChar (c : Char) : Bool := c.isAlphanum || c == '-' || c == '_' || c == '.'

/-- Whether a text is written as tokens are. -/
structure IsToken (text : String) : Prop where
  nonempty : text ≠ ""
  plain : text.toList.all isTokenChar = true

/-- What holds of the characters of tokens among the ASCII characters holds of all of them. -/
theorem of_isTokenChar {P : Char → Prop}
    (hall : ∀ n : Fin 0x80, isTokenChar (Char.ofNat n.val) = true → P (Char.ofNat n.val))
    {c : Char} (h : isTokenChar c = true) : P c := by
  have hascii : c.toNat < 0x80 := by
    unfold isTokenChar at h
    simp only [Bool.or_eq_true, beq_iff_eq] at h
    rcases h with ((halphanum | rfl) | rfl) | rfl
    · exact Text.ascii_of_isAlphanum halphanum
    · decide
    · decide
    · decide
  exact Text.of_toNat_lt (P := fun d => isTokenChar d = true → P d) hall hascii h

variable {token given : String}

/-- The characters of a token are readable and not blank, and none of them separates it from what
stands beside it. -/
theorem IsToken.apart (h : IsToken token) {c : Char} (hc : c ∈ token.toList) :
    Text.isReadable c = true ∧ Text.isBlank c = false ∧ c ∉ [',', '&', '=', '+', '%'] :=
  of_isTokenChar (P := fun d =>
    Text.isReadable d = true ∧ Text.isBlank d = false ∧ d ∉ [',', '&', '=', '+', '%'])
    (by decide) (List.all_eq_true.1 h.plain c hc)

/-- The scheme in any case is written in letters, so that no separator is among them. -/
theorem scheme_apart (h : Text.lower given = scheme) {c : Char} (hc : c ∈ given.toList) :
    Text.isReadable c = true ∧ Text.isBlank c = false ∧ c ∉ [' ', ','] := by
  have hletter : c.toLower ∈ scheme.toList := by
    rw [← h, Text.lower, String.toList_ofList]
    exact List.mem_map_of_mem hc
  have hlow : scheme.toList.all (·.toNat < 0x80) = true := by decide
  have hascii : c.toNat < 0x80 :=
    Text.ascii_of_toLower (of_decide_eq_true (List.all_eq_true.1 hlow _ hletter))
  exact Text.of_toNat_lt (P := fun d => d.toLower ∈ scheme.toList →
    Text.isReadable d = true ∧ Text.isBlank d = false ∧ d ∉ [' ', ',']) (by decide) hascii hletter

/-- The scheme in any case is the scheme. -/
theorem equalIgnoringCase_scheme (h : Text.lower given = scheme) :
    Text.equalIgnoringCase given scheme = true := by
  have hscheme : Text.lower scheme = scheme := by decide
  rw [Text.equalIgnoringCase, h, hscheme, beq_self_eq_true]

/-! ## Spaces around a token -/

/-- Some spaces. -/
def spaces (count : Nat) : List Char := List.replicate count ' '

/-- A text with some spaces in front of it and some behind it. -/
def spaced (before : Nat) (text : String) (after : Nat) : String :=
  String.ofList (spaces before ++ text.toList ++ spaces after)

theorem isBlank_of_mem_spaces {count : Nat} {c : Char} (h : c ∈ spaces count) :
    Text.isBlank c = true := by
  rw [List.eq_of_mem_replicate h]
  decide

/-- The spaces around a token are trimmed away. -/
theorem IsToken.trim_spaced (h : IsToken token) (before after : Nat) :
    Text.trim (spaced before token after) = token :=
  Text.trim_between (fun _ => isBlank_of_mem_spaces) (fun _ => isBlank_of_mem_spaces)
    fun _ hc => (h.apart hc).2.1

/-- A token with spaces around it is not blank. -/
theorem IsToken.nonBlank?_spaced (h : IsToken token) (before after : Nat) :
    nonBlank? (spaced before token after) = some token :=
  nonBlank?_eq_some_iff.2 ⟨h.trim_spaced before after, h.nonempty⟩

/-- What holds of a space and of the characters of a token holds of a token with spaces around
it. -/
theorem forall_mem_spaced {P : Char → Prop} (hspace : P ' ')
    (htoken : ∀ c ∈ token.toList, P c) {before after : Nat} {c : Char}
    (hc : c ∈ (spaced before token after).toList) : P c := by
  rw [spaced, String.toList_ofList, List.mem_append, List.mem_append] at hc
  rcases hc with (hc | hc) | hc
  · exact List.eq_of_mem_replicate hc ▸ hspace
  · exact htoken c hc
  · exact List.eq_of_mem_replicate hc ▸ hspace

/-! ## Authorization -/

/-- A token in an authorization field, with at least one space behind the scheme. -/
def authorizationText (given : String) (before : Nat) (token : String) (after : Nat) : String :=
  given ++ spaced (before + 1) token after

/-- The token of an authorization field is the one that stands there. -/
theorem ofAuthorization_text (htoken : IsToken token) (hgiven : Text.lower given = scheme)
    (before after : Nat) : ofAuthorization (authorizationText given before token after) =
      .ok token := by
  have hplain : ' ' ∉ given.toList := fun hspace =>
    (scheme_apart hgiven hspace).2.2 (by decide)
  have htext : (authorizationText given before token after).toList =
      given.toList ++ ' ' :: (spaced before token after).toList := by
    simp [authorizationText, spaced, spaces, List.replicate_succ]
  have hcut : Text.splitOnce ' ' (authorizationText given before token after) =
      some (given, spaced before token after) := by
    rw [Text.splitOnce, htext, Text.splitOnceList_append hplain]
    simp
  simp only [ofAuthorization, hcut, htoken.nonBlank?_spaced, equalIgnoringCase_scheme hgiven,
    if_true]

/-- An authorization field can be read. -/
theorem isReadable_authorizationText (htoken : IsToken token)
    (hgiven : Text.lower given = scheme) (before after : Nat) :
    ∀ c ∈ (authorizationText given before token after).toList, Text.isReadable c = true := by
  intro c hc
  rw [authorizationText, String.toList_append, List.mem_append] at hc
  rcases hc with hc | hc
  · exact (scheme_apart hgiven hc).1
  · exact forall_mem_spaced (P := fun d => Text.isReadable d = true) (by decide)
      (fun d hd => (htoken.apart hd).1) hc

/-! ## Subprotocols -/

/-- A token among subprotocols: behind the scheme, and perhaps with others behind it. -/
def subprotocolText (given : String) (before : Nat) (token : String) (after : Nat)
    (others : List String) : String :=
  given ++ String.ofList (',' :: (spaced before token after).toList) ++
    String.ofList (others.flatMap fun other => ',' :: other.toList)

/-- The token among subprotocols is the one that stands behind the scheme. -/
theorem ofSubprotocols?_text (htoken : IsToken token) (hgiven : Text.lower given = scheme)
    (before after : Nat) (others : List String) :
    ofSubprotocols? (subprotocolText given before token after others) = some token := by
  have hplain : ',' ∉ given.toList := fun hcomma =>
    (scheme_apart hgiven hcomma).2.2 (by decide)
  have hsecond : ',' ∉ (spaced before token after).toList := by
    intro hcomma
    refine forall_mem_spaced (P := fun d => d ≠ ',') (by decide) ?_ hcomma rfl
    rintro d hd rfl
    exact (htoken.apart hd).2.2 (by decide)
  have htrimmed : Text.trim given = given :=
    Text.trim_of_no_blanks fun c hc => (scheme_apart hgiven hc).2.1
  have hparts : ∃ more, (Text.splitOn ',' (subprotocolText given before token after others)) =
      given :: spaced before token after :: more := by
    have htext : (subprotocolText given before token after others).toList =
        given.toList ++ ',' :: ((spaced before token after).toList ++
          others.flatMap fun other => ',' :: other.toList) := by
      simp [subprotocolText]
    rw [Text.splitOn, htext, Text.splitList_append_cons, Text.splitList_of_not_mem hplain]
    cases others with
    | nil => exact ⟨[], by simp [Text.splitList_of_not_mem hsecond]⟩
    | cons other others =>
        have hcut : ∀ back, Text.splitList ',' ((spaced before token after).toList ++ ',' :: back) =
            (spaced before token after).toList :: Text.splitList ',' back := fun back => by
          rw [Text.splitList_append_cons, Text.splitList_of_not_mem hsecond,
            List.singleton_append]
        exact ⟨_, by simp [hcut]; rfl⟩
  rcases hparts with ⟨more, hmore⟩
  have hsome : token.isEmpty = false := by
    rw [← Bool.not_eq_true, String.isEmpty_iff]
    exact htoken.nonempty
  simp only [ofSubprotocols?, hmore, List.map_cons, htrimmed, htoken.trim_spaced,
    equalIgnoringCase_scheme hgiven, hsome, Bool.not_false, Bool.and_self, if_true]

/-- Subprotocols can be read if those behind the token can. -/
theorem isReadable_subprotocolText (htoken : IsToken token)
    (hgiven : Text.lower given = scheme) (before after : Nat) {others : List String}
    (hothers : ∀ other ∈ others, ∀ c ∈ other.toList, Text.isReadable c = true) :
    ∀ c ∈ (subprotocolText given before token after others).toList,
      Text.isReadable c = true := by
  intro c hc
  simp only [subprotocolText, String.toList_append, String.toList_ofList, List.mem_append,
    List.mem_cons, List.mem_flatMap] at hc
  rcases hc with (hc | rfl | hc) | ⟨other, hother, rfl | hc⟩
  · exact (scheme_apart hgiven hc).1
  · decide
  · exact forall_mem_spaced (P := fun d => Text.isReadable d = true) (by decide)
      (fun d hd => (htoken.apart hd).1) hc
  · decide
  · exact hothers other hother c hc

end Credential

/-! ## Queries -/

namespace Query

open Credential (IsToken spaced spaces isTokenChar)

variable {token : String}

/-- How a query spells a space. -/
inductive Spelling where
  | plus
  | coded

/-- The characters of a space. -/
def Spelling.chars : Spelling → List Char
  | plus => ['+']
  | coded => ['%', '2', '0']

/-- A text with some spaces in front of it and some behind it, as a query spells them. -/
def spelled (before : List Spelling) (text : String) (after : List Spelling) : List Char :=
  before.flatMap Spelling.chars ++ text.toList ++ after.flatMap Spelling.chars

/-- A query with a token. -/
def tokenText (before : List Spelling) (token : String) (after : List Spelling) : String :=
  "token=" ++ String.ofList (spelled before token after)

/-- What holds of the characters of spaces and of a token holds of a token with spaces around it
in a query. -/
theorem forall_mem_spelled {P : Char → Prop} (hspace : P '+' ∧ P '%' ∧ P '2' ∧ P '0')
    (htoken : ∀ c ∈ token.toList, P c) {before after : List Spelling} :
    ∀ c ∈ spelled before token after, P c := by
  have hspaces : ∀ (all : List Spelling), ∀ c ∈ all.flatMap Spelling.chars, P c := by
    intro all c hc
    rcases List.mem_flatMap.1 hc with ⟨spelling, -, hc⟩
    cases spelling with
    | plus => exact List.mem_singleton.1 hc ▸ hspace.1
    | coded =>
        simp only [Spelling.chars, List.mem_cons, List.not_mem_nil, or_false] at hc
        rcases hc with rfl | rfl | rfl
        · exact hspace.2.1
        · exact hspace.2.2.1
        · exact hspace.2.2.2
  intro c hc
  rw [spelled, List.mem_append, List.mem_append] at hc
  rcases hc with (hc | hc) | hc
  · exact hspaces before c hc
  · exact htoken c hc
  · exact hspaces after c hc

/-! ### Decoding -/

/-- Plus signs give way to spaces before anything else is decoded. -/
def respace (text : List Char) : List Char := text.map fun c => if c = '+' then ' ' else c

/-- The characters of an ASCII text are decoded one by one. -/
theorem decode_ascii {text : List Char} (h : ∀ c ∈ text, c.toNat < 0x80) :
    decode text = Text.readUtf8 (Text.percentDecode (respace text)) := by
  have hspaced : ∀ c ∈ respace text, c.toNat < 0x80 := by
    intro c hc
    rcases List.mem_map.1 hc with ⟨d, hd, rfl⟩
    split
    · decide
    · exact h d hd
  have hchars : (Text.utf8 (String.ofList (respace text))).map (fun b => Char.ofNat b.toNat) =
      respace text := by
    rw [Text.chars_utf8_of_ascii (by simpa using hspaced), String.toList_ofList]
  have hdecode : decode text = Text.readUtf8 (Text.percentDecode
      ((Text.utf8 (String.ofList (respace text))).map fun b => Char.ofNat b.toNat)) := rfl
  rw [hdecode, hchars]

/-- Spaces are decoded to spaces, however they are spelled. -/
theorem percentDecode_spaces (all : List Spelling) (rest : List Char) :
    Text.percentDecode (respace (all.flatMap Spelling.chars ++ rest)) =
      (spaces all.length).map (fun c => UInt8.ofNat c.toNat) ++
        Text.percentDecode (respace rest) := by
  induction all with
  | nil => rfl
  | cons spelling all ih =>
      have hlength : spaces (spelling :: all).length = ' ' :: spaces all.length := rfl
      rw [List.flatMap_cons, List.append_assoc, hlength, List.map_cons, List.cons_append, ← ih]
      cases spelling with
      | plus => simp [Spelling.chars, respace, Text.percentDecode]
      | coded => simp [Spelling.chars, respace, Text.percentDecode, Text.hexValue?]

/-- Characters that spell nothing else are decoded to themselves. -/
theorem percentDecode_plain {plain : List Char} (h : ∀ c ∈ plain, c ≠ '+' ∧ c ≠ '%')
    (rest : List Char) :
    Text.percentDecode (respace (plain ++ rest)) =
      plain.map (fun c => UInt8.ofNat c.toNat) ++ Text.percentDecode (respace rest) := by
  induction plain with
  | nil => rfl
  | cons c plain ih =>
      rcases h c List.mem_cons_self with ⟨hplus, hpercent⟩
      have hfirst : respace (c :: (plain ++ rest)) = c :: respace (plain ++ rest) := by
        rw [respace, List.map_cons, if_neg hplus]
        rfl
      rw [List.cons_append, hfirst, Text.percentDecode, ih fun d hd => h d (.tail c hd)]
      · rfl
      · intro _ _ _ hc _
        exact hpercent hc

/-- A token with spaces around it is read as it is written. -/
theorem decode_spelled (htoken : IsToken token) (before after : List Spelling) :
    decode (spelled before token after) = spaced before.length token after.length := by
  have hascii : ∀ c ∈ token.toList, c.toNat < 0x80 := fun c hc =>
    Credential.of_isTokenChar (P := fun d => d.toNat < 0x80) (by decide)
      (List.all_eq_true.1 htoken.plain c hc)
  have hplain : ∀ c ∈ token.toList, c ≠ '+' ∧ c ≠ '%' := by
    intro c hc
    constructor
    · rintro rfl
      exact (htoken.apart hc).2.2 (by decide)
    · rintro rfl
      exact (htoken.apart hc).2.2 (by decide)
  have hbytes : Text.percentDecode (respace (spelled before token after)) =
      Text.utf8 (spaced before.length token after.length) := by
    rw [Text.utf8_of_ascii fun c => Credential.forall_mem_spaced (by decide) hascii, spelled,
      List.append_assoc, percentDecode_spaces, percentDecode_plain hplain,
      ← List.append_nil (after.flatMap Spelling.chars), percentDecode_spaces, spaced]
    simp [respace, Text.percentDecode]
  rw [decode_ascii (forall_mem_spelled (by decide) hascii), hbytes, Text.readUtf8_utf8]

/-- The token in a query is the one that stands there. -/
theorem lookup_tokenText (htoken : IsToken token) (before after : List Spelling) :
    lookup (some (tokenText before token after)) "token" =
      .found (some (spaced before.length token after.length)) := by
  have hand : '&' ∉ spelled before token after := by
    intro hand
    refine forall_mem_spelled (P := fun d => d ≠ '&') (by decide) ?_ _ hand rfl
    rintro d hd rfl
    exact (htoken.apart hd).2.2 (by decide)
  have hwhole : (tokenText before token after).toList =
      "token".toList ++ '=' :: spelled before token after := by
    simp [tokenText]
  have hsingle : '&' ∉ "token".toList ++ '=' :: spelled before token after := by
    simp only [List.mem_append, List.mem_cons, not_or]
    exact ⟨by decide, by decide, hand⟩
  have hname : decode "token".toList = "token" := by
    have hname : IsToken "token" := ⟨by decide, by decide⟩
    have hspelled := decode_spelled hname [] []
    simpa [spelled, spaced, spaces] using hspelled
  have hpair : pair ("token".toList ++ '=' :: spelled before token after) =
      ("token", spaced before.length token after.length) := by
    have hequals : '=' ∉ "token".toList := by decide
    have hcut := Text.splitOnceList_append hequals (spelled before token after)
    simp only [pair, hcut, hname, decode_spelled htoken]
  have hpairs : pairs (tokenText before token after) =
      [("token", spaced before.length token after.length)] := by
    rw [pairs, hwhole, Text.splitList_of_not_mem hsingle]
    simpa using hpair
  simp [lookup, hpairs]

end Query

/-! ## What the carriers yield -/

namespace Credential

variable {token : String} {headers : Headers} {query : Option String}

/-- Whether the authorization field of a request holds a token, behind the scheme in any case. -/
def InAuthorization (headers : Headers) (token : String) : Prop :=
  ∃ given before after, Text.lower given = scheme ∧
    headers.first? "authorization" =
      some (Text.utf8 (authorizationText given before token after))

/-- Whether a token stands among the subprotocols that a client offers, behind the scheme in any
case and perhaps with others behind it. -/
def InSubprotocols (headers : Headers) (token : String) : Prop :=
  ∃ given before after others, Text.lower given = scheme ∧
    (∀ other ∈ others, ∀ c ∈ other.toList, Text.isReadable c = true) ∧
    headers.first? "sec-websocket-protocol" =
      some (Text.utf8 (subprotocolText given before token after others))

/-- Whether a client offers no token among its subprotocols. -/
def NoSubprotocol (headers : Headers) : Prop :=
  (headers.text? "sec-websocket-protocol").bind ofSubprotocols? = none

/-- Whether a query is about a token and nothing else. -/
def InQuery (query : Option String) (token : String) : Prop :=
  ∃ before after, query = some (Query.tokenText before token after)

/-- The bearer token of a request is the one in its authorization field. -/
theorem InAuthorization.bearerToken_eq (h : InAuthorization headers token)
    (htoken : IsToken token) : bearerToken headers = .ok token := by
  rcases h with ⟨given, before, after, hgiven, hfirst⟩
  have hreadable := HeaderField.readable?_utf8
    (isReadable_authorizationText htoken hgiven before after)
  simp only [bearerToken, hfirst, hreadable, ofAuthorization_text htoken hgiven]

/-- The token of a client is the one among its subprotocols, whatever its query says. -/
theorem InSubprotocols.socketToken?_eq (h : InSubprotocols headers token)
    (htoken : IsToken token) (query : Option String) :
    socketToken? headers query = some token := by
  rcases h with ⟨given, before, after, others, hgiven, hothers, hfirst⟩
  have hreadable := HeaderField.readable?_utf8
    (isReadable_subprotocolText htoken hgiven before after hothers)
  simp only [socketToken?, Headers.text?, hfirst, Option.bind_some, hreadable,
    ofSubprotocols?_text htoken hgiven, Option.some_or]

/-- What the query says about a token, with spaces around it. -/
theorem InQuery.lookup_eq (h : InQuery query token) (htoken : IsToken token) :
    ∃ before after, Query.lookup query "token" = .found (some (spaced before token after)) := by
  rcases h with ⟨before, after, rfl⟩
  exact ⟨before.length, after.length, Query.lookup_tokenText htoken before after⟩

/-- The token of a client that offers none among its subprotocols is that of its query. -/
theorem NoSubprotocol.socketToken?_eq (h : NoSubprotocol headers) (htoken : IsToken token)
    (before after : Nat) :
    socketToken? headers (some (spaced before token after)) = some token := by
  rw [socketToken?, show (headers.text? "sec-websocket-protocol").bind ofSubprotocols? = none
    from h, Option.none_or, Option.bind_some, htoken.nonBlank?_spaced]

end Credential

/-! ## One verdict -/

/-- The verdict about a token that is looked at. -/
def Verdict.of : Except AuthFault Identity → Verdict
  | .ok identity => .accepted identity
  | .error fault => .refused fault

/-- The verdicts about a request that are written to the audit log. -/
def Outcome.verdicts (o : Outcome) : List Verdict := o.entries.map AuditEntry.verdict

namespace Gate

open Credential (IsToken InAuthorization InSubprotocols NoSubprotocol InQuery spaced)

variable {g : Gate} {s : Surroundings} {r : Request} {token : String} {query : Option String}

/-- Whether a request for a socket carries a token: among its subprotocols, or in its query while
there is none among its subprotocols. -/
def CarriesForSocket (r : Request) (token : String) : Prop :=
  InSubprotocols r.headers token ∨ NoSubprotocol r.headers ∧ InQuery r.target.query? token

/-- What the query of a request says about a token is looked up there. -/
theorem AsksForSocket.lookup_eq (h : AsksForSocket s r query) :
    Query.lookup r.target.query? "token" = .found query := by
  have hquery := h.2
  unfold socketQuery at hquery
  split at hquery
  · exact nomatch hquery
  · rename_i given hgiven
    split at hquery
    · exact nomatch hquery
    · split at hquery
      · exact nomatch hquery
      · split at hquery
        · exact nomatch hquery
        · rw [hgiven, Except.ok.inj hquery]

/-- The token that a request for a socket carries is the one that is looked at. -/
theorem CarriesForSocket.socketToken?_eq (h : CarriesForSocket r token) (htoken : IsToken token)
    (hasks : AsksForSocket s r query) :
    Credential.socketToken? r.headers query = some token := by
  rcases h with hsubprotocols | ⟨hnone, hquery⟩
  · exact hsubprotocols.socketToken?_eq htoken query
  · rcases hquery.lookup_eq htoken with ⟨before, after, hlookup⟩
    rw [hasks.lookup_eq, Query.Lookup.found.injEq] at hlookup
    rw [hlookup]
    exact hnone.socketToken?_eq htoken before after

/-- No route but that of sockets writes to the audit log. -/
theorem entries_answer_of_ne (identity : Option Identity)
    (hroute : Route.of r.method r.target.path ≠ .socket) :
    (g.answer s identity r).entries = [] := by
  unfold answer
  cases hother : Route.of r.method r.target.path with
  | socket => exact absurd hother hroute
  | forward =>
      simp only
      split <;> rfl
  | _ => rfl

/-- What is completed about an answer is not written to the audit log. -/
theorem verdicts_serve (g : Gate) (s : Surroundings) (r : Request) :
    (g.serve s r).verdicts = (g.decide s (Credential.correlationId r.headers s.freshId)
      (marked (Credential.correlationId r.headers s.freshId) r)).verdicts := rfl

/-- The verdict about a request that needs a token is that about its bearer token. -/
theorem verdicts_of_guarded (hopen : g.isOpen r.target.path = false)
    (hrealtime : isRealtimePath r.target.path = false) :
    (g.serve s r).verdicts = [.of (g.identify r.headers)] := by
  have hroute : Route.of r.method r.target.path ≠ .socket := fun hsocket => by
    rw [Route.isRealtimePath_of_socket hsocket] at hrealtime
    exact nomatch hrealtime
  rw [verdicts_serve]
  generalize Credential.correlationId r.headers s.freshId = id
  have hsilent : ∀ identity, (g.answer s identity (marked id r)).entries = [] := fun identity =>
    entries_answer_of_ne identity hroute
  have hadmission := admission_marked g id r.target.path r
  unfold decide
  have htarget : (marked id r).target = r.target := rfl
  rw [htarget, hadmission]
  simp only [admission, hopen, hrealtime, Bool.or_self, Bool.false_eq_true, if_false]
  cases g.identify r.headers with
  | ok identity => simp [Outcome.verdicts, hsilent, Verdict.of]
  | error fault => simp [Outcome.verdicts, Verdict.of]

/-- The verdict about a request for a socket is that about the token that it carries. -/
theorem verdicts_of_asks (hasks : AsksForSocket s r query)
    (htoken : Credential.socketToken? r.headers query = some token) :
    (g.serve s r).verdicts = [.of (g.authenticate token)] := by
  rw [verdicts_serve]
  generalize Credential.correlationId r.headers s.freshId = id
  have hquery : socketQuery s.upgradable (marked id r) = .ok query :=
    (socketQuery_marked s.upgradable id r).trans hasks.2
  have hmarked : Credential.socketToken? (marked id r).headers query = some token :=
    (socketToken?_marked id r query).trans htoken
  rw [decide_of_socket id hasks.1]
  simp only [upgrade, hquery, hmarked]
  cases g.authenticate token <;> rfl

/-- Who gets a socket is whom the token speaks for that the request carries. -/
theorem socket_of_asks (hasks : AsksForSocket s r query)
    (htoken : Credential.socketToken? r.headers query = some token) :
    (g.serve s r).socket = (g.authenticate token).toOption := by
  rw [serve_socket, caller?, if_pos hasks.1, hasks.2]
  simp only [Except.toOption, Option.bind_some, htoken]

/-- A token is read as it is written, whether it stands in the authorization field, among the
subprotocols, whatever the query says then, or in the query while there is none among the
subprotocols; the scheme may be written in any case, and there may be spaces around the token.  So
the verdict about a request that needs a token and carries this one, and about a request for a
socket that carries it, is the verdict about the token. -/
theorem carriers_agree (g : Gate) (htoken : IsToken token) :
    (∀ headers, InAuthorization headers token →
      Credential.bearerToken headers = .ok token ∧
      g.identify headers = g.authenticate token) ∧
    (∀ headers, InSubprotocols headers token →
      ∀ query, Credential.socketToken? headers query = some token) ∧
    (∀ headers, NoSubprotocol headers → ∀ query, InQuery query token →
      ∃ given, Query.lookup query "token" = .found (some given) ∧
        Credential.socketToken? headers (some given) = some token) ∧
    (∀ s r, g.isOpen r.target.path = false → isRealtimePath r.target.path = false →
      InAuthorization r.headers token →
      (g.serve s r).verdicts = [.of (g.authenticate token)]) ∧
    ∀ s r query, AsksForSocket s r query → CarriesForSocket r token →
      (g.serve s r).verdicts = [.of (g.authenticate token)] ∧
      (g.serve s r).socket = (g.authenticate token).toOption := by
  have hidentify : ∀ {headers}, InAuthorization headers token →
      g.identify headers = g.authenticate token := by
    intro headers hcarries
    rw [identify, hcarries.bearerToken_eq htoken]
    rfl
  refine ⟨?_, ?_, ?_, ?_, ?_⟩
  · exact fun headers hcarries => ⟨hcarries.bearerToken_eq htoken, hidentify hcarries⟩
  · exact fun headers hcarries => hcarries.socketToken?_eq htoken
  · intro headers hnone query hquery
    rcases hquery.lookup_eq htoken with ⟨before, after, hlookup⟩
    exact ⟨_, hlookup, hnone.socketToken?_eq htoken before after⟩
  · intro s r hopen hrealtime hcarries
    rw [verdicts_of_guarded hopen hrealtime, hidentify hcarries]
  · intro s r query hasks hcarries
    have hread := hcarries.socketToken?_eq htoken hasks
    exact ⟨verdicts_of_asks hasks hread, socket_of_asks hasks hread⟩

/-! ### A token at three doors -/

/-- A request with a token in its authorization field. -/
def calling (token : String) : Request :=
  ⟨"GET", .place "/items", [.ofText "authorization" ("BEARER  " ++ token)], ByteArray.empty⟩

/-- A request for a socket with a token in its query, behind a space. -/
def querying (token : String) : Request :=
  ⟨"GET", .place ("/rt?token=+" ++ token), (knock token).headers.dropLast, ByteArray.empty⟩

/-- The token is accepted at each door. -/
theorem carriers_agree_of_pass :
    IsToken "pass" ∧
      (keeper.serve secluded (calling "pass")).verdicts =
        [.accepted ⟨"ada", none, [], .empty⟩] ∧
      (keeper.serve { secluded with upgradable := true } (knock "pass")).verdicts =
        [.accepted ⟨"ada", none, [], .empty⟩] ∧
      (keeper.serve { secluded with upgradable := true } (querying "pass")).verdicts =
        [.accepted ⟨"ada", none, [], .empty⟩] := by
  have htoken : IsToken "pass" := ⟨by decide, by decide⟩
  rcases keeper.carriers_agree htoken with ⟨-, -, -, hguarded, hsocket⟩
  have hcalling : InAuthorization (calling "pass").headers "pass" :=
    ⟨"BEARER", 1, 0, by decide, by decide⟩
  have hknock : InSubprotocols (knock "pass").headers "pass" :=
    ⟨"bearer", 1, 0, [], by decide, by simp, by decide⟩
  have htarget : (querying "pass").target.query? = some (Query.tokenText [.plus] "pass" []) := by
    decide
  have hquery : socketQuery true (querying "pass") = .ok (some (spaced 1 "pass" 0)) := by
    have hlookup := Query.lookup_tokenText htoken [.plus] []
    rw [← htarget] at hlookup
    simp only [socketQuery, hlookup]
    rfl
  have hnone : NoSubprotocol (querying "pass").headers := rfl
  exact ⟨htoken, hguarded _ _ rfl (by decide) hcalling,
    (hsocket _ _ none ⟨by decide, rfl⟩ (.inl hknock)).1,
    (hsocket { secluded with upgradable := true } _ _ ⟨by decide, hquery⟩
      (.inr ⟨hnone, [.plus], [], htarget⟩)).1⟩

end Gate
end Gatehouse
