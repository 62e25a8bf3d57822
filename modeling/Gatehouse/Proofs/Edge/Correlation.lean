import Gatehouse.Proofs.Edge.Passage
import Gatehouse.Proofs.Text.Trimming
import Gatehouse.Text.Utf8

/-!
# One id for every request

The id of a request is read from its headers, or a fresh one is drawn.  It is written into the
headers that are passed on, from which the route for sockets reads an id again, and into the
answer.  What is written reads back as it is, so that no second id is ever drawn.

Main results:

- Theorem {lit}`Credential.correlationId?_eq_some_iff`: which id a request has chosen.
- Theorem {lit}`Credential.correlationId?_put`: an id that is written is the one that is read.
- Theorem {lit}`Gate.serve_one_id`: the id of a request is the one on all that comes of it.
-/

namespace Gatehouse

/-! ## Readable values -/

namespace HeaderField

variable {value : List UInt8} {text : String}

/-- A readable text reads back from its bytes. -/
theorem readable?_utf8 (h : ∀ c ∈ text.toList, Text.isReadable c = true) :
    readable? (Text.utf8 text) = some text := by
  have hchars : ((Text.utf8 text).map fun b => Char.ofNat b.toNat) = text.toList :=
    Text.chars_utf8_of_ascii fun c hc => Text.ascii_of_isReadable (h c hc)
  unfold readable?
  rw [hchars]
  dsimp only
  rw [if_pos (List.all_eq_true.2 h), String.ofList_toList]

/-- A value that can be read has a readable text. -/
theorem isReadable_of_readable? (h : readable? value = some text) :
    ∀ c ∈ text.toList, Text.isReadable c = true := by
  unfold readable? at h
  dsimp only at h
  split at h
  · rename_i hall
    rw [← Option.some.inj h, String.toList_ofList]
    exact List.all_eq_true.1 hall
  · exact nomatch h

end HeaderField

/-! ## Ids -/

namespace Credential

variable {headers : Headers} {id : String}

/-- Whether a text is the id of a request as it stands in a header. -/
structure IsId (id : String) : Prop where
  readable : ∀ c ∈ id.toList, Text.isReadable c = true
  trimmed : Text.trim id = id
  nonempty : id ≠ ""
  short : id.utf8ByteSize ≤ 128

/-- Whether the sender of a request has chosen its id: it is what trimming leaves of the first
value, if that can be read, and neither empty nor too long. -/
def Chooses (headers : Headers) (id : String) : Prop :=
  ∃ value text, headers.first? correlationField = some value ∧
    HeaderField.readable? value = some text ∧ Text.trim text = id ∧ id ≠ "" ∧
    id.utf8ByteSize ≤ 128

/-- What is left of a text without blanks, if anything is. -/
theorem nonBlank?_eq_some_iff {text : String} :
    nonBlank? text = some id ↔ Text.trim text = id ∧ id ≠ "" := by
  unfold nonBlank?
  dsimp only
  split
  · rename_i hempty
    rw [String.isEmpty_iff] at hempty
    constructor
    · intro h
      exact nomatch h
    · rintro ⟨hid, hnonempty⟩
      exact absurd (hid.symm.trans hempty) hnonempty
  · rename_i hnonempty
    rw [String.isEmpty_iff] at hnonempty
    rw [Option.some.injEq]
    constructor
    · rintro rfl
      exact ⟨rfl, hnonempty⟩
    · exact And.left

/-- The id that is read from headers is the one that their sender has chosen. -/
theorem correlationId?_eq_some_iff : correlationId? headers = some id ↔ Chooses headers id := by
  have hlongest : longestCorrelationId = 128 := rfl
  unfold correlationId? Chooses Headers.text?
  simp only [Option.filter_eq_some_iff, Option.bind_eq_some_iff, nonBlank?_eq_some_iff, hlongest,
    decide_eq_true_eq]
  constructor
  · rintro ⟨⟨text, ⟨value, hvalue, htext⟩, hid, hnonempty⟩, hshort⟩
    exact ⟨value, text, hvalue, htext, hid, hnonempty, hshort⟩
  · rintro ⟨value, text, hvalue, htext, hid, hnonempty, hshort⟩
    exact ⟨⟨text, ⟨value, hvalue, htext⟩, hid, hnonempty⟩, hshort⟩

/-- An id that is chosen can stand in a header. -/
theorem Chooses.isId (h : Chooses headers id) : IsId id := by
  rcases h with ⟨value, text, -, htext, rfl, hnonempty, hshort⟩
  refine ⟨fun c hc => ?_, Text.trim_trim text, hnonempty, hshort⟩
  rw [Text.trim, String.toList_ofList] at hc
  exact HeaderField.isReadable_of_readable? htext c (Text.mem_of_mem_trimList hc)

/-- An id that is written into headers is the one that is read from them. -/
theorem correlationId?_put (headers : Headers) (h : IsId id) :
    correlationId? (headers.put correlationField (Text.utf8 id)) = some id := by
  -- the id has been trimmed before, so that trimming its text again leaves it as it is
  refine correlationId?_eq_some_iff.2
    ⟨Text.utf8 id, id, ?_, HeaderField.readable?_utf8 h.readable, h.trimmed, h.nonempty, h.short⟩
  rw [Headers.first?, Headers.all_put]
  rfl

/-! ### Fresh ids -/

/-- The characters of fresh ids. -/
def freshChars : List Char := "0123456789abcdef-".toList

/-- A group of digits is one of bytes. -/
theorem mem_freshChars_of_hexByte {b : UInt8} {c : Char} (h : c ∈ hexByte b) :
    c ∈ freshChars := by
  have hdigit : ∀ n : Fin 16, Text.hexChar n.val ∈ freshChars := by decide
  have hbound := b.toNat_lt
  unfold hexByte at h
  rcases List.mem_cons.1 h with rfl | hlow
  · exact hdigit ⟨b.toNat / 16, by omega⟩
  · rw [List.mem_singleton.1 hlow]
    exact hdigit ⟨b.toNat % 16, by omega⟩

/-- A group has two digits for each byte. -/
theorem length_hexBytes (bytes : List UInt8) :
    (bytes.flatMap hexByte).length = 2 * bytes.length := by
  induction bytes with
  | nil => rfl
  | cons b bytes ih =>
      rw [List.flatMap_cons, List.length_append, ih, List.length_cons, hexByte]
      exact Nat.add_comm 2 _

/-- A fresh id is five groups of digits with hyphens between them. -/
theorem exists_groups_freshId (random : List UInt8) :
    ∃ a b c d e : List UInt8,
      (freshId random).toList = a.flatMap hexByte ++ '-' :: b.flatMap hexByte ++
        '-' :: c.flatMap hexByte ++ '-' :: d.flatMap hexByte ++ '-' :: e.flatMap hexByte ∧
      a.length ≤ 4 ∧ b.length ≤ 2 ∧ c.length ≤ 2 ∧ d.length ≤ 2 ∧ e.length ≤ 6 := by
  have hhyphen : "-".toList = ['-'] := by decide
  unfold freshId
  dsimp only
  generalize random.mapIdx _ = marked
  refine ⟨(marked.drop 0).take 4, (marked.drop 4).take 2, (marked.drop 6).take 2,
    (marked.drop 8).take 2, (marked.drop 10).take 6, ?_, List.length_take_le _ _,
    List.length_take_le _ _, List.length_take_le _ _, List.length_take_le _ _,
    List.length_take_le _ _⟩
  simp only [String.toList_ofList, List.intercalate, hhyphen, List.intersperse_cons_cons,
    List.intersperse_singleton, List.flatten_cons, List.flatten_nil, List.append_nil,
    List.cons_append, List.nil_append, List.append_assoc]

/-- The characters of a fresh id are digits and hyphens. -/
theorem mem_freshChars_of_mem {random : List UInt8} {ch : Char}
    (h : ch ∈ (freshId random).toList) : ch ∈ freshChars := by
  have hhyphen : '-' ∈ freshChars := by decide
  have hgroup : ∀ bytes : List UInt8, ch ∈ bytes.flatMap hexByte → ch ∈ freshChars := by
    intro bytes hbytes
    rcases List.mem_flatMap.1 hbytes with ⟨byte, -, hbyte⟩
    exact mem_freshChars_of_hexByte hbyte
  rcases exists_groups_freshId random with ⟨a, b, c, d, e, hgroups, -⟩
  rw [hgroups] at h
  simp only [List.mem_append, List.mem_cons] at h
  rcases h with ((((ha | rfl | hb) | rfl | hc) | rfl | hd) | rfl | he)
  · exact hgroup a ha
  · exact hhyphen
  · exact hgroup b hb
  · exact hhyphen
  · exact hgroup c hc
  · exact hhyphen
  · exact hgroup d hd
  · exact hhyphen
  · exact hgroup e he

/-- A fresh id can stand in a header. -/
theorem isId_freshId (random : List UInt8) : IsId (freshId random) := by
  have hchars : ∀ ch ∈ freshChars, Text.isReadable ch = true :=
    List.all_eq_true.1 (by decide)
  have hsolid : ∀ ch ∈ freshChars, (!Text.isBlank ch) = true :=
    List.all_eq_true.1 (by decide)
  have hreadable : ∀ ch ∈ (freshId random).toList, Text.isReadable ch = true :=
    fun ch hch => hchars ch (mem_freshChars_of_mem hch)
  rcases exists_groups_freshId random with ⟨a, b, c, d, e, hgroups, ha, hb, hc, hd, he⟩
  refine ⟨hreadable, ?_, ?_, ?_⟩
  · apply Text.trim_of_no_blanks
    intro ch hch
    simpa using hsolid ch (mem_freshChars_of_mem hch)
  · intro hempty
    rw [hempty] at hgroups
    simp at hgroups
  · have hascii := Text.utf8_of_ascii fun ch hch => Text.ascii_of_isReadable (hreadable ch hch)
    have hsize : (freshId random).utf8ByteSize = (freshId random).toList.length := by
      rw [← String.size_toByteArray, ← String.toUTF8, ← Text.toByteArray_utf8,
        List.size_toByteArray, hascii, List.length_map]
    rw [hsize, hgroups]
    simp only [List.length_append, List.length_cons, length_hexBytes]
    omega

/-! ### The id of a request -/

/-- The id of a request is the one that its sender has chosen or else the fresh one. -/
theorem correlationId_cases (headers : Headers) (fresh : String) :
    Chooses headers (correlationId headers fresh) ∨
      (∀ id, ¬ Chooses headers id) ∧ correlationId headers fresh = fresh := by
  simp only [← correlationId?_eq_some_iff]
  unfold correlationId
  cases correlationId? headers with
  | none => exact .inr ⟨by simp, rfl⟩
  | some id => exact .inl rfl

/-- The id of a request can stand in a header if a fresh one can. -/
theorem isId_correlationId {fresh : String} (hfresh : IsId fresh) (headers : Headers) :
    IsId (correlationId headers fresh) := by
  rcases correlationId_cases headers fresh with hchosen | ⟨-, hid⟩
  · exact hchosen.isId
  · rw [hid]
    exact hfresh

end Credential

/-! ## What comes of a request -/

namespace Gate

variable {g : Gate} {s : Surroundings} {r : Request} {o : Outgoing} {id : String}
  {entry : AuditEntry}

/-- The id of a marked request is its mark, whatever the fresh id is. -/
theorem correlationId_marked (h : Credential.IsId id) (r : Request) (fresh : String) :
    Credential.correlationId (marked id r).headers fresh = id := by
  rw [Credential.correlationId, marked, Credential.correlationId?_put r.headers h,
    Option.getD_some]

/-- The route for sockets reads the id of a request from its headers. -/
theorem correlation_upgrade (h : entry ∈ (g.upgrade s r).entries) :
    entry.correlation = Credential.correlationId r.headers s.freshId := by
  unfold upgrade at h
  cases hquery : socketQuery s.upgradable r with
  | error misfit => simp [hquery] at h
  | ok query =>
      cases htoken : Credential.socketToken? r.headers query with
      | none =>
          simp only [hquery, htoken, List.mem_singleton] at h
          rw [h]
      | some token =>
          cases hidentity : g.authenticate token with
          | ok identity =>
              simp only [hquery, htoken, hidentity, List.mem_singleton] at h
              rw [h]
          | error fault =>
              simp only [hquery, htoken, hidentity, List.mem_singleton] at h
              rw [h]

/-- No other route writes to the audit log. -/
theorem correlation_answer {identity : Option Identity}
    (h : entry ∈ (g.answer s identity r).entries) :
    entry.correlation = Credential.correlationId r.headers s.freshId := by
  unfold answer at h
  cases hroute : Route.of r.method r.target.path with
  | socket =>
      simp only [hroute] at h
      exact correlation_upgrade h
  | forward => cases hforward : Gatehouse.forward s.transport g.target r <;>
      simp [hroute, hforward] at h
  | health | effective | wrongMethod => simp [hroute] at h

/-- Every entry about a marked request has its mark, whichever surroundings the request meets
behind the place where it is marked. -/
theorem correlation_decide (hid : Credential.IsId id)
    (h : entry ∈ (g.decide s id (marked id r)).entries) : entry.correlation = id := by
  unfold decide at h
  cases hadmission : g.admission (marked id r).target.path (marked id r).headers with
  | anyone =>
      simp only [hadmission] at h
      rw [correlation_answer h, correlationId_marked hid]
  | known identity =>
      simp only [hadmission, List.mem_cons] at h
      rcases h with rfl | h
      · rfl
      · rw [correlation_answer h, correlationId_marked hid]
  | refused fault =>
      simp only [hadmission, List.mem_singleton] at h
      rw [h]

/-- A request has one id: what trimming leaves of the first value of its field, if that can be
read and is neither empty nor too long, and otherwise the fresh one.  The answer has this id and
no other, whatever the service behind the gate has written into its own.  The request that the
routes see has it, as has every request that is passed on or sent on the wire.  All entries of the
audit log have it, and they would have it too if the request met other surroundings behind the
place where it is marked, with another fresh id among them. -/
theorem serve_one_id (random : List UInt8) (hfresh : s.freshId = Credential.freshId random) :
    ∃ id,
      (Credential.Chooses r.headers id ∨
        (∀ other, ¬ Credential.Chooses r.headers other) ∧ id = s.freshId) ∧
      (g.serve s r).response.headers.all Credential.correlationField = [Text.utf8 id] ∧
      (∀ entry ∈ (g.serve s r).entries, entry.correlation = id) ∧
      (marked id r).headers.all Credential.correlationField = [Text.utf8 id] ∧
      (∀ again : Surroundings, ∀ entry ∈ (g.decide again id (marked id r)).entries,
        entry.correlation = id) ∧
      (∀ o, g.passedOn? s r = some o →
        o.headers.all Credential.correlationField = [Text.utf8 id]) ∧
      ∀ wire, ∀ w ∈ g.sent s wire r,
        w.headers.all Credential.correlationField = [Text.utf8 id] := by
  have hid : Credential.IsId (Credential.correlationId r.headers s.freshId) :=
    Credential.isId_correlationId (hfresh ▸ Credential.isId_freshId random) r.headers
  have hpassed : ∀ o, g.passedOn? s r = some o → o.headers.all Credential.correlationField =
      [Text.utf8 (Credential.correlationId r.headers s.freshId)] := by
    intro o hpassed
    have hkept : Credential.correlationField ∉ "content-length" :: hopFields := by decide
    rw [all_passedOn hpassed, if_neg hkept, if_pos rfl]
  refine ⟨_, Credential.correlationId_cases r.headers s.freshId, serve_correlated g s r,
    fun entry => correlation_decide hid, Headers.all_put _ _ _,
    fun again entry => correlation_decide hid, hpassed, fun wire w hw => ?_⟩
  have hother : Credential.correlationField ≠ "accept" := by decide
  have hkept : Credential.correlationField ∉ bodyFields ++ hostFields := by decide
  have hnew : Credential.correlationField ≠ refererField := by decide
  rcases first_of_mem_sent hw with ⟨o, first, ho, hfirst, habridges⟩
  calc w.headers.all Credential.correlationField
      = first.headers.all Credential.correlationField :=
        (habridges _ hnew).resolve_right fun hnone => hkept hnone.1
    _ = o.headers.all Credential.correlationField := by
        rw [Outgoing.all_onWire hfirst, if_neg fun haccept => hother haccept.1]
    _ = _ := hpassed o ho

/-! ### A request with two ids -/

/-- A request that has two ids, the first with blanks around it. -/
def doubled : Request where
  method := "GET"
  target := .place "/api"
  headers := [⟨Credential.correlationField, Text.utf8 " c1 "⟩,
    ⟨"authorization", goodCredential⟩, ⟨Credential.correlationField, Text.utf8 "c2"⟩]
  body := ByteArray.empty

/-- An answer that has two ids of its own. -/
def ownIds : Response where
  status := 200
  headers := [⟨Credential.correlationField, Text.utf8 "b1"⟩,
    ⟨Credential.correlationField, Text.utf8 "b2"⟩]
  body := ByteArray.empty
  streamed := false

/-- Surroundings in which the service behind the gate gives this answer. -/
def owning : Surroundings where
  freshId := Credential.freshId (List.replicate 16 0)
  time := "now"
  transport := fun _ => some ownIds
  upgradable := false

/-- The first id of the request, without the blanks, is on the answer, on the request that is
passed on and on the entry of the audit log. -/
theorem serve_one_id_of_doubled :
    owning.freshId = Credential.freshId (List.replicate 16 0) ∧
      (narrow.serve owning doubled).response.headers.all Credential.correlationField =
        [Text.utf8 "c1"] ∧
      (∃ entry ∈ (narrow.serve owning doubled).entries, entry.correlation = "c1") ∧
      ∃ o, narrow.passedOn? owning doubled = some o ∧
        o.headers.all Credential.correlationField = [Text.utf8 "c1"] := by
  have hchooses : Credential.Chooses doubled.headers "c1" :=
    ⟨Text.utf8 " c1 ", " c1 ", by decide, by decide, by decide, by decide, by decide⟩
  have hentry : ∃ entry, entry ∈ (narrow.serve owning doubled).entries :=
    ⟨_, List.mem_cons_self⟩
  have hpassed : ∃ o, narrow.passedOn? owning doubled = some o := ⟨_, rfl⟩
  rcases serve_one_id (g := narrow) (s := owning) (r := doubled) (List.replicate 16 0) rfl with
    ⟨id, hid, hresponse, hentries, -, -, hpassedOn, -⟩
  have hsame : id = "c1" := by
    rcases hid with hid | ⟨hnone, -⟩
    · rw [← Credential.correlationId?_eq_some_iff] at hid hchooses
      exact Option.some.inj (hid.symm.trans hchooses)
    · exact absurd hchooses (hnone "c1")
  rw [hsame] at hresponse hentries hpassedOn
  rcases hentry with ⟨entry, hentry⟩
  rcases hpassed with ⟨o, hpassed⟩
  exact ⟨rfl, hresponse, ⟨entry, hentry, hentries entry hentry⟩, o, hpassed, hpassedOn o hpassed⟩

end Gate
end Gatehouse
