import Gatehouse.Message.Client
import Gatehouse.Message.Event
import Gatehouse.Message.Server
import Gatehouse.Proofs.Json.Bounds
import Gatehouse.Proofs.Json.Typed
import Gatehouse.Proofs.Time.ReadBack

/-!
# Frames read back

Each kind of frame is written as an object and read by a reader of its own.  The free-form part
of an event or of a snapshot reads back as long as its numbers are whole ones of 64 bits and its
containers stand inside each other no further than a reading allows; all other parts of a frame
read back whatever they are.

Main results:

- Theorem {lit}`Event.decode_encode`: events of a year of four digits read back.
- Theorem {lit}`Event.kept_of_decode`: what holds of every event that is read.
- Theorem {lit}`ClientMessage.decode_encode`: frames from clients read back.
- Theorem {lit}`ServerMessage.decode_encode`: frames to clients read back.
-/

namespace Gatehouse

open Json

/-! ## Events -/

/-- The name of a class names it. -/
theorem EventClass.ofName?_name (cls : EventClass) : ofName? cls.name = some cls := by
  cases cls <;> rfl

namespace Event

/-- Whether an event is one that is kept: its payload is, and it occurred at a point in time. -/
structure Kept (e : Event) : Prop where
  payload : e.payload.Kept
  occurredAt : e.occurredAt.isValid = true

variable {e : Event} {depth : Nat}

theorem yields_readTimestamp {t : Timestamp} (h : Timestamp.parse? t.write = some t) :
    Yields anyText readTimestamp (writeString t.write) t := by
  intro c rest htest hc
  rcases yields_readText "an RFC 3339 formatted date and time string" t.write htest hc with
    ⟨c', hread, hc'⟩
  exact ⟨c', bind_eq_ok.2 ⟨(t.write, c'), hread, by simp only [h]⟩, hc'⟩

/-- The members of every event from the sequence number on read back. -/
theorem passes_seq {d : Draft} (hseq : d.seq = none) (hpayload : d.payload = none)
    (htime : d.occurredAt = none) (hcanonical : e.payload.canonical = e.payload)
    (hread : Yields Stops (Value.read depth) e.payload.write e.payload)
    (hparse : Timestamp.parse? e.occurredAt.write = some e.occurredAt) :
    Passes (· = '"') (Field.readMember fields depth) Value.writeMember d
      [("seq", .number (.natural e.seq)), ("payload", e.payload),
        ("occurredAt", .string e.occurredAt.write)]
      { d with seq := some e.seq, payload := some e.payload, occurredAt := some e.occurredAt } := by
  have hvalue := hread.map (f := fun payload =>
    ({ d with seq := some e.seq, payload := some payload.canonical } : Draft))
  rw [hcanonical] at hvalue
  refine Field.passes_cons rfl (congrArg Option.isSome hseq)
    ((yields_readWord64 e.seq).map (f := fun seq => ({ d with seq := some seq } : Draft))) ?_
  refine Field.passes_cons rfl (congrArg Option.isSome hpayload) hvalue ?_
  exact Field.passes_cons rfl (congrArg Option.isSome htime)
    ((yields_readTimestamp hparse).stops.map (f := fun t =>
      ({ d with seq := some e.seq, payload := some e.payload, occurredAt := some t } : Draft)))
    (.nil _)

/-- What has been read behind the members of an event. -/
def Draft.full (e : Event) : Draft :=
  ⟨some e.kind, some e.cls, e.key.map some, some e.seq, some e.payload, some e.occurredAt⟩

/-- The members of an event read back. -/
theorem passes_members (hcanonical : e.payload.canonical = e.payload)
    (hread : Yields Stops (Value.read depth) e.payload.write e.payload)
    (hparse : Timestamp.parse? e.occurredAt.write = some e.occurredAt) :
    Passes (· = '"') (Field.readMember fields depth) Value.writeMember Draft.blank
      ([("type", .string e.kind), ("class", .string e.cls.name)] ++
        (e.key.map fun key => ("subscriptionKey", .string key)).toList ++
        [("seq", .number (.natural e.seq)), ("payload", e.payload),
          ("occurredAt", .string e.occurredAt.write)])
      (Draft.full e) := by
  refine Field.passes_cons rfl rfl ((yields_readText textKind e.kind).stops.map (f := fun kind =>
    ({ Draft.blank with kind := some kind } : Draft))) ?_
  refine Field.passes_cons rfl rfl
    ((yields_readChoice (EventClass.ofName?_name e.cls)).stops.map (f := fun cls =>
      ({ Draft.blank with kind := some e.kind, cls := some cls } : Draft))) ?_
  cases hkey : e.key with
  | none =>
      have hrest := passes_seq (d := { Draft.blank with kind := some e.kind, cls := some e.cls })
        rfl rfl rfl hcanonical hread hparse
      rw [Draft.full, hkey]
      exact hrest
  | some key =>
      have hrest := passes_seq
        (d := { Draft.blank with kind := some e.kind, cls := some e.cls, key := some (some key) })
        rfl rfl rfl hcanonical hread hparse
      rw [Draft.full, hkey]
      exact Field.passes_cons rfl rfl
        (((yields_readText textKind key).readOptional (begins_writeString key)).stops.map
          (f := fun key =>
            ({ Draft.blank with kind := some e.kind, cls := some e.cls, key := some key } : Draft)))
        hrest

/-- Fewer containers stand inside each other in an event than a reading allows if its payload
leaves room for its own one. -/
theorem depth_toJson_lt_iff : e.toJson.depth < depth + 2 ↔ e.payload.depth < depth + 1 := by
  rw [toJson, Value.depth_object_lt_iff]
  constructor
  · intro h
    exact h _ (List.mem_append_right _ (List.mem_cons_of_mem _ List.mem_cons_self))
  · intro h m hm
    simp only [List.mem_append, List.mem_cons, List.not_mem_nil, or_false, Option.mem_toList,
      Option.map_eq_some_iff] at hm
    -- only the payload can be a container
    rcases hm with ((rfl | rfl) | ⟨key, -, rfl⟩) | rfl | rfl | rfl
    case inr.inr.inl => exact h
    all_goals exact Nat.succ_pos depth

/-- Events of a year of four digits read back if their payload holds no number that is kept as a
double and their text is nested no further than a reading allows. -/
theorem decode_encode (hkept : e.Kept)
    (hyear : 0 ≤ e.occurredAt.day.year ∧ e.occurredAt.day.year ≤ 9999)
    (hwhole : ∀ n ∈ e.payload.numbers, n.IsWhole) (hdepth : e.toJson.depth < nestingLimit) :
    decode e.encode = .ok e := by
  -- the payload stands inside the object of the event, which takes one container
  have hpayload : e.payload.depth < 127 := depth_toJson_lt_iff.1 hdepth
  have hread : Yields Stops (Value.read 127) e.payload.write e.payload :=
    Value.yields_read e.payload _ hpayload fun n hn => ⟨hkept.payload.fits n hn, hwhole n hn⟩
  have hmembers := passes_members hkept.payload.canonical hread
    (Timestamp.parse?_write hkept.occurredAt hyear)
  have hrecord : Yields anyText (readRecord "struct Event" fields Draft.blank nestingLimit)
      e.toJson.write (Draft.full e) := yields_readRecord hmembers rfl
  have hfinish : ofDraft? (Draft.full e) = some e := by
    rcases e with ⟨kind, cls, key, seq, payload, occurredAt⟩
    cases key <;> rfl
  exact (hrecord.finishRecord hfinish).run

/-! ### What is read of events -/

/-- Whether what has been read of an event stays within the bounds of the reading. -/
structure Draft.Bounded (depth : Nat) (d : Draft) : Prop where
  payload : ∀ v, d.payload = some v → v.depth < depth ∧ v.Kept
  occurredAt : ∀ t, d.occurredAt = some t → t.isValid = true

theorem ensures_readTimestamp : Ensures readTimestamp fun t => t.isValid = true := by
  intro c c' t hread
  rcases bind_eq_ok.1 hread with ⟨⟨text, d⟩, -, hparsed⟩
  dsimp only at hparsed
  split at hparsed
  · rename_i u hparse
    rw [Except.ok.injEq, Prod.mk.injEq] at hparsed
    exact hparsed.1 ▸ Timestamp.isValid_of_parse? hparse
  · simp [Failure.atHere] at hparsed

/-- A field other than the payload and the time keeps what has been read within the bounds of the
reading. -/
theorem Draft.Bounded.ensures_other {d : Draft} (hd : d.Bounded depth) {α : Type} {r : Reader α}
    {f : α → Draft} (hf : ∀ a, (f a).payload = d.payload ∧ (f a).occurredAt = d.occurredAt) :
    Ensures (fun c => do
      let (a, c) ← r c
      return (f a, c)) (Draft.Bounded depth) := by
  have hany : Ensures r fun _ => True := fun _ _ _ _ => trivial
  refine hany.map fun a _ => ⟨?_, ?_⟩
  · rw [(hf a).1]
    exact hd.payload
  · rw [(hf a).2]
    exact hd.occurredAt

/-- Every field keeps what has been read within the bounds of the reading. -/
theorem ensures_fields : ∀ field ∈ fields, ∀ d : Draft, d.Bounded depth →
    Ensures (field.read depth d) (Draft.Bounded depth) := by
  intro field hfield d hd
  simp only [fields, List.mem_cons, List.not_mem_nil, or_false] at hfield
  rcases hfield with rfl | rfl | rfl | rfl | rfl | rfl
  · exact hd.ensures_other (f := fun kind => { d with kind := some kind }) fun _ => ⟨rfl, rfl⟩
  · exact hd.ensures_other (f := fun cls => { d with cls := some cls }) fun _ => ⟨rfl, rfl⟩
  · exact hd.ensures_other (f := fun key => { d with key := some key }) fun _ => ⟨rfl, rfl⟩
  · exact hd.ensures_other (f := fun seq => { d with seq := some seq }) fun _ => ⟨rfl, rfl⟩
  · refine (Value.ensures_read depth).map (Q := Draft.Bounded depth)
      (f := fun payload => { d with payload := some payload.canonical }) fun v hv =>
        ⟨?_, hd.occurredAt⟩
    rintro _ ⟨⟩
    exact ⟨hv.canonical.1, hv.kept⟩
  · refine ensures_readTimestamp.map (Q := Draft.Bounded depth)
      (f := fun t => { d with occurredAt := some t }) fun t ht => ⟨hd.payload, ?_⟩
    rintro _ ⟨⟩
    exact ht

/-- Whatever text an event is read from, it is kept, and its text is nested no further than a
reading allows. -/
theorem kept_of_decode {frame : String} (h : decode frame = .ok e) :
    e.Kept ∧ e.toJson.depth < nestingLimit := by
  have hblank : Draft.blank.Bounded 127 :=
    ⟨fun _ hgiven => (nomatch hgiven), fun _ hgiven => (nomatch hgiven)⟩
  have hdraft : Ensures (readRecord "struct Event" fields Draft.blank nestingLimit)
      (Draft.Bounded 127) := ensures_readRecord ensures_fields hblank
  have hevent : Ensures read fun e => e.Kept ∧ e.toJson.depth < nestingLimit := by
    refine hdraft.finishRecord fun d e hd hfinish => ?_
    rcases Option.bind_eq_some_iff.1 hfinish with ⟨kind, -, hfinish⟩
    rcases Option.bind_eq_some_iff.1 hfinish with ⟨seq, -, hfinish⟩
    rcases Option.bind_eq_some_iff.1 hfinish with ⟨t, htime, hfinish⟩
    have hpayload : (d.payload.getD .null).depth < 127 ∧ (d.payload.getD .null).Kept := by
      cases hgiven : d.payload with
      | none => exact ⟨by decide, rfl, fun n hn => nomatch hn⟩
      | some v => exact hd.payload v hgiven
    rw [← Option.some.inj hfinish]
    exact ⟨⟨hpayload.2, hd.occurredAt t htime⟩, depth_toJson_lt_iff.2 hpayload.1⟩
  exact hevent.run h

end Event

/-! ## Frames from clients -/

namespace ClientMessage

/-- A frame of a variant reads back if the variant with the other members makes the message. -/
theorem decode_of_content {m : ClientMessage} (tag : Tag) (members : List (String × Value))
    (hjson : m.toJson = .object (("type", .string tag.name) :: members))
    (hcontent : ofContent tag (.map members) = .ok m) (hkeys : ∀ m ∈ members, m.1 ≠ "type")
    (hdepth : (Value.object members).depth < nestingLimit)
    (hnumbers : ∀ n ∈ (Value.object members).numbers, n.Fits ∧ n.IsWhole) :
    decode m.encode = .ok m := by
  have htag : Tag.ofName? tag.name = some tag := by cases tag <;> rfl
  rw [decode, encode, hjson]
  exact run_readTagged htag hkeys hdepth hnumbers fun _ _ htagged =>
    bind_eq_ok.2 ⟨_, htagged, by simp only [hcontent]⟩

/-- Frames from clients read back. -/
theorem decode_encode (m : ClientMessage) : decode m.encode = .ok m := by
  cases m with
  | subscribe key seq =>
      cases seq with
      | none =>
          exact decode_of_content .subscribe [("subscriptionKey", .string key)] rfl rfl (by simp)
            (show 1 < 128 by decide) fun n hn => nomatch hn
      | some seq =>
          refine decode_of_content .subscribe
            [("subscriptionKey", .string key), ("seq", .number (.natural seq.val))] rfl
            ?_ (by simp) (show 1 < 128 by decide) fun n hn => ?_
          · have hseq : (Value.number (.natural seq.val)).toOptional Value.toWord =
                .ok (some seq) := congrArg (Except.map some) (toWord_val seq)
            exact bind_eq_ok.2 ⟨_, Content.fill_cons ⟨some key, none⟩ rfl rfl rfl
              (Content.fill_cons ⟨some key, some (some seq)⟩ rfl rfl
                (congrArg (Except.map _) hseq) rfl), rfl⟩
          · rw [List.mem_singleton.1 hn]
            exact ⟨seq.isLt, trivial⟩
  | unsubscribe =>
      exact decode_of_content .unsubscribe _ rfl rfl (by simp) (by decide)
        fun n hn => nomatch hn
  | ping =>
      exact decode_of_content .ping _ rfl rfl (by simp) (by decide) fun n hn => nomatch hn

end ClientMessage

/-! ## Frames to clients -/

namespace ServerMessage

/-- Whether a message is one that is sent: the resource of a snapshot is kept as a value, and the
time of a heartbeat is of 64 bits. -/
def Kept : ServerMessage → Prop
  | snapshot _ resource _ => resource.Kept
  | heartbeat time => -(Nat.pow 2 63 : Int) ≤ time ∧ time < Nat.pow 2 63
  | _ => True

/-- A frame of a variant reads back if the variant with the other members makes the message. -/
theorem decode_of_content {m : ServerMessage} (tag : Tag) (members : List (String × Value))
    (hjson : m.toJson = .object (("type", .string tag.name) :: members))
    (hcontent : ofContent tag (.map members) = .ok m) (hkeys : ∀ m ∈ members, m.1 ≠ "type")
    (hdepth : (Value.object members).depth < nestingLimit)
    (hnumbers : ∀ n ∈ (Value.object members).numbers, n.Fits ∧ n.IsWhole) :
    decode m.encode = .ok m := by
  have htag : Tag.ofName? tag.name = some tag := by cases tag <;> rfl
  rw [decode, encode, hjson]
  exact run_readTagged htag hkeys hdepth hnumbers fun _ _ htagged =>
    bind_eq_ok.2 ⟨_, htagged, by simp only [hcontent]⟩

/-- Whole numbers of 64 bits are read back from their values. -/
theorem toInt_ofInt {time : Int} (h : time < Nat.pow 2 63) (kind : String) :
    (ofInt time).toInt kind = .ok time := by
  unfold ofInt
  split
  · have hback : -(time.natAbs : Int) = time := by omega
    exact congrArg Except.ok hback
  · have hback : (time.natAbs : Int) = time := by omega
    have hrange : time.natAbs < Nat.pow 2 63 := by omega
    simp only [Value.toInt, if_pos hrange, hback]

/-- The number of a heartbeat is a whole one that fits. -/
theorem fits_ofInt {time : Int} {n : Number}
    (h : -(Nat.pow 2 63 : Int) ≤ time ∧ time < Nat.pow 2 63) (hn : n ∈ (ofInt time).numbers) :
    n.Fits ∧ n.IsWhole := by
  have hpow : Nat.pow 2 64 = 2 * Nat.pow 2 63 := rfl
  unfold ofInt at hn
  rw [List.mem_singleton.1 hn]
  split
  · exact ⟨⟨by omega, by omega⟩, trivial⟩
  · refine ⟨?_, trivial⟩
    show time.natAbs < Nat.pow 2 64
    omega

/-- Frames to clients read back if the resource of a snapshot holds no number that is kept as a
double and the text is nested no further than a reading allows. -/
theorem decode_encode {m : ServerMessage} (hkept : m.Kept)
    (hwhole : ∀ n ∈ m.toJson.numbers, n.IsWhole) (hdepth : m.toJson.depth < nestingLimit) :
    decode m.encode = .ok m := by
  cases m with
  | snapshot key resource seq =>
      have hseq : (Value.number (.natural seq.val)).toWord = .ok seq := toWord_val seq
      refine decode_of_content .snapshot _ rfl ?_ (by simp) ?_ ?_
      · refine bind_eq_ok.2 ⟨_, Content.fill_cons ⟨some key, none, none⟩ rfl rfl rfl
          (Content.fill_cons ⟨some key, some resource.canonical, none⟩ rfl rfl rfl
            (Content.fill_cons ⟨some key, some resource.canonical, some seq⟩ rfl rfl
              (congrArg (Except.map _) hseq) rfl)), ?_⟩
        rw [hkept.canonical]
        rfl
      · exact Value.depth_object_lt_iff.2 fun m hm =>
          Value.depth_object_lt_iff.1 hdepth m (List.mem_cons_of_mem _ hm)
      · intro n hn
        rcases Value.mem_numbers_object.1 hn with ⟨m, hm, hown⟩
        refine ⟨?_, hwhole n (Value.mem_numbers_object.2 ⟨m, List.mem_cons_of_mem _ hm, hown⟩)⟩
        simp only [List.mem_cons, List.not_mem_nil, or_false] at hm
        rcases hm with rfl | rfl | rfl
        · exact nomatch hown
        · exact hkept.fits n hown
        · rw [List.mem_singleton.1 hown]
          exact seq.isLt
  | error code message =>
      have hcode : toCode (.number (.natural code.val)) = .ok code :=
        bind_eq_ok.2 ⟨code.val, if_pos code.isLt,
          congrArg Except.ok (Fin.ext (Nat.mod_eq_of_lt code.isLt))⟩
      refine decode_of_content .error _ rfl ?_ (by simp) (show 1 < 128 by decide)
        fun n hn => ?_
      · exact bind_eq_ok.2 ⟨_, Content.fill_cons ⟨some code, none⟩ rfl rfl
          (congrArg (Except.map _) hcode)
          (Content.fill_cons ⟨some code, some message⟩ rfl rfl rfl rfl), rfl⟩
      · rw [List.mem_singleton.1 hn]
        exact ⟨Nat.lt_trans code.isLt (by decide), trivial⟩
  | pong =>
      exact decode_of_content .pong _ rfl rfl (by simp) (show 1 < 128 by decide)
        fun n hn => nomatch hn
  | heartbeat time =>
      have htime : (ofInt time).toInt "i64" = .ok time := toInt_ofInt hkept.2 "i64"
      refine decode_of_content .heartbeat _ rfl ?_ (by simp) (show 1 < 128 by decide)
        fun n hn => ?_
      · exact bind_eq_ok.2 ⟨_, Content.fill_cons (some time) rfl rfl
          (congrArg (Except.map some) htime) rfl, rfl⟩
      · exact fits_ofInt hkept hn

end ServerMessage

end Gatehouse
