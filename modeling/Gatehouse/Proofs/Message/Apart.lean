import Gatehouse.Proofs.Json.Stepping
import Gatehouse.Proofs.Json.Tagging
import Gatehouse.Proofs.Message.ReadBack
import Gatehouse.Relay.Queue

/-!
# Telling frames apart

Events and messages of the gate are sent to clients on one connection, and both have a type.  The
types of messages are fixed, those of events are not, so that an event may have the type of a
message.  Its other members are not those of a message, and a client takes an event for a message
only if the message has no other members.

Main results:

- Theorem {lit}`ServerMessage.decode_event_iff`: which events pass for messages.
- Theorem {lit}`Event.decode_message_ne_ok`: no message passes for an event.
- Theorem {lit}`Outbound.told_apart`: which frames a client can tell apart.
-/

namespace Gatehouse

open Json

/-! ## Events that are taken for messages -/

/-- The names of the members of an event beside its type. -/
def Event.otherNames : List String := ["class", "subscriptionKey", "seq", "payload", "occurredAt"]

/-- The members of an event: its type in front of others of fixed names. -/
theorem Event.exists_members (e : Event) :
    ∃ others, e.toJson = .object (("type", .string e.kind) :: others) ∧
      ∀ m ∈ others, m.1 ∈ otherNames := by
  refine ⟨[("class", .string e.cls.name)] ++
    (e.key.map fun key => ("subscriptionKey", .string key)).toList ++
    [("seq", .number (.natural e.seq)), ("payload", e.payload),
      ("occurredAt", .string e.occurredAt.write)], rfl, fun m hm => ?_⟩
  simp only [List.mem_append, List.mem_cons, List.not_mem_nil, or_false, Option.mem_toList,
    Option.map_eq_some_iff] at hm
  rcases hm with (rfl | ⟨key, -, rfl⟩) | rfl | rfl | rfl <;> simp [otherNames]

namespace ServerMessage

variable {m : ServerMessage} {tag : Tag} {others : List (String × Value)}

/-- The variant of a pong has one name. -/
theorem Tag.ofName?_eq_pong_iff {name : String} : Tag.ofName? name = some .pong ↔ name = "pong" := by
  constructor
  · intro h
    have hname := List.find?_some h
    exact (beq_iff_eq.1 hname).symm
  · rintro rfl
    rfl

/-- What is made of a result is made of something. -/
theorem exists_of_map {ε α β : Type} {x : Except ε α} {f : α → β} {b : β}
    (h : x.map f = .ok b) : ∃ a, f a = b := by
  cases x with
  | error fault => exact nomatch h
  | ok a => exact ⟨a, Except.ok.inj h⟩

/-- A snapshot has a resource among its members. -/
theorem resource_of_snapshot (h : ofContent .snapshot (.map others) = .ok m) :
    ∃ m ∈ others, m.1 = "resource" := by
  rcases bind_eq_ok.1 h with ⟨draft, hfill, -⟩
  have hslot : snapshotSlots[1] ∈ snapshotSlots := List.getElem_mem _
  refine Slot.exists_of_byName hslot rfl ?_ rfl hfill
  intro other hother hname d v d' htake
  simp only [snapshotSlots, List.mem_cons, List.not_mem_nil, or_false] at hother
  rcases hother with rfl | rfl | rfl
  · rcases exists_of_map htake with ⟨key, rfl⟩
    rfl
  · exact absurd rfl hname
  · rcases exists_of_map htake with ⟨seq, rfl⟩
    rfl

/-- An error has a code among its members. -/
theorem code_of_error (h : ofContent .error (.map others) = .ok m) :
    ∃ m ∈ others, m.1 = "code" := by
  rcases bind_eq_ok.1 h with ⟨draft, hfill, -⟩
  have hslot : errorSlots[0] ∈ errorSlots := List.getElem_mem _
  refine Slot.exists_of_byName hslot rfl ?_ rfl hfill
  intro other hother hname d v d' htake
  simp only [errorSlots, List.mem_cons, List.not_mem_nil, or_false] at hother
  rcases hother with rfl | rfl
  · exact absurd rfl hname
  · rcases exists_of_map htake with ⟨message, rfl⟩
    rfl

/-- A heartbeat has a time among its members. -/
theorem time_of_heartbeat (h : ofContent .heartbeat (.map others) = .ok m) :
    ∃ m ∈ others, m.1 = "ts" := by
  rcases bind_eq_ok.1 h with ⟨draft, hfill, -⟩
  have hslot : heartbeatSlots[0] ∈ heartbeatSlots := List.getElem_mem _
  refine Slot.exists_of_byName hslot rfl ?_ rfl hfill
  intro other hother hname
  exact absurd (List.mem_singleton.1 hother ▸ rfl) hname

/-- A message whose members are those of an event is a pong. -/
theorem pong_of_ofContent (hothers : ∀ m ∈ others, m.1 ∈ Event.otherNames)
    (h : ofContent tag (.map others) = .ok m) : tag = .pong ∧ m = .pong := by
  cases tag with
  | snapshot =>
      rcases resource_of_snapshot h with ⟨m, hm, hname⟩
      exact absurd (hname ▸ hothers m hm) (by decide)
  | error =>
      rcases code_of_error h with ⟨m, hm, hname⟩
      exact absurd (hname ▸ hothers m hm) (by decide)
  | pong => exact ⟨rfl, (Except.ok.inj h).symm⟩
  | heartbeat =>
      rcases time_of_heartbeat h with ⟨m, hm, hname⟩
      exact absurd (hname ▸ hothers m hm) (by decide)

/-- A frame that is an object is a message if its value is one when it is taken apart. -/
theorem decode_object_iff {frame : String} {rest : List Char}
    (hobject : frame.toList = '\x7b' :: rest) :
    decode frame = .ok m ↔
      ∃ members others tag, (Value.read nestingLimit).run frame.toList = .ok (.object members) ∧
        members.reverse.foldrM (tagStep "type" Tag.ofName?) (none, []) = some (some tag, others) ∧
        ofContent tag (.map others.reverse) = .ok m := by
  have hstart : (Cursor.start frame.toList).rest = '\x7b' :: rest := hobject
  have htagged : ∀ {tag content c},
      readTagged "type" "internally tagged enum ServerMessage" Tag.ofName?
        (Tag.all.map Tag.name) nestingLimit (Cursor.start frame.toList) = .ok ((tag, content), c) ↔
      _ := readTagged_object_iff hstart
  constructor
  · intro h
    rcases run_eq_ok_iff.1 h with ⟨c, hread, hend⟩
    rcases bind_eq_ok.1 hread with ⟨⟨⟨tag, content⟩, d⟩, htag, hcontent⟩
    simp only at hcontent
    split at hcontent
    · rename_i m' hm
      rw [Except.ok.injEq, Prod.mk.injEq] at hcontent
      rcases hcontent with ⟨rfl, rfl⟩
      rcases htagged.1 htag with ⟨members, others, hvalue, hsteps, rfl⟩
      exact ⟨members, others, tag, run_eq_ok_iff.2 ⟨d, hvalue, hend⟩, hsteps, hm⟩
    · exact nomatch hcontent
  · rintro ⟨members, others, tag, hrun, hsteps, hm⟩
    rcases run_eq_ok_iff.1 hrun with ⟨c, hvalue, hend⟩
    refine run_eq_ok_iff.2 ⟨c, bind_eq_ok.2 ⟨((tag, .map others.reverse), c),
      htagged.2 ⟨members, others, hvalue, hsteps, rfl⟩, ?_⟩, hend⟩
    simp only [hm]

/-- A text holds a value exactly if it can be read as one. -/
theorem exists_parse_iff {text : List Char} :
    (∃ v, parse text = .ok v) ↔ ∃ v, (Value.read nestingLimit).run text = .ok v := by
  unfold parse
  cases (Value.read nestingLimit).run text with
  | error fault => simp [Except.map]
  | ok v => simp [Except.map]

/-- An event passes for a message exactly if its type is that of a pong and its text can be read
at all; the message is a pong then. -/
theorem decode_event_iff (e : Event) (m : ServerMessage) :
    decode e.encode = .ok m ↔
      e.kind = "pong" ∧ m = .pong ∧ ∃ v, parse e.encode.toList = .ok v := by
  rcases e.exists_members with ⟨others, hjson, hnames⟩
  have htext : e.encode.toList = (Value.object (("type", .string e.kind) :: others)).write [] := by
    rw [Event.encode, hjson, Value.text, String.toList_ofList]
  -- the value that is read has the type and the other names of the event
  have hvalue : ∀ {v}, (Value.read nestingLimit).run e.encode.toList = .ok v →
      ∃ read, v = .object (("type", .string e.kind) :: read) ∧
        ∀ m ∈ read, m.1 ∈ Event.otherNames := by
    intro v hrun
    rcases run_eq_ok_iff.1 hrun with ⟨c, hread, -⟩
    rcases members_of_read htext hread with ⟨members, rfl, hmembers⟩
    rcases hmembers with - | ⟨⟨hname, hstring⟩, hrest⟩
    rename_i first read
    have hfirst : first = ("type", .string e.kind) := Prod.ext hname (hstring _ rfl)
    refine ⟨read, by rw [hfirst], fun m hm => ?_⟩
    have hmem : m.1 ∈ others.map (·.1) :=
      map_fst_of_sameText hrest ▸ List.mem_map_of_mem hm
    rcases List.mem_map.1 hmem with ⟨m', hm', hsame⟩
    exact hsame ▸ hnames m' hm'
  have htyped : ∀ {read : List (String × Value)}, (∀ m ∈ read, m.1 ∈ Event.otherNames) →
      ∀ m ∈ read, m.1 ≠ "type" := by
    intro read hread m hm htype
    exact absurd (htype ▸ hread m hm) (by decide)
  have hobject : ∃ rest, e.encode.toList = '\x7b' :: rest :=
    ⟨_, htext.trans (Value.write_object _ _)⟩
  rcases hobject with ⟨rest, hobject⟩
  rw [decode_object_iff hobject, exists_parse_iff]
  constructor
  · rintro ⟨members, kept, tag, hrun, hsteps, hcontent⟩
    rcases hvalue hrun with ⟨read, hsame, hread⟩
    rw [Value.object.injEq] at hsame
    subst hsame
    rw [foldrM_tagStep_first (htyped hread)] at hsteps
    rcases Option.map_eq_some_iff.1 hsteps with ⟨tag', htag, hboth⟩
    rw [Prod.mk.injEq, Option.some.injEq] at hboth
    rcases hboth with ⟨rfl, rfl⟩
    rw [List.reverse_reverse] at hcontent
    rcases pong_of_ofContent hread hcontent with ⟨rfl, hm⟩
    exact ⟨Tag.ofName?_eq_pong_iff.1 htag, hm, _, hrun⟩
  · rintro ⟨hkind, rfl, v, hrun⟩
    rcases hvalue hrun with ⟨read, rfl, hread⟩
    refine ⟨_, read.reverse, .pong, hrun, ?_, rfl⟩
    rw [foldrM_tagStep_first (htyped hread), Tag.ofName?_eq_pong_iff.2 hkind]
    rfl

end ServerMessage

/-! ## Messages that are taken for events -/

namespace Event

/-- No message is an event: it leaves out the sequence number or the time of one. -/
theorem decode_message_ne_ok (m : ServerMessage) (e : Event) : decode m.encode ≠ .ok e := by
  have hrefused : ∀ {members : List (String × Value)} {d : Draft} {field : Json.Field Draft},
      m.toJson = .object members →
      Passes (· = '"') (Field.readMember fields 127) Value.writeMember Draft.blank members d →
      (fields.find? fun field => field.required && !field.given d) = some field →
      decode m.encode ≠ .ok e := by
    intro members d field hjson hmembers hmissing hdecode
    rcases run_eq_ok_iff.1 hdecode with ⟨c, hread, -⟩
    rcases finishRecord_ok hread with ⟨d', hrecord, -⟩
    have htext : (Cursor.start m.encode.toList).rest = (Value.object members).write [] := by
      rw [ServerMessage.encode, hjson, Value.text, String.toList_ofList]
      rfl
    exact readRecord_ne_ok_of_missing hmembers hmissing htext hrecord
  have htype : ∀ {name : String} {others : List (String × Value)} {d : Draft},
      Passes (· = '"') (Field.readMember fields 127) Value.writeMember
        { Draft.blank with kind := some name } others d →
      Passes (· = '"') (Field.readMember fields 127) Value.writeMember Draft.blank
        (("type", .string name) :: others) d := fun {name _ _} hothers =>
    Field.passes_cons rfl rfl ((yields_readText textKind name).stops.map (f := fun kind =>
      ({ Draft.blank with kind := some kind } : Draft))) hothers
  cases m with
  | snapshot key resource seq =>
      refine hrefused (d := { Draft.blank with
        kind := some "snapshot", key := some (some key), seq := some seq }) rfl (htype ?_) rfl
      refine Field.passes_cons rfl rfl
        (((yields_readText textKind key).readOptional (begins_writeString key)).stops.map
          (f := fun key =>
            ({ Draft.blank with kind := some "snapshot", key := some key } : Draft))) ?_
      refine Field.passes_other resource rfl ?_
      exact Field.passes_cons rfl rfl ((yields_readWord64 seq).map (f := fun seq => ({ Draft.blank with
        kind := some "snapshot", key := some (some key), seq := some seq } : Draft))) (.nil _)
  | error code message =>
      exact hrefused rfl (htype (Field.passes_other _ rfl (Field.passes_other _ rfl (.nil _)))) rfl
  | pong => exact hrefused rfl (htype (.nil _)) rfl
  | heartbeat time => exact hrefused rfl (htype (Field.passes_other _ rfl (.nil _))) rfl

end Event

/-! ## Frames on one connection -/

namespace Outbound

/-- An event that waits to be sent is taken for a message exactly if its type is that of a pong and
its text can be read at all, and it is taken for a pong then; it is never taken for a heartbeat, an
error or a snapshot.  A message is never taken for an event. -/
theorem told_apart :
    (∀ (e : Event) (m : ServerMessage),
      ServerMessage.decode (Outbound.event e).text = .ok m ↔
        e.kind = "pong" ∧ m = .pong ∧
          ∃ v, parse (Outbound.event e).text.toList = .ok v) ∧
    ∀ (m : ServerMessage) (e : Event), Event.decode (Outbound.control m).text ≠ .ok e :=
  ⟨ServerMessage.decode_event_iff, Event.decode_message_ne_ok⟩

/-- An event of the type of a pong. -/
def pongEvent : Event := .broadcast "pong" (.ofNat 1) (.ofSeconds 0)

/-- An event can be taken for a message. -/
theorem not_always_apart :
    ¬ ∀ (e : Event) (m : ServerMessage),
      ServerMessage.decode (Outbound.event e).text ≠ .ok m := by
  intro happart
  refine happart pongEvent .pong ((ServerMessage.decode_event_iff _ _).2 ⟨rfl, rfl, ?_⟩)
  exact ⟨_, parse_text (by decide) (by decide)⟩

end Outbound
end Gatehouse
