import Gatehouse.Json.Record
import Gatehouse.Time.Rfc3339

/-!
# Change events

A change event carries a type, a sequence number and a free-form payload.  A
broadcast event concerns every connection, a scoped one those subscribed to its key;
an event without a key is broadcast whatever its class says.

Main results:

- Theorem {lit}`Event.matches_iff`: which connections an event concerns.
-/

namespace Gatehouse

/-- Fan-out class of an event. -/
inductive EventClass where
  /-- For every open connection. -/
  | broadcast
  /-- For the connections subscribed to the event's key. -/
  | keyed
deriving DecidableEq, Repr, Inhabited

namespace EventClass

/-- All classes. -/
def all : List EventClass := [broadcast, keyed]

/-- The name of a class in event texts. -/
def name : EventClass → String
  | broadcast => "broadcast"
  | keyed => "scoped"

/-- The class whose name is exactly this text. -/
def ofName? (text : String) : Option EventClass :=
  all.find? fun cls => cls.name == text

/-- Reads a class. -/
def read (depth : Nat) : Json.Reader EventClass :=
  Json.readChoice depth ofName? (all.map name)

end EventClass

/-- A sequence number of 64 bits. -/
abbrev Seq := Json.Word

/-- The later of two sequence numbers. -/
def Seq.latest (a b : Seq) : Seq := if a ≤ b then b else a

theorem Seq.le_latest_left (a b : Seq) : a ≤ latest a b := by
  unfold latest
  split
  · assumption
  · exact Fin.le_refl a

theorem Seq.le_latest_right (a b : Seq) : b ≤ latest a b := by
  unfold latest
  split
  · exact Fin.le_refl b
  · exact Fin.le_of_lt (Fin.not_le.1 ‹_›)

/-- The later of two sequence numbers is one of them. -/
theorem Seq.latest_eq_or (a b : Seq) : latest a b = a ∨ latest a b = b := by
  unfold latest
  split
  · exact .inr rfl
  · exact .inl rfl

/-- A change event. -/
structure Event where
  /-- The type of the change. -/
  kind : String
  cls : EventClass
  /-- The subscription key that the event concerns. -/
  key : Option String
  seq : Seq
  payload : Json.Value
  occurredAt : Timestamp
deriving Repr, Inhabited

namespace Event

/-- Whether the event concerns every connection. -/
def isBroadcast (e : Event) : Bool :=
  e.cls == .broadcast || e.key.isNone

/-- Whether a connection subscribed to the key, or to nothing, receives the event. -/
def isFor (e : Event) (key : Option String) : Bool :=
  e.isBroadcast || (key.isSome && e.key == key)

/-- An event concerns a connection exactly if it is broadcast or the connection is
subscribed to its key. -/
theorem isFor_iff {e : Event} {key : Option String} :
    e.isFor key = true ↔ e.isBroadcast = true ∨ ∃ k, key = some k ∧ e.key = some k := by
  cases key <;> simp [isFor]

/-- An event for the connections subscribed to a key. -/
def forKey (kind key : String) (seq : Seq) (occurredAt : Timestamp) : Event :=
  ⟨kind, .keyed, some key, seq, .null, occurredAt⟩

/-- A broadcast event. -/
def broadcast (kind : String) (seq : Seq) (occurredAt : Timestamp) : Event :=
  ⟨kind, .broadcast, none, seq, .null, occurredAt⟩

/-- The event with another payload. -/
def withPayload (e : Event) (payload : Json.Value) : Event :=
  { e with payload }

/-- The event as a JSON object, its fields in the order of the format; the key is
left out if there is none. -/
def toJson (e : Event) : Json.Value :=
  .object ([("type", .string e.kind), ("class", .string e.cls.name)] ++
    (e.key.map fun key => ("subscriptionKey", .string key)).toList ++
    [("seq", .number (.natural e.seq)), ("payload", e.payload),
      ("occurredAt", .string e.occurredAt.write)])

/-- The fields of an event read so far. -/
structure Draft where
  kind : Option String
  cls : Option EventClass
  key : Option (Option String)
  seq : Option Seq
  payload : Option Json.Value
  occurredAt : Option Timestamp

/-- Nothing read so far. -/
def Draft.blank : Draft := ⟨none, none, none, none, none, none⟩

/-- Reads a timestamp in a string. -/
def readTimestamp : Json.Reader Timestamp := fun c => do
  let (text, c) ← Json.readText "an RFC 3339 formatted date and time string" c
  match Timestamp.parse? text with
  | some t => .ok (t, c)
  | none =>
      Json.Failure.atHere
        (.mismatch (.invalidFormat "input contains invalid characters")) c

/-- The fields of an event, in the order of the format. -/
def fields : List (Json.Field Draft) :=
  [ { name := "type", given := fun d => d.kind.isSome, required := true,
      read := fun _ d c => do
        let (kind, c) ← Json.readText Json.textKind c
        return ({ d with kind := some kind }, c) },
    { name := "class", given := fun d => d.cls.isSome, required := false,
      read := fun depth d c => do
        let (cls, c) ← EventClass.read depth c
        return ({ d with cls := some cls }, c) },
    { name := "subscriptionKey", given := fun d => d.key.isSome, required := false,
      read := fun _ d c => do
        let (key, c) ← Json.readOptional (Json.readText Json.textKind) c
        return ({ d with key := some key }, c) },
    { name := "seq", given := fun d => d.seq.isSome, required := true,
      read := fun _ d c => do
        let (seq, c) ← Json.readWord64 c
        return ({ d with seq := some seq }, c) },
    { name := "payload", given := fun d => d.payload.isSome, required := false,
      read := fun depth d c => do
        let (payload, c) ← Json.Value.read depth c
        return ({ d with payload := some payload.canonical }, c) },
    { name := "occurredAt", given := fun d => d.occurredAt.isSome, required := true,
      read := fun _ d c => do
        let (occurredAt, c) ← readTimestamp c
        return ({ d with occurredAt := some occurredAt }, c) } ]

/-- The event of a draft with all required fields.  Without a class it is keyed. -/
def ofDraft? (d : Draft) : Option Event := do
  let kind ← d.kind
  let seq ← d.seq
  let occurredAt ← d.occurredAt
  return ⟨kind, d.cls.getD .keyed, d.key.getD none, seq, d.payload.getD .null, occurredAt⟩

/-- Reads an event. -/
def read : Json.Reader Event :=
  Json.finishRecord
    (Json.readRecord "struct Event" fields Draft.blank Json.nestingLimit) ofDraft?

/-- The text frame of an event. -/
def encode (e : Event) : String := e.toJson.text

/-- The event that a text frame holds. -/
def decode (frame : String) : Except Json.Fault Event :=
  Json.Reader.run read frame.toList

end Event
end Gatehouse
