import Gatehouse.Json.Tagged

/-!
# Frames to clients

Beside the events themselves a client receives snapshots, errors, answers to pings
and heartbeats.
-/

namespace Gatehouse

/-- A frame sent to a client, other than an event. -/
inductive ServerMessage where
  /-- The full state of a resource, which replaces what the client knew. -/
  | snapshot (key : String) (resource : Json.Value) (seq : Json.Word)
  /-- An error with a status code like that of an HTTP response. -/
  | error (code : Fin 65536) (message : String)
  /-- The answer to a ping. -/
  | pong
  /-- A sign of life, with the time in milliseconds since 1970. -/
  | heartbeat (time : Int)
deriving Repr, Inhabited

namespace ServerMessage

/-- The variants of a frame. -/
inductive Tag where
  | snapshot
  | error
  | pong
  | heartbeat
deriving DecidableEq, Repr

/-- All variants. -/
def Tag.all : List Tag := [snapshot, error, pong, heartbeat]

/-- The name of a variant in texts. -/
def Tag.name : Tag → String
  | snapshot => "snapshot"
  | error => "error"
  | pong => "pong"
  | heartbeat => "heartbeat"

/-- The variant whose name is exactly this text. -/
def Tag.ofName? (text : String) : Option Tag :=
  Tag.all.find? fun tag => tag.name == text

/-- The fields of a snapshot read so far. -/
structure SnapshotDraft where
  key : Option String
  resource : Option Json.Value
  seq : Option Json.Word

/-- The fields of a snapshot. -/
def snapshotSlots : List (Json.Slot SnapshotDraft) :=
  [ { name := "subscriptionKey", given := fun d => d.key.isSome, required := true,
      take := fun d v => v.toText.map fun key => { d with key := some key } },
    { name := "resource", given := fun d => d.resource.isSome, required := true,
      take := fun d v => .ok { d with resource := some v.canonical } },
    { name := "seq", given := fun d => d.seq.isSome, required := true,
      take := fun d v => v.toWord.map fun seq => { d with seq := some seq } } ]

/-- A status code, from a value. -/
def toCode (v : Json.Value) : Except Json.Mismatch (Fin 65536) := do
  let n ← v.toNat 65536 "u16"
  return Fin.ofNat 65536 n

/-- The fields of an error read so far. -/
structure ErrorDraft where
  code : Option (Fin 65536)
  message : Option String

/-- The fields of an error. -/
def errorSlots : List (Json.Slot ErrorDraft) :=
  [ { name := "code", given := fun d => d.code.isSome, required := true,
      take := fun d v => (toCode v).map fun code => { d with code := some code } },
    { name := "message", given := fun d => d.message.isSome, required := true,
      take := fun d v => v.toText.map fun text => { d with message := some text } } ]

/-- The field of a heartbeat. -/
def heartbeatSlots : List (Json.Slot (Option Int)) :=
  [ { name := "ts", given := fun d => d.isSome, required := true,
      take := fun _ v => (v.toInt "i64").map some } ]

/-- The message of a variant with its content. -/
def ofContent (tag : Tag) (content : Json.Content) : Except Json.Mismatch ServerMessage :=
  match tag with
  | .snapshot => do
      let draft ← content.fill "struct variant ServerMessage::Snapshot" snapshotSlots
        ⟨none, none, none⟩
      match draft.key, draft.resource, draft.seq with
      | some key, some resource, some seq => return snapshot key resource seq
      | _, _, _ => .error (.missingField "subscriptionKey")
  | .error => do
      let draft ← content.fill "struct variant ServerMessage::Error" errorSlots ⟨none, none⟩
      match draft.code, draft.message with
      | some code, some message => return .error code message
      | _, _ => .error (.missingField "code")
  | .pong => content.fillNothing.map fun () => pong
  | .heartbeat => do
      let draft ← content.fill "struct variant ServerMessage::Heartbeat" heartbeatSlots none
      match draft with
      | some time => return heartbeat time
      | none => .error (.missingField "ts")

/-- Reads a message. -/
def read : Json.Reader ServerMessage := fun c => do
  let ((tag, content), c) ←
    Json.readTagged "type" "internally tagged enum ServerMessage" Tag.ofName?
      (Tag.all.map Tag.name) Json.nestingLimit c
  match ofContent tag content with
  | .ok message => .ok (message, c)
  | .error m => .error (.pending m c)

/-- A whole number as a JSON number. -/
def ofInt (n : Int) : Json.Value :=
  .number (if n < 0 then .negative n.natAbs else .natural n.natAbs)

/-- The message as a JSON object. -/
def toJson : ServerMessage → Json.Value
  | snapshot key resource seq =>
      .object [("type", .string "snapshot"), ("subscriptionKey", .string key),
        ("resource", resource), ("seq", .number (.natural seq.val))]
  | .error code message =>
      .object [("type", .string "error"), ("code", .number (.natural code.val)),
        ("message", .string message)]
  | pong => .object [("type", .string "pong")]
  | heartbeat time => .object [("type", .string "heartbeat"), ("ts", ofInt time)]

/-- The text frame of a message. -/
def encode (m : ServerMessage) : String := m.toJson.text

/-- The message that a text frame holds. -/
def decode (frame : String) : Except Json.Fault ServerMessage :=
  Json.Reader.run read frame.toList

end ServerMessage
end Gatehouse
