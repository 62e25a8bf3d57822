import Gatehouse.Json.Tagged
import Gatehouse.Message.Event

/-!
# Frames from clients

A client subscribes to a key, drops its subscription, or asks for a sign of life.
-/

namespace Gatehouse

/-- A frame sent by a client. -/
inductive ClientMessage where
  /-- Starts or switches the subscription.  A sequence number asks for a snapshot
  before events. -/
  | subscribe (key : String) (seq : Option Seq)
  /-- Drops the subscription. -/
  | unsubscribe
  /-- Asks for a pong. -/
  | ping
deriving DecidableEq, Repr, Inhabited

namespace ClientMessage

/-- The variants of a frame. -/
inductive Tag where
  | subscribe
  | unsubscribe
  | ping
deriving DecidableEq, Repr

/-- All variants. -/
def Tag.all : List Tag := [subscribe, unsubscribe, ping]

/-- The name of a variant in texts. -/
def Tag.name : Tag → String
  | subscribe => "subscribe"
  | unsubscribe => "unsubscribe"
  | ping => "ping"

/-- The variant whose name is exactly this text. -/
def Tag.ofName? (text : String) : Option Tag :=
  Tag.all.find? fun tag => tag.name == text

/-- The fields of a subscription read so far. -/
structure Draft where
  key : Option String
  seq : Option (Option Seq)

/-- The fields of a subscription. -/
def slots : List (Json.Slot Draft) :=
  [ { name := "subscriptionKey", given := fun d => d.key.isSome, required := true,
      take := fun d v => v.toText.map fun key => { d with key := some key } },
    { name := "seq", given := fun d => d.seq.isSome, required := false,
      take := fun d v =>
        (v.toOptional Json.Value.toWord).map fun seq => { d with seq := some seq } } ]

/-- The message of a variant with its content. -/
def ofContent (tag : Tag) (content : Json.Content) : Except Json.Mismatch ClientMessage :=
  match tag with
  | .subscribe => do
      let draft ← content.fill "struct variant ClientMessage::Subscribe" slots ⟨none, none⟩
      match draft.key with
      | some key => return subscribe key (draft.seq.getD none)
      | none => .error (.missingField "subscriptionKey")
  | .unsubscribe => content.fillNothing.map fun () => unsubscribe
  | .ping => content.fillNothing.map fun () => ping

/-- Reads a message. -/
def read : Json.Reader ClientMessage := fun c => do
  let ((tag, content), c) ←
    Json.readTagged "type" "internally tagged enum ClientMessage" Tag.ofName?
      (Tag.all.map Tag.name) Json.nestingLimit c
  match ofContent tag content with
  | .ok message => .ok (message, c)
  | .error m => .error (.pending m c)

/-- The message as a JSON object. -/
def toJson : ClientMessage → Json.Value
  | subscribe key seq =>
      .object ([("type", .string "subscribe"), ("subscriptionKey", .string key)] ++
        (seq.map fun seq => ("seq", .number (.natural seq.val))).toList)
  | unsubscribe => .object [("type", .string "unsubscribe")]
  | ping => .object [("type", .string "ping")]

/-- The text frame of a message. -/
def encode (m : ClientMessage) : String := m.toJson.text

/-- The message that a text frame holds. -/
def decode (frame : String) : Except Json.Fault ClientMessage :=
  Json.Reader.run read frame.toList

end ClientMessage
end Gatehouse
