import Gatehouse.Text.Utf8

/-!
# Frames on sockets

A client is heard in text frames until it closes its socket or the socket breaks; other
frames say nothing.  The change feed is heard in text frames and in binary frames that
hold text.

Main results:

- Theorem {lit}`clientTexts_append`: what a client says after a frame that is not its
  last is heard.
-/

namespace Gatehouse

/-- What comes in on a socket. -/
inductive SocketFrame where
  | text (s : String)
  | binary (bytes : List UInt8)
  /-- A sign of life, or the answer to one. -/
  | ping
  | close
  /-- The socket broke. -/
  | broken
deriving DecidableEq, Repr

namespace SocketFrame

/-- Whether a frame is the last one. -/
def isLast : SocketFrame → Bool
  | close | broken => true
  | _ => false

/-- What a client says with a frame. -/
def clientText? : SocketFrame → Option String
  | text s => some s
  | _ => none

/-- What the change feed says with a frame. -/
def feedText? : SocketFrame → Option String
  | text s => some s
  | binary bytes => Text.ofUtf8? bytes
  | _ => none

/-- What a client says with frames. -/
def clientTexts (frames : List SocketFrame) : List String :=
  (frames.takeWhile (!·.isLast)).filterMap clientText?

/-- What the change feed says with frames. -/
def feedTexts (frames : List SocketFrame) : List String :=
  (frames.takeWhile (!·.isLast)).filterMap feedText?

/-- What a client says after frames that are not its last is heard. -/
theorem clientTexts_append {front : List SocketFrame} (rest : List SocketFrame)
    (h : ∀ f ∈ front, f.isLast = false) :
    clientTexts (front ++ rest) = front.filterMap clientText? ++ clientTexts rest := by
  unfold clientTexts
  rw [List.takeWhile_append_of_pos (by simpa using h), List.filterMap_append]

end SocketFrame
end Gatehouse
