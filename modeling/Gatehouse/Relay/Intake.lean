import Gatehouse.Relay.Hub
import Gatehouse.Relay.Backoff

/-!
# Taking in the change feed

The hub subscribes to the change feed and takes in its frames.  When an attempt to
subscribe fails or a subscription is lost it waits and tries again; a success makes the
waits start anew.  Whatever it is doing, it stops when it is told to.

The course of events is a script: what each attempt meets, with times in milliseconds.

Main results:

- Theorem {lit}`Intake.next_stopped`: once stopped, nothing changes any more.

Current gaps:

- Why an attempt fails or a subscription is lost is not told; nothing depends on it.
-/

namespace Gatehouse

/-! ## The loop -/

/-- What is told to the loop. -/
inductive Tiding where
  /-- An attempt to subscribe has failed. -/
  | refused
  /-- An attempt to subscribe has succeeded. -/
  | accepted
  | frame (text : String)
  /-- The subscription has come to an end, with a fault or without. -/
  | lost
  /-- The wait is over. -/
  | elapsed
  /-- It is time to stop. -/
  | shutdown
deriving DecidableEq, Repr

/-- What the loop is doing. -/
inductive Stage where
  | connecting
  | subscribed
  | waiting (wait : Duration)
  | stopped
deriving DecidableEq, Repr

/-- The loop that takes in the change feed. -/
structure Intake where
  hub : Hub
  backoff : Backoff
  stage : Stage
deriving Repr

/-- The frame that is told. -/
def Tiding.frame? : Tiding → Option String
  | frame text => some text
  | _ => none

namespace Intake

/-- A loop that makes its first attempt to subscribe. -/
def start (hub : Hub) (backoff : Backoff) : Intake := ⟨hub, backoff, .connecting⟩

/-- Waits before the next attempt. -/
def rest (i : Intake) : Intake :=
  let (wait, backoff) := i.backoff.next
  { i with backoff, stage := .waiting wait }

/-- Goes on with what is told.  What cannot be told to the loop as it stands changes
nothing. -/
def next (i : Intake) (t : Tiding) : Intake :=
  match i.stage, t with
  | .connecting, .refused => i.rest
  | .connecting, .accepted => { i with backoff := i.backoff.reset, stage := .subscribed }
  | .subscribed, .frame text => { i with hub := (i.hub.ingest text).1 }
  | .subscribed, .lost => i.rest
  | .waiting _, .elapsed => { i with stage := .connecting }
  | _, .shutdown => { i with stage := .stopped }
  | _, _ => i

/-- How long the loop waits for. -/
def pause (i : Intake) : Nat :=
  match i.stage with
  | .waiting wait => wait.ceilMilliseconds
  | _ => 0

/-- Once stopped, nothing changes any more. -/
theorem next_stopped {i : Intake} (h : i.stage = .stopped) (t : Tiding) : i.next t = i := by
  cases i
  cases h
  cases t <;> rfl

end Intake

/-! ## Scripts -/

/-- How a subscription to the feed goes. -/
structure Subscription where
  /-- The frames, each with the time since what came before it. -/
  frames : List (Nat × String)
  /-- How long it lasts after them; without a time, for ever. -/
  lasts : Option Nat
deriving Repr

/-- What an attempt to subscribe meets. -/
structure Attempt where
  /-- How long it takes. -/
  takes : Nat
  /-- The subscription, if it succeeds. -/
  subscription : Option Subscription
deriving Repr

/-- What is told by a subscription, each with the time since what came before it. -/
def Subscription.tidings (s : Subscription) : List (Nat × Tiding) :=
  s.frames.map (fun step => (step.1, .frame step.2)) ++
    (s.lasts.map fun gap => (gap, Tiding.lost)).toList

namespace Attempt

/-- What is told in an attempt, each with the time since what came before it. -/
def tidings (a : Attempt) : List (Nat × Tiding) :=
  match a.subscription with
  | some s => (a.takes, .accepted) :: s.tidings
  | none => [(a.takes, .refused)]

/-- Whether an attempt comes to an end, so that another one follows. -/
def isOver (a : Attempt) : Bool := a.subscription.all fun s => s.lasts.isSome

/-- What is told in one attempt after another, each with the time since what came before it
or, when there was a wait, since the end of the wait.  An attempt beyond the script never comes
to anything. -/
def course : List Attempt → List (Nat × Tiding)
  | [] => []
  | a :: rest => a.tidings ++ if a.isOver then (0, .elapsed) :: course rest else []

end Attempt

namespace Intake

/-- The times at which the loop is told one thing after another. -/
def moments (i : Intake) (now : Nat) : List (Nat × Tiding) → List (Nat × Tiding)
  | [] => []
  | (gap, t) :: rest =>
      let now := now + i.pause + gap
      (now, t) :: (i.next t).moments now rest

/-- What the loop is told before a deadline, with the times. -/
def toldBefore (i : Intake) (deadline : Nat) (attempts : List Attempt) : List (Nat × Tiding) :=
  (i.moments 0 (Attempt.course attempts)).takeWhile fun (now, _) => now < deadline

/-- Goes through so many of the things that are told in some attempts, and stops. -/
def cut (i : Intake) (attempts : List Attempt) (count : Nat) : Intake :=
  ((((Attempt.course attempts).take count).map Prod.snd).foldl next i).next .shutdown

/-- Goes through attempts until a deadline. -/
def run (i : Intake) (deadline : Nat) (attempts : List Attempt) : Intake :=
  i.cut attempts (i.toldBefore deadline attempts).length

/-- The times of the attempts before a deadline. -/
def attemptTimes (i : Intake) (deadline : Nat) (attempts : List Attempt) : List Nat :=
  0 :: (i.toldBefore deadline attempts).filterMap fun (now, t) =>
    if t = .elapsed then some now else none

end Intake
end Gatehouse
