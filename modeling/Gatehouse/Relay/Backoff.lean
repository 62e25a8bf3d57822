import Gatehouse.Time.Duration

/-!
# Waiting before the next attempt

The wait doubles from attempt to attempt, up to a longest one, and starts anew after a
success.
-/

namespace Gatehouse

/-- How long to wait before the next attempts. -/
structure Backoff where
  initial : Duration
  /-- The longest wait. -/
  longest : Duration
  /-- The next wait. -/
  current : Duration
deriving DecidableEq, Repr

namespace Backoff

/-- Waits from an initial one up to a longest one, which is no shorter. -/
def ofBounds (initial longest : Duration) : Backoff :=
  ⟨initial, longest.longer initial, initial⟩

/-- Waits from half a second up to half a minute. -/
def standard : Backoff := ofBounds (.ofMilliseconds 500) (.ofSeconds 30)

/-- The next wait, and what comes after it. -/
def next (b : Backoff) : Duration × Backoff :=
  (b.current, { b with current := b.current.double.shorter b.longest })

/-- Starts anew. -/
def reset (b : Backoff) : Backoff := { b with current := b.initial }

end Backoff
end Gatehouse
