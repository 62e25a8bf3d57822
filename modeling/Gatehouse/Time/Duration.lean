/-!
# Durations

A duration is a whole number of nanoseconds with a longest one: as many seconds as 64
bits count and all but one nanosecond of another.
-/

namespace Gatehouse

/-- A length of time. -/
structure Duration where
  nanoseconds : Nat
  /-- It is at most the longest. -/
  le_longest : nanoseconds < Nat.pow 2 64 * 1000000000
deriving DecidableEq, Repr

namespace Duration

/-- The longest duration, in nanoseconds. -/
def longestNanoseconds : Nat := Nat.pow 2 64 * 1000000000 - 1

/-- The duration of so many nanoseconds, or the longest if that is shorter. -/
def ofNanoseconds (n : Nat) : Duration :=
  ⟨min n longestNanoseconds, by
    have : longestNanoseconds + 1 = Nat.pow 2 64 * 1000000000 := by decide
    omega⟩

/-- The duration of so many milliseconds, or the longest. -/
def ofMilliseconds (n : Nat) : Duration := ofNanoseconds (n * 1000000)

/-- The duration of so many seconds, or the longest. -/
def ofSeconds (n : Nat) : Duration := ofNanoseconds (n * 1000000000)

/-- The whole seconds. -/
def seconds (d : Duration) : Nat := d.nanoseconds / 1000000000

/-- The nanoseconds beyond the whole seconds. -/
def subsecond (d : Duration) : Nat := d.nanoseconds % 1000000000

/-- The milliseconds, a part of one counting in full. -/
def ceilMilliseconds (d : Duration) : Nat := (d.nanoseconds + 999999) / 1000000

/-- The longer of two durations. -/
def longer (d e : Duration) : Duration := if d.nanoseconds ≤ e.nanoseconds then e else d

/-- The shorter of two durations. -/
def shorter (d e : Duration) : Duration := if d.nanoseconds ≤ e.nanoseconds then d else e

/-- Twice the duration, or the longest. -/
def double (d : Duration) : Duration := ofNanoseconds (2 * d.nanoseconds)

@[simp] theorem longer_nanoseconds (d e : Duration) :
    (d.longer e).nanoseconds = max d.nanoseconds e.nanoseconds := by
  unfold longer
  split <;> omega

@[simp] theorem shorter_nanoseconds (d e : Duration) :
    (d.shorter e).nanoseconds = min d.nanoseconds e.nanoseconds := by
  unfold shorter
  split <;> omega

@[simp] theorem double_nanoseconds (d : Duration) :
    d.double.nanoseconds = min (2 * d.nanoseconds) longestNanoseconds := rfl

end Duration
end Gatehouse
