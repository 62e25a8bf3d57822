import Gatehouse.Proofs.Relay.Reconnection

/-!
# How waits grow

Waits are asked for one after the other, and may start anew in between.  Durations have a
longest one, and doubling stops there; but it stops no wait short of what it would be without a
longest duration, since the longest wait is a duration itself.

Main results:

- Theorem {lit}`Backoff.next_inParts`: how the next wait is found in seconds and nanoseconds.
- Theorem {lit}`Backoff.hasWaited_after`: where the waits stand after any calls.
- Theorem {lit}`Backoff.waits_exactly`: how long the wait after any calls is, without a longest
  duration.
-/

namespace Gatehouse

/-! ## Durations in seconds and nanoseconds -/

namespace Duration

/-- How many nanoseconds a second has. -/
def nanosecondsPerSecond : Nat := 1000000000

/-- A duration as its whole seconds and the nanoseconds beyond them. -/
def inParts (d : Duration) : Nat × Nat := (d.seconds, d.subsecond)

/-- Twice so many seconds and nanoseconds.  What makes a whole second is carried over; if the
seconds no longer fit into 64 bits, it is the longest duration. -/
def doubleParts : Nat × Nat → Nat × Nat
  | (seconds, subsecond) =>
      let carried := 2 * seconds + 2 * subsecond / nanosecondsPerSecond
      if carried < Nat.pow 2 64 then (carried, 2 * subsecond % nanosecondsPerSecond)
      else (Nat.pow 2 64 - 1, nanosecondsPerSecond - 1)

/-- Doubling carries from nanoseconds to seconds. -/
theorem double_inParts (d : Duration) : d.double.inParts = doubleParts d.inParts := by
  have hbound := d.le_longest
  have hnanoseconds := d.double_nanoseconds
  unfold longestNanoseconds at hnanoseconds
  have hpow : Nat.pow 2 64 = 18446744073709551616 := by decide
  rw [hpow] at hbound hnanoseconds
  simp only [inParts, doubleParts, seconds, subsecond, nanosecondsPerSecond, hpow, hnanoseconds]
  split
  · refine Prod.ext ?_ ?_ <;> dsimp only <;> omega
  · refine Prod.ext ?_ ?_ <;> dsimp only <;> omega

/-- The shorter of two durations in seconds and nanoseconds: the seconds decide, and the
nanoseconds where there are as many seconds. -/
def shorterParts (p q : Nat × Nat) : Nat × Nat :=
  if p.1 < q.1 ∨ p.1 = q.1 ∧ p.2 ≤ q.2 then p else q

/-- A duration is no longer than another if it has fewer seconds, or as many and no more
nanoseconds. -/
theorem le_iff_inParts (d e : Duration) :
    d.nanoseconds ≤ e.nanoseconds ↔
      d.inParts.1 < e.inParts.1 ∨ d.inParts.1 = e.inParts.1 ∧ d.inParts.2 ≤ e.inParts.2 := by
  simp only [inParts, seconds, subsecond]
  omega

/-- The shorter of two durations is found by their parts. -/
theorem shorter_inParts (d e : Duration) :
    (d.shorter e).inParts = shorterParts d.inParts e.inParts := by
  unfold shorter shorterParts
  simp only [← le_iff_inParts]
  split <;> rfl

end Duration

/-! ## Calls -/

namespace Backoff

/-- What the waits are asked for: the next one, or to start anew. -/
inductive Call where
  | next
  | reset
deriving DecidableEq, Repr

/-- The waits after a call. -/
def call (b : Backoff) : Call → Backoff
  | .next => b.next.2
  | .reset => b.reset

/-- The waits after some calls. -/
def after (b : Backoff) (calls : List Call) : Backoff := calls.foldl call b

/-- How many waits have been asked for since they last started anew. -/
def sinceReset (calls : List Call) : Nat := (calls.reverse.takeWhile fun c => c != .reset).length

@[simp]
theorem sinceReset_next (calls : List Call) :
    sinceReset (calls ++ [.next]) = sinceReset calls + 1 := by
  simp [sinceReset]

@[simp]
theorem sinceReset_reset (calls : List Call) : sinceReset (calls ++ [.reset]) = 0 := by
  simp [sinceReset]

/-- Waits that are asked for one after the other all count. -/
theorem sinceReset_append_replicate (calls : List Call) (more : Nat) :
    sinceReset (calls ++ List.replicate more .next) = sinceReset calls + more := by
  induction more with
  | zero => simp
  | succ more ih =>
      rw [List.replicate_succ', ← List.append_assoc, sinceReset_next, ih, Nat.add_assoc]

/-! ## How long the waits are -/

/-- The wait after one more, in seconds and nanoseconds: doubled with a carry, up to the longest
duration there is, and then up to the longest wait. -/
theorem next_inParts (b : Backoff) :
    b.next.2.next.1.inParts =
      Duration.shorterParts (Duration.doubleParts b.next.1.inParts) b.longest.inParts := by
  rw [← Duration.double_inParts, ← Duration.shorter_inParts]
  rfl

/-- A call brings the waits to where they stand next. -/
theorem HasWaited.call {b : Backoff} {initial longest : Duration} {earlier : List Call}
    (h : b.HasWaited initial longest (sinceReset earlier)) (c : Call) :
    (b.call c).HasWaited initial longest (sinceReset (earlier ++ [c])) := by
  cases c with
  | next =>
      rw [sinceReset_next]
      exact h.next
  | reset =>
      rw [sinceReset_reset]
      exact h.reset

/-- Where the waits stand after more calls. -/
theorem HasWaited.after {b : Backoff} {initial longest : Duration} {earlier : List Call}
    (h : b.HasWaited initial longest (sinceReset earlier)) (later : List Call) :
    (b.after later).HasWaited initial longest (sinceReset (earlier ++ later)) := by
  induction later generalizing b earlier with
  | nil =>
      rw [List.append_nil]
      exact h
  | cons c later ih =>
      have hrest := ih (h.call c)
      rw [List.append_assoc] at hrest
      exact hrest

variable (initial longest : Duration)

/-- Where the waits stand after any calls. -/
theorem hasWaited_after (calls : List Call) :
    ((ofBounds initial longest).after calls).HasWaited initial longest (sinceReset calls) := by
  have hstart : (ofBounds initial longest).HasWaited initial longest (sinceReset []) :=
    hasWaited_ofBounds initial longest
  exact hstart.after calls

/-- Waits do not get shorter. -/
theorem delay_mono {count more : Nat} (h : count ≤ more) :
    delay initial longest count ≤ delay initial longest more := by
  have hpow : Nat.pow 2 count ≤ Nat.pow 2 more := Nat.pow_le_pow_right (by decide) h
  have hproduct := Nat.mul_le_mul_left initial.nanoseconds hpow
  unfold delay
  omega

/-- The first wait is the initial one. -/
@[simp]
theorem delay_zero : delay initial longest 0 = initial.nanoseconds := by
  have hundoubled : initial.nanoseconds * Nat.pow 2 0 = initial.nanoseconds := Nat.mul_one _
  unfold delay
  omega

/-- No wait is longer than the longest. -/
theorem delay_le_longest (count : Nat) :
    delay initial longest count ≤ max initial.nanoseconds longest.nanoseconds :=
  Nat.min_le_right _ _

/-- The wait after any calls is the initial one, doubled as often as waits have been asked for
since they last started anew, up to the longest.  It is no longer than those that follow it, lies
between the initial and the longest, and is followed by its double, up to the longest, whether or
not that is a duration. -/
theorem waits_exactly (calls : List Call) :
    ((ofBounds initial longest).after calls).next.1.nanoseconds =
        min (initial.nanoseconds * Nat.pow 2 (sinceReset calls))
          (max initial.nanoseconds longest.nanoseconds) ∧
      (∀ more, ((ofBounds initial longest).after calls).next.1.nanoseconds ≤
        ((ofBounds initial longest).after
          (calls ++ List.replicate more .next)).next.1.nanoseconds) ∧
      initial.nanoseconds ≤ ((ofBounds initial longest).after calls).next.1.nanoseconds ∧
      ((ofBounds initial longest).after calls).next.1.nanoseconds ≤
        max initial.nanoseconds longest.nanoseconds ∧
      ((ofBounds initial longest).after (calls ++ [.next])).next.1.nanoseconds =
        min (2 * ((ofBounds initial longest).after calls).next.1.nanoseconds)
          (max initial.nanoseconds longest.nanoseconds) := by
  have hwait (calls : List Call) := (hasWaited_after initial longest calls).wait_eq
  simp only [hwait, sinceReset_append_replicate, sinceReset_next]
  refine ⟨rfl, fun more => delay_mono initial longest (Nat.le_add_right _ more), ?_,
    delay_le_longest initial longest _, delay_succ initial longest _⟩
  have hfirst := delay_mono initial longest (Nat.zero_le (sinceReset calls))
  rwa [delay_zero] at hfirst

/-- Twice half of all seconds is the longest duration, which is a nanosecond short of it. -/
example : ((ofBounds (.ofSeconds (Nat.pow 2 63)) (.ofSeconds (Nat.pow 2 64))).after
    [.next]).next.1.inParts = (Nat.pow 2 64 - 1, 999999999) := by
  decide

end Backoff
end Gatehouse
