/-!
# Points in time

A timestamp is a day of the Gregorian calendar, extended to all years, with the time
of the day in coordinated universal time.  A leap second shows as a fraction of one
second or more.

Main results:

- Theorem {lit}`Day.isValid_next`: the day after a day of the calendar is one.
-/

namespace Gatehouse

/-- A day by year, month and day of the month, both counted from one. -/
structure Day where
  year : Int
  month : Nat
  day : Nat
deriving DecidableEq, Repr, Inhabited

namespace Day

/-- Whether a year has a 29th of February. -/
def isLeap (year : Int) : Bool :=
  year % 4 = 0 && (year % 100 ≠ 0 || year % 400 = 0)

/-- Number of days of a month. -/
def monthLength (year : Int) (month : Nat) : Nat :=
  if month = 2 then if isLeap year then 29 else 28
  else if month = 4 ∨ month = 6 ∨ month = 9 ∨ month = 11 then 30
  else 31

/-- The first year of the calendar. -/
def firstYear : Int := -262143

/-- The last year of the calendar. -/
def lastYear : Int := 262142

/-- Whether the numbers name a day of the calendar. -/
def isValid (d : Day) : Bool :=
  firstYear ≤ d.year && d.year ≤ lastYear && 1 ≤ d.month && d.month ≤ 12 &&
    1 ≤ d.day && d.day ≤ monthLength d.year d.month

/-- The following day. -/
def next (d : Day) : Day :=
  if d.day < monthLength d.year d.month then { d with day := d.day + 1 }
  else if d.month < 12 then ⟨d.year, d.month + 1, 1⟩
  else ⟨d.year + 1, 1, 1⟩

/-- The day before. -/
def previous (d : Day) : Day :=
  if 1 < d.day then { d with day := d.day - 1 }
  else if 1 < d.month then ⟨d.year, d.month - 1, monthLength d.year (d.month - 1)⟩
  else ⟨d.year - 1, 12, 31⟩

/-- A month has at least 28 days. -/
theorem monthLength_pos (year : Int) (month : Nat) : 28 ≤ monthLength year month := by
  unfold monthLength
  split
  · split <;> decide
  · split <;> decide

/-- The day after a day of the calendar is one, unless the year is past the last. -/
theorem isValid_next {d : Day} (h : d.isValid = true) (hyear : d.next.year ≤ lastYear) :
    d.next.isValid = true := by
  simp only [isValid, Bool.and_eq_true, decide_eq_true_eq] at h ⊢
  obtain ⟨⟨⟨⟨⟨h1, h2⟩, h3⟩, h4⟩, h5⟩, h6⟩ := h
  revert hyear
  have hpos := monthLength_pos d.year (d.month + 1)
  have hnew := monthLength_pos (d.year + 1) 1
  unfold next
  split
  · intro _
    refine ⟨⟨⟨⟨⟨h1, h2⟩, h3⟩, h4⟩, ?_⟩, ?_⟩ <;> dsimp only <;> omega
  · split
    · intro _
      refine ⟨⟨⟨⟨⟨h1, h2⟩, ?_⟩, ?_⟩, ?_⟩, ?_⟩ <;> dsimp only <;> omega
    · intro hyear
      dsimp only at hyear ⊢
      refine ⟨⟨⟨⟨⟨?_, hyear⟩, ?_⟩, ?_⟩, ?_⟩, ?_⟩ <;> omega

end Day

/-- A point in time. -/
structure Timestamp where
  day : Day
  /-- Seconds since the start of the day. -/
  second : Nat
  /-- Nanoseconds of the second; a billion or more in a leap second. -/
  nanosecond : Nat
deriving DecidableEq, Repr, Inhabited

namespace Timestamp

/-- Seconds of a day. -/
def dayLength : Nat := 86400

/-- Whether the numbers name a point in time. -/
def isValid (t : Timestamp) : Bool :=
  t.day.isValid && t.second < dayLength && t.nanosecond < 2000000000 &&
    (t.nanosecond < 1000000000 || t.second % 60 = 59)

/-- The point in time that a clock shows as `t` when it runs so many seconds ahead
of coordinated universal time; the offset is less than a day. -/
def ofLocal? (t : Timestamp) (offset : Int) : Option Timestamp :=
  let second : Int := t.second - offset
  let shifted : Timestamp :=
    if second < 0 then { t with day := t.day.previous, second := (second + dayLength).toNat }
    else if second < dayLength then { t with second := second.toNat }
    else { t with day := t.day.next, second := (second - dayLength).toNat }
  if shifted.day.isValid then some shifted else none

/-- The point in time so many seconds after the start of 1970. -/
def ofSeconds (n : Nat) : Timestamp :=
  ⟨Nat.repeat Day.next (n / dayLength) ⟨1970, 1, 1⟩, n % dayLength, 0⟩

end Timestamp
end Gatehouse
