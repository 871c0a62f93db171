import FleetControl.Time.Calendar

/-!
# Instants

An instant is a day, a second of that day and nanoseconds, in universal time. A leap second is
written with nanoseconds past one thousand million on the second before it. A `Moment` is an instant
together with the offset of the place where it was read.
-/

namespace FleetControl.Time

/-- **A point in time**, in universal time. -/
structure Instant where
  day : Int
  second : Nat
  nanos : Nat
deriving Repr, DecidableEq, Inhabited

/-- A point in time with an offset from universal time in seconds. -/
structure Moment where
  utc : Instant
  offset : Int
deriving Repr, DecidableEq, Inhabited

namespace Instant

/-- The instant a number of seconds after the first of January 1970. -/
def ofUnix (seconds : Int) : Instant :=
  ⟨seconds / 86400, (seconds % 86400).toNat, 0⟩

/-- Seconds since the first of January 1970, a leap second counting with the second before it. -/
def unix (t : Instant) : Int := t.day * 86400 + t.second

/-- The first of January 1970. -/
def epoch : Instant := ofUnix 0

/-- The same instant some seconds later; the nanoseconds stay. -/
def shift (t : Instant) (seconds : Int) : Instant :=
  { ofUnix (t.unix + seconds) with nanos := t.nanos }

/-- **Nanoseconds from `s` to `t`.** A leap second between them counts where the seconds of the day
are apart in that direction. -/
def since (t s : Instant) : Int :=
  let leap : Int :=
    if s.second < t.second then (if 1000000000 ≤ s.nanos then 1 else 0)
    else if t.second < s.second then (if 1000000000 ≤ t.nanos then -1 else 0)
    else 0
  let seconds := (t.day - s.day) * 86400 + (t.second : Int) - s.second + leap
  seconds * 1000000000 + ((t.nanos : Int) - s.nanos)

end Instant

namespace Moment

/-- The clock reading at the moment's own place. -/
def wall (m : Moment) : Instant := m.utc.shift m.offset

/-- The year at the moment's own place. -/
def year (m : Moment) : Int := (Date.ofDays m.wall.day).year

/-- Nanoseconds from `s` to `t`, where they fit a signed 64-bit number. -/
def nanosSince? (t s : Moment) : Option Int :=
  let n := t.utc.since s.utc
  if Int64.minValue.toInt ≤ n ∧ n ≤ Int64.maxValue.toInt then some n else none

end Moment

end FleetControl.Time
