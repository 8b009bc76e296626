import QualityGate.Time.Calendar

/-!
# Instants

An instant is a point in universal time to the nanosecond.  A leap second is the second before it
gone on for longer, so its fraction is a whole second or more; it comes after every instant of the
second that it extends and before the next one.
-/

namespace QualityGate.Time

/-- A point in universal time. -/
structure Instant where
  /-- Whole seconds from the start of 1970. -/
  seconds : Int
  /-- The fraction, in nanoseconds. -/
  nanos : Nat
  deriving DecidableEq, Repr

/-- Nanoseconds of a second. -/
def nanosPerSecond : Nat := 1000000000

/-- Seconds of a day. -/
def secondsPerDay : Int := 86400

namespace Instant

/-- Whether an instant is later than another. -/
def isAfter (a b : Instant) : Bool :=
  b.seconds < a.seconds || (a.seconds == b.seconds && b.nanos < a.nanos)

/-- The instant so many milliseconds later. -/
def plusMillis (instant : Instant) (ms : Nat) : Instant :=
  let nanos := instant.nanos + ms * 1000000
  ⟨instant.seconds + (nanos / nanosPerSecond : Nat), nanos % nanosPerSecond⟩

/-- The day on which an instant falls. -/
def date (instant : Instant) : Date := .ofDays (instant.seconds / secondsPerDay)

/-- The seconds from the start of the day. -/
def secondOfDay (instant : Instant) : Nat := (instant.seconds % secondsPerDay).toNat

/-- The instant at a time of day; second 60 is a leap second. -/
def ofParts (date : Date) (hour minute second nanos : Nat) : Instant :=
  let extra := if second = 60 then 1 else 0
  ⟨date.toDays * secondsPerDay + (hour * 3600 + minute * 60 + (second - extra) : Nat),
    nanos + extra * nanosPerSecond⟩

end Instant

end QualityGate.Time
