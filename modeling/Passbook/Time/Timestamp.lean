import Passbook.Time.Calendar
/-!
# Points in time

A point in time in UTC, to the nanosecond.  During a leap second the nanoseconds of the second before it
run on beyond one thousand million.
-/

namespace Passbook

/-- A point in time: seconds since the beginning of 1970, and nanoseconds. -/
structure Timestamp where
  seconds : Int
  nanos : Nat
deriving DecidableEq, Repr

namespace Timestamp

def nanosPerSecond : Nat := 1000000000

def secondsPerDay : Int := 86400

def ofSeconds (seconds : Int) : Timestamp := ⟨seconds, 0⟩

def date (t : Timestamp) : Date := Date.ofDays (t.seconds / secondsPerDay)

def secondOfDay (t : Timestamp) : Nat := (t.seconds % secondsPerDay).toNat

/-- One point in time lies before another or is the same. -/
def le (a b : Timestamp) : Bool :=
  a.seconds < b.seconds || (a.seconds == b.seconds && a.nanos ≤ b.nanos)

end Timestamp

end Passbook
