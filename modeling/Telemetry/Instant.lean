import Telemetry.Duration
/-!
Points on the calendar, in nanoseconds since the year 1970, and the calendar that shows them.
-/

namespace Telemetry

structure Instant where
  nanoseconds : Int
  deriving DecidableEq, Repr, Inhabited

namespace Instant

/-- The first second that the calendar knows: the beginning of the year -262143. -/
def firstSecond : Int := -8334601228800

/-- The last second that the calendar knows: the end of the year 262142. -/
def lastSecond : Int := 8210266876799

/-- A second of the calendar; beyond its ends the nearest one. -/
def ofSeconds (seconds : Int) : Instant :=
  ⟨min (max seconds firstSecond) lastSecond * 1000000000⟩

def second (point : Instant) : Int := point.nanoseconds / 1000000000

/-- The time from one point to a later one; none if it is not later. -/
def elapsed (since now : Instant) : Duration :=
  ⟨(now.nanoseconds - since.nanoseconds).toNat⟩

end Instant

/-- A calendar that is looked at again and again.  It may be set between two looks, forwards or
backwards, so nothing ties what it shows to what it has shown before. -/
structure Calendar where
  shows : Nat → Instant := fun _ => ⟨0⟩
  looks : Nat := 0
  deriving Inhabited

def Calendar.read (calendar : Calendar) : Instant × Calendar :=
  (calendar.shows calendar.looks, { calendar with looks := calendar.looks + 1 })

end Telemetry
