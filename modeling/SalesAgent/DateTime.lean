import Mathlib.Algebra.Order.Ring.Int

/-!
# Instants and durations

Datetimes are UTC and carry microseconds, so an instant is an integer number of
microseconds and a duration is the difference of two instants.  Both may be
negative.
-/

namespace SalesAgent

/-- An instant, in microseconds. -/
abbrev DateTime := Int

/-- A duration, in microseconds. -/
abbrev Timedelta := Int

namespace Timedelta

/-- Microseconds of a number of seconds. -/
def seconds
    (n : Int) : Timedelta :=
  n * 1000000

/-- Whole days of a duration, rounded down as `timedelta.days` is. -/
def days
    (d : Timedelta) : Int :=
  d / 86400000000

/-- `math.ceil` of the duration's `total_seconds()`. -/
def ceilSeconds
    (d : Timedelta) : Int :=
  -((-d) / 1000000)

end Timedelta
end SalesAgent
