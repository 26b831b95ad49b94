import SqlFilter.Time.Calendar

/-!
# Instants and spans

* `Instant` is a point of universal time with nanoseconds, within the years -262143 to 262142;
  a leap second is told apart from the second before it;
* `Span` is a signed length of time in milliseconds;
* `ClockTime` is what a clock and a calendar show, `ClockTime.toInstant?` reads it at an offset
  from universal time and `Instant.clockTime` is the way back;
* `Instant.plus?` moves an instant by a span.
-/

namespace SqlFilter

/-! ## Instants -/

/-- The number of nanoseconds in a second. -/
def nanosPerSecond : Nat := 1000000000

/-- The first year that instants reach back to. -/
def firstYear : Int := -262143

/-- The last year that instants reach. -/
def lastYear : Int := 262142

/-- The first second of the first year, counted from the start of 1970. -/
def firstSecond : Int := Date.toDay ⟨firstYear, 1, 1⟩ * 86400

/-- The last second of the last year, counted from the start of 1970. -/
def lastSecond : Int := Date.toDay ⟨lastYear, 12, 31⟩ * 86400 + 86399

/-- Whether a second and a count of nanoseconds make up an instant.  A leap second has no number of
its own: it is the last second of a minute with a thousand million nanoseconds or more. -/
def isInstant (seconds : Int) (nanos : Nat) : Bool :=
  firstSecond ≤ seconds && seconds ≤ lastSecond &&
    (nanos < nanosPerSecond || (seconds % 60 = 59 && nanos < 2 * nanosPerSecond))

/-- A point of universal time. -/
structure Instant where
  /-- Whole seconds since the start of 1970. -/
  seconds : Int
  /-- Nanoseconds since then; from a thousand million on they lie in a leap second. -/
  nanos : Nat
  /-- The second is in range, and only the last second of a minute is followed by a leap second. -/
  valid : isInstant seconds nanos = true
  deriving DecidableEq

namespace Instant

/-- The instant of a second and nanoseconds, if there is one. -/
def make? (seconds : Int) (nanos : Nat) : Option Instant :=
  if h : isInstant seconds nanos = true then some ⟨seconds, nanos, h⟩ else none

/-- The start of 1970. -/
def epoch : Instant := ⟨0, 0, by decide⟩

theorem ext_iff' {s t : Instant} : s = t ↔ s.seconds = t.seconds ∧ s.nanos = t.nanos := by
  cases s; cases t; simp

theorem make?_eq_some_iff {seconds : Int} {nanos : Nat} {t : Instant} :
    make? seconds nanos = some t ↔ t.seconds = seconds ∧ t.nanos = nanos := by
  unfold make?
  split
  · simp [ext_iff', eq_comm]
  · rename_i h
    simp only [reduceCtorEq, false_iff, not_and]
    rintro rfl rfl
    exact h t.valid

end Instant

/-! ## Clock and calendar -/

/-- What a calendar and a clock show. -/
structure ClockTime where
  /-- The date. -/
  date : Date
  /-- The hour, from 0 to 23. -/
  hour : Nat
  /-- The minute, from 0 to 59. -/
  minute : Nat
  /-- The second, from 0 to 60; 60 is a leap second. -/
  second : Nat
  /-- Nanoseconds within the second. -/
  nanos : Nat
  deriving Repr, DecidableEq

namespace ClockTime

/-- Whether the calendar has the date, within the range of instants, and the clock the time. -/
def isValid (c : ClockTime) : Bool :=
  c.date.isValid && firstYear ≤ c.date.year && c.date.year ≤ lastYear &&
    c.hour ≤ 23 && c.minute ≤ 59 && c.second ≤ 60

/-- The instant that a clock shows which is the given number of minutes ahead of universal time.
A leap second is the second 59 with a thousand million nanoseconds more. -/
def toInstant? (c : ClockTime) (offsetMinutes : Int) : Option Instant :=
  if c.isValid then
    let leap := c.second = 60
    let inDay : Int := c.hour * 3600 + c.minute * 60 + (if leap then 59 else c.second : Nat)
    Instant.make? (c.date.toDay * 86400 + inDay - offsetMinutes * 60)
      (c.nanos + if leap then nanosPerSecond else 0)
  else none

end ClockTime

/-- What a clock of universal time shows at an instant. -/
def Instant.clockTime (t : Instant) : ClockTime :=
  let inDay := (t.seconds % 86400).toNat
  let leap := nanosPerSecond ≤ t.nanos
  { date := Date.ofDay (t.seconds / 86400)
    hour := inDay / 3600
    minute := inDay / 60 % 60
    second := inDay % 60 + if leap then 1 else 0
    nanos := if leap then t.nanos - nanosPerSecond else t.nanos }

/-! ## Spans -/

/-- A signed length of time. -/
structure Span where
  /-- The length in milliseconds. -/
  milliseconds : Int
  deriving Repr, DecidableEq

namespace Instant

/-- The instant a number of nanoseconds after the given count of nanoseconds within a second. -/
def shift? (seconds : Int) (nanos : Int) : Option Instant :=
  let total := seconds * nanosPerSecond + nanos
  make? (total / nanosPerSecond) (total % nanosPerSecond).toNat

/-- The instant moved by a span, if that is in range.  Inside a leap second, a span that stays
within it or goes back less than a second moves the nanoseconds only; a longer one ahead counts as
if it started one second earlier, a longer one back as if it started in the second after. -/
def plus? (t : Instant) (span : Span) : Option Instant :=
  let whole := Int.tdiv span.milliseconds 1000
  let part := Int.tmod span.milliseconds 1000 * 1000000
  let nanos : Int := t.nanos
  let inSecond : Int := nanosPerSecond
  let moved := span.milliseconds * 1000000
  if nanos < inSecond then shift? t.seconds (nanos + moved)
  else if 0 < whole ∨ (0 < part ∧ 2 * inSecond ≤ nanos + part) then
    shift? t.seconds (nanos - inSecond + moved)
  else if whole < 0 then shift? (t.seconds + 1) (nanos - inSecond + moved)
  else make? t.seconds (nanos + part).toNat

end Instant
end SqlFilter
