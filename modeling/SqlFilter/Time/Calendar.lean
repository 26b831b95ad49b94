/-!
# The calendar

Days of the Gregorian calendar, extended to all years, with a year zero before the year one.

* `Date` is a year, a month and a day of the month; `Date.isValid` says that the calendar has it;
* `Date.toDay` numbers the days, 1970-01-01 being day zero;
* `Date.ofDay` finds the date of a day: first the 400 years, the hundred, the four and the single
  year that it falls into, then the month.
-/

namespace SqlFilter

/-- A date of the calendar. -/
structure Date where
  /-- The year, zero being the year before the year one. -/
  year : Int
  /-- The month, from 1. -/
  month : Nat
  /-- The day of the month, from 1. -/
  day : Nat
  deriving Repr, DecidableEq

/-! ## Years and months -/

/-- Whether a year has 366 days. -/
def isLeapYear (year : Int) : Bool := year % 4 = 0 && (year % 100 ≠ 0 || year % 400 = 0)

/-- The lengths of the twelve months. -/
def monthLengths (leap : Bool) : List Nat :=
  [31, if leap then 29 else 28, 31, 30, 31, 30, 31, 31, 30, 31, 30, 31]

/-- The number of days from the first day of the year one to the first day of a year. -/
def daysBeforeYear (year : Int) : Int :=
  let past := year - 1
  365 * past + past / 4 - past / 100 + past / 400

/-- The number of days from the first day of the year one to 1970-01-01. -/
def epochDay : Int := daysBeforeYear 1970

/-- The place of the span that holds day `n` of spans laid end to end, and the day within it. -/
def locate : List Nat → Nat → Nat × Nat
  | [], n => (0, n)
  | length :: rest, n =>
    if n < length then (0, n)
    else
      let (place, day) := locate rest (n - length)
      (place + 1, day)

namespace Date

/-- Whether the calendar has the date. -/
def isValid (d : Date) : Bool :=
  1 ≤ d.month && 1 ≤ d.day &&
    match (monthLengths (isLeapYear d.year))[d.month - 1]? with
    | some length => d.day ≤ length
    | none => false

/-- The number of a date's day, counted from 1970-01-01. -/
def toDay (d : Date) : Int :=
  let monthsBefore := (monthLengths (isLeapYear d.year)).take (d.month - 1)
  let inYear := monthsBefore.foldl (· + ·) 0 + (d.day - 1)
  daysBeforeYear d.year + inYear - epochDay

/-- The year that holds day `n`, counted from the first day of the year one, and the day within
it.  Every 400 years have 146097 days, and of the four hundreds in them only the last has the
extra day; the same goes for the four years of a group. -/
def yearOfDay (n : Int) : Int × Nat :=
  let cycle := n / 146097
  let inCycle := (n % 146097).toNat
  let century := min (inCycle / 36524) 3
  let inCentury := inCycle - century * 36524
  let group := inCentury / 1461
  let inGroup := inCentury - group * 1461
  let single := min (inGroup / 365) 3
  (400 * cycle + (100 * century + 4 * group + single : Nat) + 1, inGroup - single * 365)

/-- The date of a day that is counted from 1970-01-01. -/
def ofDay (n : Int) : Date :=
  let (year, inYear) := yearOfDay (n + epochDay)
  let (month, inMonth) := locate (monthLengths (isLeapYear year)) inYear
  ⟨year, month + 1, inMonth + 1⟩

end Date

/-! ## Small laws -/

/-- The days before a year, by its place among 400, 100 and 4 years. -/
theorem daysBeforeYear_of_parts (cycle : Int) (century group single : Nat)
    (hc : century ≤ 3) (hg : group ≤ 24) (hs : single ≤ 3) :
    daysBeforeYear (400 * cycle + (100 * century + 4 * group + single : Nat) + 1)
      = 146097 * cycle + (36524 * century + 1461 * group + 365 * single : Nat) := by
  have hpast : (400 * cycle + (100 * century + 4 * group + single : Nat) + 1 - 1 : Int)
      = 400 * cycle + 100 * century + 4 * group + single := by omega
  have h4 : (400 * cycle + 100 * century + 4 * group + single : Int) / 4
      = 100 * cycle + 25 * century + group := by omega
  have h100 : (400 * cycle + 100 * century + 4 * group + single : Int) / 100
      = 4 * cycle + century := by omega
  have h400 : (400 * cycle + 100 * century + 4 * group + single : Int) / 400 = cycle := by omega
  simp only [daysBeforeYear, hpast, h4, h100, h400]
  omega

/-- The days before a day's year and the days before it in that year make up the day. -/
theorem daysBeforeYear_yearOfDay (n : Int) :
    daysBeforeYear (Date.yearOfDay n).1 + (Date.yearOfDay n).2 = n := by
  have hr : (n % 146097).toNat < 146097 := by omega
  have hn : n = 146097 * (n / 146097) + ((n % 146097).toNat : Int) := by omega
  simp only [Date.yearOfDay]
  generalize (n % 146097).toNat = r at hr hn ⊢
  generalize n / 146097 = cycle at hn ⊢
  subst hn
  obtain ⟨century, hcentury⟩ : ∃ century, century = min (r / 36524) 3 := ⟨_, rfl⟩
  rw [← hcentury]
  obtain ⟨inCentury, hin⟩ : ∃ inCentury, inCentury = r - century * 36524 := ⟨_, rfl⟩
  have hc : century ≤ 3 ∧ r = century * 36524 + inCentury ∧ inCentury ≤ 36524 := by omega
  rw [← hin]
  obtain ⟨group, hgroup⟩ : ∃ group, group = inCentury / 1461 := ⟨_, rfl⟩
  rw [← hgroup]
  obtain ⟨inGroup, hing⟩ : ∃ inGroup, inGroup = inCentury - group * 1461 := ⟨_, rfl⟩
  have hg : group ≤ 24 ∧ inCentury = group * 1461 + inGroup := by omega
  rw [← hing]
  obtain ⟨single, hsingle⟩ : ∃ single, single = min (inGroup / 365) 3 := ⟨_, rfl⟩
  rw [← hsingle]
  have hs : single ≤ 3 ∧ single * 365 ≤ inGroup := by omega
  rw [daysBeforeYear_of_parts cycle century group single hc.1 hg.1 hs.1]
  omega

end SqlFilter
