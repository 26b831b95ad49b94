import SqlFilter.Numeral.Digits
import SqlFilter.Time.Instant

/-!
# Instants in writing

`Instant.print` writes an instant as calendar date, clock time and the letter Z:

* the year has four digits; outside 0 to 9999 it has a sign and at least four digits;
* the fraction of the second is left out when it is zero, and otherwise has the fewest of three,
  six and nine digits that hold it;
* a leap second is written as the second 60.
-/

namespace SqlFilter

/-- A year in writing. -/
def printYear (year : Int) : Text :=
  let digits := Numeral.padded 4 year.natAbs
  if 0 ≤ year ∧ year ≤ 9999 then digits
  else if year < 0 then '-' :: digits else '+' :: digits

/-- The fraction of a second in writing, with its point. -/
def printFraction (nanos : Nat) : Text :=
  if nanos = 0 then []
  else if nanos % 1000000 = 0 then '.' :: Numeral.padded 3 (nanos / 1000000)
  else if nanos % 1000 = 0 then '.' :: Numeral.padded 6 (nanos / 1000)
  else '.' :: Numeral.padded 9 nanos

/-- A date in writing. -/
def Date.print (d : Date) : Text :=
  printYear d.year ++ '-' :: Numeral.padded 2 d.month ++ '-' :: Numeral.padded 2 d.day

/-- Date and time in writing. -/
def ClockTime.print (c : ClockTime) : Text :=
  c.date.print ++ 'T' :: Numeral.padded 2 c.hour ++ ':' :: Numeral.padded 2 c.minute ++
    ':' :: Numeral.padded 2 c.second ++ printFraction c.nanos

/-- An instant in writing. -/
def Instant.print (t : Instant) : Text := t.clockTime.print ++ ['Z']

end SqlFilter
