import SqlFilter.Numeral.Binary64
import SqlFilter.Time.Reading

/-!
# Spans in writing

A span is written as an optional sign, the letter P, components for years, months, weeks and days,
and, behind the letter T, components for hours, minutes and seconds: `P1Y2M`, `-P3DT1.5H`.  A
component is a number with at most one point and the letter of its unit; units come in falling
order and each at most once.  A year counts as 365 days and a month as 30.

The length is worked out in binary floating point: each component is its number times the length
of its unit in seconds, the components of the date and those of the time are summed apart, and the
sum of both is turned into milliseconds and rounded to a whole number, a half going away from
zero.

* `Span.sumComponents?` reads the components of one part;
* `Span.ofSeconds?` is the span of a number of seconds;
* `Span.read?` reads a whole span.
-/

namespace SqlFilter.Span

/-- The units of the date part with their lengths in seconds. -/
def dateUnits : List (Char × Nat) :=
  [('Y', 365 * 86400), ('M', 30 * 86400), ('W', 7 * 86400), ('D', 86400)]

/-- The units of the time part with their lengths in seconds. -/
def timeUnits : List (Char × Nat) := [('H', 3600), ('M', 60), ('S', 1)]

/-- Whether a character can stand in the number of a component. -/
def isNumberChar (c : Char) : Bool := c.isDigit || c = '.'

/-- Reads one component: its number, the letter of its unit, and the text that follows. -/
def component? (t : Text) : Option (Magnitude × Char × Text) :=
  match Text.run isNumberChar t with
  | (_, []) => none
  | (number, unit :: rest) =>
    (Decimal.unsigned? number).map fun d => (Magnitude.ofDecimal d, unit, rest)

/-- Adds up the components that a text consists of, in seconds.  The units are gone through in
order: each is either that of the next component or has none. -/
def sumComponents? : List (Char × Nat) → Magnitude → Text → Option Magnitude
  | _, total, [] => some total
  | [], _, _ :: _ => none
  | (letter, seconds) :: units, total, c :: t =>
    match component? (c :: t) with
    | none => none
    | some (value, unit, rest) =>
      if unit = letter then sumComponents? units (total.add (value.scale seconds)) rest
      else sumComponents? units total (c :: t)

/-- The span of a number of seconds, rounded to milliseconds, with a sign.  A span has less than
`2 ^ 63` milliseconds; a length of just that many is cut to the greatest span, a greater one is no
span. -/
def ofSeconds? (negative : Bool) (seconds : Magnitude) : Option Span :=
  match seconds.scale 1000 with
  | .infinite => none
  | .finite units =>
    let milliseconds := Magnitude.nearestWhole units
    if milliseconds ≤ Numeral.int64Limit then
      some ⟨Numeral.withSign negative (min milliseconds (Numeral.int64Limit - 1))⟩
    else none

/-- The date part and the time part of what follows the letter P.  A time part that is announced
must not be empty, and neither must both parts. -/
def parts? (t : Text) : Option (Text × Text) :=
  match Text.cutFirst 'T' t with
  | some (_, []) => none
  | some (date, time) => some (date, time)
  | none => if t = [] then none else some (t, [])

/-- Reads a span. -/
def read? (t : Text) : Option Span := do
  let (negative, t) := Numeral.cutSign t
  let t ← Time.expect 'P' t
  let (date, time) ← parts? t
  let dateSeconds ← sumComponents? dateUnits (.finite 0) date
  let timeSeconds ← sumComponents? timeUnits (.finite 0) time
  ofSeconds? negative (dateSeconds.add timeSeconds)

end SqlFilter.Span
