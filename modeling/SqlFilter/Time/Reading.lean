import SqlFilter.Numeral.Digits
import SqlFilter.Text.Blank
import SqlFilter.Time.Instant

/-!
# Reading instants

Four written forms of an instant are read here.

* `Instant.readStrict?`: date and time with fields of fixed width and an offset from universal
  time, `2022-09-16T10:15:04.5+02:00`;
* `Instant.readLocal?`: date and time without an offset, taken as universal time; numbers may have
  fewer digits and blanks before them;
* `Instant.readDate?`: a date alone, taken as its midnight;
* `Instant.readLenient?`: date, time and offset with blanks before the separators too, the form in
  which a bound value is recognised when it is read back.

`Instant.read?` tries the first three in this order.  A reader of a part takes a text and gives what
it read together with the text that follows.
-/

namespace SqlFilter.Time

/-! ## Parts -/

/-- Takes a given character off the front. -/
def expect (c : Char) : Text → Option Text
  | [] => none
  | d :: rest => if d = c then some rest else none

/-- Takes one of several characters off the front. -/
def expectOneOf (cs : List Char) : Text → Option Text
  | [] => none
  | d :: rest => if d ∈ cs then some rest else none

/-- Reads exactly `width` digits. -/
def fixedDigits (width : Nat) (t : Text) : Option (Nat × Text) :=
  let field := t.take width
  if field.length = width ∧ field.all Char.isDigit then
    some (Numeral.ofDigits field, t.drop width)
  else none

/-- Reads as many digits as there are, up to `width` and at least one. -/
def digitsUpTo (width : Nat) (t : Text) : Option (Nat × Text) :=
  let field := (t.take width).takeWhile Char.isDigit
  if field = [] then none else some (Numeral.ofDigits field, t.drop field.length)

/-- Reads a run of digits of any length, at least one. -/
def anyDigits (t : Text) : Option (Nat × Text) :=
  let (field, rest) := Text.run Char.isDigit t
  if field = [] then none else some (Numeral.ofDigits field, rest)

/-- Reads the fraction of a second as nanoseconds: a point and digits, of which those after the
ninth do not count.  Without a point the fraction is zero. -/
def fraction (t : Text) : Option (Nat × Text) :=
  match t with
  | '.' :: more =>
    let (field, rest) := Text.run Char.isDigit more
    if field = [] then none
    else
      let kept := field.take 9
      some (Numeral.ofDigits kept * Nat.pow 10 (9 - kept.length), rest)
  | _ => some (0, t)

/-- Reads a year behind blanks: up to four digits, or a sign and any number of digits. -/
def freeYear (t : Text) : Option (Int × Text) :=
  match Text.trimStart t with
  | '-' :: rest => (anyDigits rest).map fun (n, rest) => (-(n : Int), rest)
  | '+' :: rest => (anyDigits rest).map fun (n, rest) => ((n : Int), rest)
  | rest => (digitsUpTo 4 rest).map fun (n, rest) => ((n : Int), rest)

/-- Reads a number of one or two digits behind blanks. -/
def freeNumber (t : Text) : Option (Nat × Text) := digitsUpTo 2 (Text.trimStart t)

/-- The sign of an offset: plus, hyphen or the minus sign proper. -/
def offsetSign : Text → Option (Bool × Text)
  | '+' :: rest => some (false, rest)
  | '-' :: rest => some (true, rest)
  | '−' :: rest => some (true, rest)
  | _ => none

/-- Reads an offset in minutes as sign, hours and minutes, where `separator` reads what stands
between hours and minutes.  Hours go to 23 and minutes to 59. -/
def signedOffset (separator : Text → Option Text) (t : Text) : Option (Int × Text) := do
  let (negative, t) ← offsetSign t
  let (hours, t) ← fixedDigits 2 t
  let t ← separator t
  let (minutes, t) ← fixedDigits 2 t
  if hours ≤ 23 ∧ minutes ≤ 59 then
    return (Numeral.withSign negative (hours * 60 + minutes), t)
  else none

/-- Reads an offset in minutes: the letter Z for none, or a signed one. -/
def offset (separator : Text → Option Text) (t : Text) : Option (Int × Text) :=
  match t with
  | 'Z' :: rest => some (0, rest)
  | 'z' :: rest => some (0, rest)
  | _ => signedOffset separator t

/-- A character that is expected is taken off the front of a text that begins with it, and of no
other. -/
theorem expect_eq_some_iff {c : Char} {t rest : Text} : expect c t = some rest ↔ t = c :: rest := by
  cases t with
  | nil => simp [expect]
  | cons d more => simp [expect]

theorem expect_cons (c : Char) (rest : Text) : expect c (c :: rest) = some rest :=
  expect_eq_some_iff.2 rfl

end SqlFilter.Time

namespace SqlFilter.Instant
open Time

/-! ## Whole forms -/

/-- Reads date, time and offset with fields of fixed width.  Between date and time stands a T of
either case or a space. -/
def readStrict? (t : Text) : Option Instant := do
  let (year, t) ← fixedDigits 4 t
  let t ← expect '-' t
  let (month, t) ← fixedDigits 2 t
  let t ← expect '-' t
  let (day, t) ← fixedDigits 2 t
  let t ← expectOneOf ['T', 't', ' '] t
  let (hour, t) ← fixedDigits 2 t
  let t ← expect ':' t
  let (minute, t) ← fixedDigits 2 t
  let t ← expect ':' t
  let (second, t) ← fixedDigits 2 t
  let (nanos, t) ← fraction t
  let (shift, t) ← offset (expect ':') t
  if t = [] then
    ClockTime.toInstant? ⟨⟨year, month, day⟩, hour, minute, second, nanos⟩ shift
  else none

/-- Reads date and time without an offset. -/
def readLocal? (t : Text) : Option Instant := do
  let (year, t) ← freeYear t
  let t ← expect '-' t
  let (month, t) ← freeNumber t
  let t ← expect '-' t
  let (day, t) ← freeNumber t
  let t ← expect 'T' t
  let (hour, t) ← freeNumber t
  let t ← expect ':' t
  let (minute, t) ← freeNumber t
  let t ← expect ':' t
  let (second, t) ← freeNumber t
  let (nanos, t) ← fraction t
  if t = [] then ClockTime.toInstant? ⟨⟨year, month, day⟩, hour, minute, second, nanos⟩ 0
  else none

/-- Reads a date as its midnight. -/
def readDate? (t : Text) : Option Instant := do
  let (year, t) ← freeYear t
  let t ← expect '-' t
  let (month, t) ← freeNumber t
  let t ← expect '-' t
  let (day, t) ← freeNumber t
  if t = [] then ClockTime.toInstant? ⟨⟨year, month, day⟩, 0, 0, 0, 0⟩ 0
  else none

/-- Reads the strict form, date and time without an offset, or a date. -/
def read? (t : Text) : Option Instant :=
  readStrict? t <|> readLocal? t <|> readDate? t

/-! ## The lenient form -/

/-- Drops the colons and blanks between the hours and the minutes of an offset. -/
def skipColons (t : Text) : Text := t.dropWhile fun c => c = ':' || Text.isBlank c

/-- Reads an offset in minutes, which may be the word UTC in letters of either case. -/
def lenientOffset (t : Text) : Option (Int × Text) :=
  if Text.asciiLower (t.take 3) = ['u', 't', 'c'] then some (0, t.drop 3)
  else offset (fun t => some (skipColons t)) t

/-- Reads date, time and offset with blanks before numbers and before the separators of date and
time, after the seconds and at the end. -/
def readLenient? (t : Text) : Option Instant := do
  let (year, t) ← freeYear t
  let t ← expect '-' (Text.trimStart t)
  let (month, t) ← freeNumber t
  let t ← expect '-' (Text.trimStart t)
  let (day, t) ← freeNumber t
  let t ← expectOneOf ['T', 't', ' '] t
  let (hour, t) ← freeNumber t
  let t ← expect ':' (Text.trimStart t)
  let (minute, t) ← freeNumber t
  let t ← expect ':' (Text.trimStart t)
  let (second, t) ← freeNumber t
  let (nanos, t) ← fraction t
  let (shift, t) ← lenientOffset (Text.trimStart t)
  if Text.allBlank t then
    ClockTime.toInstant? ⟨⟨year, month, day⟩, hour, minute, second, nanos⟩ shift
  else none

end SqlFilter.Instant
