import SqlFilter.Numeral.Binary64
import SqlFilter.Numeral.Hexadecimal
import SqlFilter.Time.Calendar
import SqlFilter.Time.Reading

/-!
# Numbers, truth values and dates in TOML

None of these is of use in settings, so that only their form is decided.

* `isInteger`, `isFloat` and `isMoment` are the forms of numbers and of dates and times;
* `literal?` takes a value of one of these forms, or a truth value, off a text.
-/

namespace SqlFilter.Toml

/-! ## Numbers -/

/-- The digits of a number in which single underscores may stand between digits. -/
def ungrouped? (isDigit : Char → Bool) (t : Text) : Option Text :=
  let groups := Text.splitOn '_' t
  if groups.all fun group => group ≠ [] && group.all isDigit then some groups.flatten else none

/-- The digits of a whole number, which has no needless zeros in front. -/
def wholeDigits? (t : Text) : Option Text :=
  (ungrouped? Char.isDigit t).filter fun digits => digits = ['0'] || digits.head? ≠ some '0'

/-- Whether a text is a whole number of 63 bits in the given base. -/
def isBased (base : Nat) (t : Text) : Bool :=
  let value (c : Char) : Nat := (Numeral.hexDigit? c).getD base
  match ungrouped? (fun c => value c < base) t with
  | some digits => digits.foldl (fun n c => base * n + value c) 0 < Numeral.int64Limit
  | none => false

/-- Whether a text is a whole number of 64 bits. -/
def isInteger : Text → Bool
  | '0' :: 'x' :: rest => isBased 16 rest
  | '0' :: 'o' :: rest => isBased 8 rest
  | '0' :: 'b' :: rest => isBased 2 rest
  | t =>
    let (negative, body) := Numeral.cutSign t
    match wholeDigits? body with
    | some digits => Numeral.fitsInt64 (Numeral.withSign negative (Numeral.ofDigits digits))
    | none => false

/-- Whether a text without a sign is a whole part followed by a fraction, an exponent or both. -/
def isScientific (t : Text) : Bool :=
  let (mantissa, exponent) := Text.run (fun c => c ≠ 'e' && c ≠ 'E') t
  let exponentFits :=
    match exponent with
    | [] => true
    | _ :: rest => (ungrouped? Char.isDigit (Numeral.cutSign rest).2).isSome
  match Text.cutFirst '.' mantissa with
  | some (whole, part) =>
    exponentFits && (wholeDigits? whole).isSome && (ungrouped? Char.isDigit part).isSome
  | none => exponentFits && exponent ≠ [] && (wholeDigits? mantissa).isSome

/-- Whether a text is a floating-point number.  One that rounds to positive infinity is none. -/
def isFloat (t : Text) : Bool :=
  let (negative, body) := Numeral.cutSign t
  body = "inf".toList || body = "nan".toList ||
    (isScientific body && (negative || (Binary64.read? (body.filter (· ≠ '_'))).isSome))

/-! ## Dates and times -/

/-- Takes a date off the front. -/
def date? (t : Text) : Option Text := do
  let (year, t) ← Time.fixedDigits 4 t
  let t ← Time.expect '-' t
  let (month, t) ← Time.fixedDigits 2 t
  let t ← Time.expect '-' t
  let (day, t) ← Time.fixedDigits 2 t
  if (Date.mk year month day).isValid then some t else none

/-- Takes a clock time off the front. -/
def clock? (t : Text) : Option Text := do
  let (hour, t) ← Time.fixedDigits 2 t
  let t ← Time.expect ':' t
  let (minute, t) ← Time.fixedDigits 2 t
  let t ← Time.expect ':' t
  let (second, t) ← Time.fixedDigits 2 t
  let (_, t) ← Time.fraction t
  if hour ≤ 23 ∧ minute ≤ 59 ∧ second ≤ 60 then some t else none

/-- Whether a text is a date. -/
def isDate (t : Text) : Bool := date? t = some []

/-- Whether a text is a clock time, with or without an offset. -/
def isTime (t : Text) : Bool :=
  match clock? t with
  | none => false
  | some [] => true
  | some rest => (Time.offset (Time.expect ':') rest).any fun (_, rest) => rest.isEmpty

/-- Whether a text is a clock time alone, or a date and a clock time with the letter T between. -/
def isMoment (t : Text) : Bool :=
  clock? t = some [] ||
    match date? t with
    | some (c :: rest) => (c = 'T' || c = 't') && isTime rest
    | _ => false

/-! ## Values -/

/-- Whether a character can stand in a value of one of these forms. -/
def isLiteralChar (c : Char) : Bool := c.isAlphanum || "+-_.:".toList.contains c

/-- Whether a text is a value of one of these forms. -/
def isLiteral (t : Text) : Bool :=
  t = "true".toList || t = "false".toList || isInteger t || isFloat t || isMoment t

/-- Takes a value off the front.  A time may follow a date behind a space. -/
def literal? (t : Text) : Option Text :=
  let (word, rest) := Text.run isLiteralChar t
  if isDate word then
    match rest with
    | ' ' :: more =>
      let (next, after) := Text.run isLiteralChar more
      some (if isTime next then after else rest)
    | _ => some rest
  else if isLiteral word then some rest
  else none

end SqlFilter.Toml
