import SqlFilter.Numeral.Hexadecimal
import SqlFilter.Numeral.Significand
import SqlFilter.Text.Quoted

/-!
# Numbers and strings in JSON

* `Json.Scalar` is a number or a string; whole numbers of at most 64 bits are kept apart from other
  numbers, among them minus zero, which is no whole number;
* `Json.numeral?` and `Json.quoted?` read the two written forms;
* `Json.Scalar.read?` reads a whole JSON text that is a number or a string.

All other JSON values are refused.
-/

namespace SqlFilter.Json

/-- A number or a string. -/
inductive Scalar where
  /-- A whole number. -/
  | integer (n : Int)
  /-- A number with a point or an exponent, a longer whole number, or minus zero: its significand
  and the power of ten that scales it. -/
  | decimal (d : Decimal)
  /-- A string. -/
  | text (s : Text)
  deriving Repr, DecidableEq

/-- Whether a character may stand around a value. -/
def isSpace (c : Char) : Bool := c = ' ' || c = '\t' || c = '\n' || c = '\r'

/-! ## Numbers -/

/-- Whether a text without a sign begins like a number: a whole part without needless zeros, and a
digit behind a point. -/
def startsNumeral (t : Text) : Bool :=
  let (whole, rest) := Text.run Char.isDigit t
  (whole = ['0'] || (whole ≠ [] && whole.head? ≠ some '0')) &&
    match rest with
    | ['.'] => false
    | '.' :: c :: _ => c.isDigit
    | _ => true

/-- Reads a number. -/
def numeral? (t : Text) : Option Scalar :=
  let (negative, body) :=
    match t with
    | '-' :: rest => (true, rest)
    | _ => (false, t)
  if startsNumeral body then
    if body.all Char.isDigit ∧ Numeral.ofDigits body < Decimal.significandLimit ∧
        ¬(negative ∧ body = ['0']) then
      some (.integer (Numeral.withSign negative (Numeral.ofDigits body)))
    else
      (Decimal.significant? body).map fun d => .decimal ⟨negative, d.mantissa, d.exponent⟩
  else none

/-! ## Strings -/

/-- Reads the four digits of a character's number.  A character past the first 65536 is written as
two numbers, the first from 0xD800 and the second from 0xDC00 on, each with ten bits of it; neither
stands alone. -/
def numbered? (t : Text) : Option (Char × Text) := do
  let (first, t) ← Numeral.hexNumber? 4 t
  if 0xD800 ≤ first ∧ first < 0xDC00 then
    let t ← Text.strip? "\\u".toList t
    let (second, t) ← Numeral.hexNumber? 4 t
    if 0xDC00 ≤ second ∧ second < 0xE000 then
      let c ← Numeral.character? (0x10000 + (first - 0xD800) * 0x400 + (second - 0xDC00))
      return (c, t)
    else none
  else
    let c ← Numeral.character? first
    return (c, t)

/-- Reads what stands behind a backslash. -/
def escape? : Text → Option (Char × Text)
  | '/' :: rest => some ('/', rest)
  | 'u' :: rest => numbered? rest
  | c :: rest => (Text.escapedLetter? c).map fun c => (c, rest)
  | [] => none

/-- Reads a string in its quotes; control characters have to be escaped in it. -/
def quoted? (t : Text) : Option Scalar :=
  match t with
  | '"' :: rest =>
    match Text.quotedBody? (fun c => 0x20 ≤ c.toNat) escape? rest with
    | some (s, []) => some (.text s)
    | _ => none
  | _ => none

/-! ## Whole texts -/

/-- Reads a JSON text that is a number or a string. -/
def Scalar.read? (t : Text) : Option Scalar :=
  let body := ((t.dropWhile isSpace).reverse.dropWhile isSpace).reverse
  quoted? body <|> numeral? body

end SqlFilter.Json
