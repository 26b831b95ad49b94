import SqlFilter.Numeral.Binary64
import SqlFilter.Time.Reading
import SqlFilter.Time.Span

/-!
# Arguments

The right-hand side of a comparison, as the client wrote it.

* `Argument` is a literal with the kind of value it looks like and a wildcard flag at either end;
* `Argument.infer` classifies a raw text by its shape alone, so that a misspelt date is still a
  date and fails when it is converted;
* `Argument.toInt`, `Argument.toFloat`, `Argument.toInstant` and `Argument.toSpan` convert the
  literal, whatever its kind, or say what it is not.
-/

namespace SqlFilter

/-- What kind of value a literal looks like. -/
inductive ValueKind where
  /-- Free text. -/
  | text
  /-- A whole or decimal number. -/
  | number
  /-- A date, or a date and time. -/
  | dateTime
  /-- A span of time. -/
  | span
  deriving Repr, DecidableEq

/-- A literal that does not denote a value of the kind asked for. -/
structure ConversionError where
  /-- The literal. -/
  literal : Text
  /-- The name of the kind asked for. -/
  target : Text
  deriving Repr, DecidableEq

/-- The wording of a failed conversion. -/
def ConversionError.message (e : ConversionError) : Text :=
  "`".toList ++ e.literal ++ "` is not a valid ".toList ++ e.target

/-- The right-hand side of a comparison. -/
structure Argument where
  /-- The literal without its wildcards. -/
  literal : Text
  /-- What the literal looks like. -/
  kind : ValueKind
  /-- Whether any text may stand before the literal. -/
  leading : Bool := false
  /-- Whether any text may stand after the literal. -/
  trailing : Bool := false
  deriving Repr, DecidableEq

namespace Argument

/-! ## Shapes -/

/-- Whether a character can stand behind the P of a span. -/
def isSpanChar (c : Char) : Bool := c.isDigit || c = '.' || "YMWDTHS".toList.contains c

/-- Whether a text has the shape of a span: an optional sign, the letter P, and behind it digits,
points and unit letters with at least one digit. -/
def looksLikeSpan (raw : Text) : Bool :=
  match (Numeral.cutSign raw).2 with
  | 'P' :: body => body.any Char.isDigit && body.all isSpanChar
  | _ => false

/-- Whether a text has the shape of a date, with nothing or the letter T behind it. -/
def looksLikeDateTime : Text → Bool
  | y₁ :: y₂ :: y₃ :: y₄ :: '-' :: m₁ :: m₂ :: '-' :: d₁ :: d₂ :: rest =>
    [y₁, y₂, y₃, y₄, m₁, m₂, d₁, d₂].all Char.isDigit &&
      match rest with
      | [] => true
      | c :: _ => c = 'T'
  | _ => false

/-- Whether a text has the shape of a number: an optional sign, a digit or a point, and the whole
behind the sign a numeral whose value is finite. -/
def looksLikeNumber (raw : Text) : Bool :=
  match (Numeral.cutSign raw).2 with
  | [] => false
  | c :: rest => (c.isDigit || c = '.') && (Binary64.read? (c :: rest)).isSome

/-! ## Classification -/

/-- Takes a star off the front. -/
def cutLeadingStar : Text → Bool × Text
  | '*' :: rest => (true, rest)
  | t => (false, t)

/-- Takes a star off the end. -/
def cutTrailingStar (t : Text) : Bool × Text :=
  match t.getLast? with
  | some '*' => (true, t.dropLast)
  | _ => (false, t)

/-- Classifies a raw literal: a span, a date or a number if it has the shape of one, and otherwise
text, whose star at either end becomes a wildcard.  A lone star is a leading one. -/
def infer (raw : Text) : Argument :=
  if looksLikeSpan raw then { literal := raw, kind := .span }
  else if looksLikeDateTime raw then { literal := raw, kind := .dateTime }
  else if looksLikeNumber raw then { literal := raw, kind := .number }
  else
    let (leading, rest) := cutLeadingStar raw
    let (trailing, rest) := cutTrailingStar rest
    { literal := rest, kind := .text, leading, trailing }

/-- The literal with a star for each wildcard. -/
def print (a : Argument) : Text :=
  (if a.leading then ['*'] else []) ++ a.literal ++ (if a.trailing then ['*'] else [])

/-! ## Conversion -/

/-- What was read, or the failure to read it. -/
def converted {α : Type} (literal target : Text) : Option α → Except ConversionError α
  | some value => .ok value
  | none => .error ⟨literal, target⟩

/-- The literal as a whole number of 64 bits. -/
def toInt (a : Argument) : Except ConversionError Int :=
  converted a.literal "integer".toList (Numeral.int64? a.literal)

/-- The literal as a finite floating-point number. -/
def toFloat (a : Argument) : Except ConversionError Binary64 :=
  converted a.literal "float".toList (Binary64.read? a.literal)

/-- The literal as an instant. -/
def toInstant (a : Argument) : Except ConversionError Instant :=
  converted a.literal "date-time".toList (Instant.read? a.literal)

/-- The literal as a span. -/
def toSpan (a : Argument) : Except ConversionError Span :=
  converted a.literal "duration".toList (Span.read? a.literal)

end Argument
end SqlFilter
