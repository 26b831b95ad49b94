import SqlFilter.Error
import SqlFilter.Value.Basic

/-!
# Negotiation

An argument has to fit the type of the field that it is compared with.  `negotiate` gives the value
to be bound, or the error.

* a number fits a whole-number and a floating-point field;
* a date fits a date field, and so does a span, which is counted from the reference time;
* every argument fits a text field, as the text of its literal, and only then its wildcards count;
* nothing fits a span field.
-/

namespace SqlFilter

/-- The value that an argument is bound as. -/
structure Negotiated where
  /-- The value. -/
  value : SqlValue
  /-- Whether it is bound as text, so that its wildcards count. -/
  asText : Bool
  deriving DecidableEq

/-- A span counted from the reference time. -/
def Argument.toOffsetInstant (now : Instant) (a : Argument) : Except ConversionError Instant := do
  let span ← a.toSpan
  Argument.converted a.literal "duration".toList (now.plus? span)

/-- The value of an argument that is compared with a field of the type `expected`. -/
def negotiate (now : Instant) (selector : Text) (expected : FieldType) (a : Argument) :
    Except Error Negotiated :=
  let typed (r : Except ConversionError SqlValue) : Except Error Negotiated :=
    match r with
    | .ok value => .ok ⟨value, false⟩
    | .error cause => .error (.argumentConversion selector a.print cause)
  match expected, a.kind with
  | .text, _ => .ok ⟨.text a.literal, true⟩
  | .integer, .number => typed (a.toInt.map .int)
  | .float, .number => typed (a.toFloat.map .float)
  | .dateTime, .dateTime => typed (a.toInstant.map .instant)
  | .dateTime, .span => typed ((a.toOffsetInstant now).map .instant)
  | _, _ => .error (.invalidArgumentType selector a.print expected)

end SqlFilter
