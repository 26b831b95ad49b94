import SqlFilter.Json.Scalar
import SqlFilter.Time.Printed
import SqlFilter.Time.Reading
import SqlFilter.Value.Basic

/-!
# Bound values in JSON

A bound value is written as a number or a string without any mark of its kind, and read back by
trying the kinds in turn.

* `SqlValue.toScalar?` is the JSON form of a value; floating-point numbers have no exact one here;
* `SqlValue.ofScalar?` finds the value of a JSON form: a whole number of 64 bits, a floating-point
  number, an instant, a text;
* `SqlValue.readJson?` reads a value from a JSON text.
-/

namespace SqlFilter.SqlValue
open Json (Scalar)

/-- The JSON form of a value, where it is exact. -/
def toScalar? : SqlValue → Option Scalar
  | int n => some (.integer n)
  | float _ => none
  | instant t => some (.text t.print)
  | text s => some (.text s)

/-- The value of a JSON form.  A whole number that does not fit 64 bits with a sign becomes the
nearest floating-point number, any other number the one that its significand is scaled to, and a
string that reads as an instant becomes that instant. -/
def ofScalar? : Scalar → Option SqlValue
  | .integer n =>
    if Numeral.fitsInt64 n then some (int n)
    else (Binary64.ofDecimal? ⟨n < 0, n.natAbs, 0⟩).map float
  | .decimal d => (Binary64.ofScaled? d).map float
  | .text s =>
    match Instant.readLenient? s with
    | some t => some (instant t)
    | none => some (text s)

/-- Reads a value from a JSON text. -/
def readJson? (t : Text) : Option SqlValue := (Scalar.read? t).bind ofScalar?

end SqlFilter.SqlValue
