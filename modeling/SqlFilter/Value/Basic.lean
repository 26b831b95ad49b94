import SqlFilter.Numeral.Binary64
import SqlFilter.Time.Instant

/-!
# Bound values

`SqlValue` is a value that is bound to a placeholder.  The functions `SqlValue.int?` and its kin
look into a value and give nothing when it is of another kind.
-/

namespace SqlFilter

/-- A value that is bound to a placeholder. -/
inductive SqlValue where
  /-- A whole number of 64 bits. -/
  | int (n : Int)
  /-- A floating-point number. -/
  | float (x : Binary64)
  /-- A point in time. -/
  | instant (t : Instant)
  /-- A text. -/
  | text (s : Text)
  deriving DecidableEq

namespace SqlValue

/-- The whole number, if it is one. -/
def int? : SqlValue → Option Int
  | int n => some n
  | _ => none

/-- The floating-point number, if it is one. -/
def float? : SqlValue → Option Binary64
  | float x => some x
  | _ => none

/-- The point in time, if it is one. -/
def instant? : SqlValue → Option Instant
  | instant t => some t
  | _ => none

/-- The text, if it is one. -/
def text? : SqlValue → Option Text
  | text s => some s
  | _ => none

end SqlValue
end SqlFilter
