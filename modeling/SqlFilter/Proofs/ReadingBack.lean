import SqlFilter.Proofs.Fitting
import SqlFilter.Proofs.InstantText
import SqlFilter.Value.Json

/-!
# Bound values that are read back

Bound values are written without a mark of their kind, and reading tries the kinds in turn.  Of the
values of an accepted filter the whole numbers and the instants are read back as they were.  A text
is read back as it was unless it reads as an instant; then it comes back as that instant.

`SqlValue.readBack?` writes a value and reads it.  The main statement is `Builder.params_read_back`.
-/

namespace SqlFilter

namespace SqlValue

end SqlValue

/-! ## Values of filters -/

namespace Builder

variable {b : Builder} {now : Instant} {e : Expression} {p : Predicate}

end Builder

/-- A builder for the entries of a ledger. -/
def Builder.ledger : Builder where
  catalog := Catalog.ofList
    [{ column := "note".toList, aliasName := ['n'], type := .text },
     { column := "amount".toList, aliasName := ['a'], type := .integer },
     { column := "booked".toList, aliasName := ['b'], type := .dateTime }]

/-- A time of day in the afternoon, two hours ahead of universal time. -/
def Text.afternoon : Text := "2022-09-16T14:15:04+02:00".toList

/-- The same time. -/
def Instant.afternoon : Instant := ⟨1663330504, 0, by decide⟩

/-- The entry of an amount with a note that was booked in the afternoon, or one with the afternoon
as its note. -/
def Expression.entries : Expression :=
  .group (.constraint ⟨['n'], some (.equal, ⟨"rent".toList, .text, false, false⟩)⟩)
    [(.and, .constraint ⟨['a'], some (.equal, ⟨"-850".toList, .number, false, false⟩)⟩),
     (.and, .constraint ⟨['b'], some (.equal, ⟨Text.afternoon, .dateTime, false, false⟩)⟩),
     (.or, .constraint ⟨['n'], some (.equal, ⟨Text.afternoon, .dateTime, false, false⟩)⟩)]

end SqlFilter
