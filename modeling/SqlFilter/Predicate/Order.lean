import SqlFilter.Predicate.Build

/-!
# Order clauses

A sort text lists aliases with a sign, separated by semicolons: `+name;-age`.  Plus sorts upwards
and minus downwards.  `Builder.buildOrder` turns it into the columns of an order clause; the first
malformed token or unknown alias is the failure.  The empty sort text asks for no order.
-/

namespace SqlFilter

/-- The direction of a sort. -/
inductive Direction where
  | ascending
  | descending
  deriving Repr, DecidableEq

namespace Direction

/-- The keyword of a direction. -/
def keyword : Direction → Text
  | ascending => "ASC".toList
  | descending => "DESC".toList

/-- The direction that is used when none is chosen. -/
def standard : Direction := ascending

/-- The direction of a sign. -/
def ofSign? : Char → Option Direction
  | '+' => some ascending
  | '-' => some descending
  | _ => none

end Direction

/-- The columns of an order clause, without its keyword. -/
structure OrderClause where
  /-- The text; it is empty when no order is asked for. -/
  sql : Text := []
  deriving Repr, DecidableEq

namespace Builder

/-- The item of an order clause that a token asks for. -/
def orderItem (b : Builder) (token : Text) : Except Error Text :=
  match token with
  | [] => .error (.invalidOrderBy token)
  | sign :: aliasName =>
    match Direction.ofSign? sign, aliasName with
    | some direction, _ :: _ =>
      match b.catalog.resolve? aliasName with
      | some f => .ok (b.column f ++ ' ' :: direction.keyword)
      | none => .error (.invalidOrderBy token)
    | _, _ => .error (.invalidOrderBy token)

/-- The order clause of a sort text. -/
def buildOrder (b : Builder) (sort : Text) : Except Error OrderClause :=
  if sort = [] then .ok {}
  else
    ((Text.splitOn ';' sort).mapM b.orderItem).map fun items =>
      ⟨Text.joinWith ", ".toList items⟩

end Builder
end SqlFilter
