import SqlFilter.Expression.Tree

/-!
# Events

A walk over a filter expression, depth first and from left to right, meets a sequence of events.
`Expression.events` lists them.  A selector with a comparison is followed by that comparison and
then by its argument.
-/

namespace SqlFilter

/-- One step of a walk over a filter expression. -/
inductive Event where
  /-- A group begins. -/
  | enter
  /-- A group ends. -/
  | leave
  /-- Between two operands of a group. -/
  | join (joiner : Joiner)
  /-- A selector; `unary` when no comparison follows. -/
  | select (name : Text) (unary : Bool)
  /-- The comparison of the selector before it. -/
  | compare (comparison : Comparison)
  /-- The argument of the comparison before it. -/
  | operand (argument : Argument)
  deriving Repr, DecidableEq

/-- The events of a constraint. -/
def Constraint.events (c : Constraint) : List Event :=
  match c.comparison with
  | none => [.select c.selector true]
  | some (comparison, argument) =>
    [.select c.selector false, .compare comparison, .operand argument]

namespace Expression

mutual

/-- The events of a walk over an expression. -/
def events : Expression → List Event
  | constraint c => c.events
  | group first rest => .enter :: events first ++ restEvents rest ++ [.leave]

/-- The events of the operands after the first, each with what joins it. -/
def restEvents : List (Joiner × Expression) → List Event
  | [] => []
  | (joiner, operand) :: rest => .join joiner :: events operand ++ restEvents rest

end

end Expression
end SqlFilter
