import SqlFilter.Expression.Operator

/-!
# Filter expressions

A filter is a tree: a group joins operands, and a constraint compares one selector with one
argument, or asks whether it is present when it has no comparison.  A group always has a first
operand, so that it is never empty.

* `Expression.constraints` lists the constraints from left to right;
* `Expression.single`, `Expression.wrap` and `Expression.copies` build groups from one expression.
-/

namespace SqlFilter

/-- A selector, possibly compared with an argument. -/
structure Constraint where
  /-- The selector as the client wrote it. -/
  selector : Text
  /-- The comparison and its argument; without them the selector is only asked for presence. -/
  comparison : Option (Comparison × Argument) := none
  deriving Repr, DecidableEq

/-- Whether a constraint has no comparison. -/
def Constraint.isUnary (c : Constraint) : Bool := c.comparison.isNone

/-- A filter expression. -/
inductive Expression where
  /-- A single constraint. -/
  | constraint (c : Constraint)
  /-- Operands in parentheses, each but the first with what joins it to those before. -/
  | group (first : Expression) (rest : List (Joiner × Expression))

namespace Expression

/-- A group of one operand. -/
def single (e : Expression) : Expression := group e []

/-- An expression inside the given number of groups of one operand. -/
def wrap : Nat → Expression → Expression
  | 0, e => e
  | n + 1, e => single (wrap n e)

/-- A group of `n + 1` copies of an expression. -/
def copies (n : Nat) (joiner : Joiner) (e : Expression) : Expression :=
  group e (List.replicate n (joiner, e))

mutual

/-- The constraints from left to right. -/
def constraints : Expression → List Constraint
  | constraint c => [c]
  | group first rest => constraints first ++ restConstraints rest

/-- The constraints of the operands after the first. -/
def restConstraints : List (Joiner × Expression) → List Constraint
  | [] => []
  | (_, operand) :: rest => constraints operand ++ restConstraints rest

end

end Expression
end SqlFilter
