import SqlFilter.Catalog.Basic
import SqlFilter.Dialect.Preset
import SqlFilter.Expression.Event
import SqlFilter.Predicate.Negotiation

/-!
# Predicates

A filter expression becomes a condition in SQL with placeholders for its values.

* `Predicate` is the text of the condition, in one outermost pair of parentheses, with the values
  in the order of their placeholders;
* `Builder` says how predicates are built: by which catalog, in which profile, and with which table
  for columns that have none;
* `Pass` is the state of a walk over an expression and `Pass.step` takes in one event;
* `Builder.build` runs the walk.  An error does not stop it: all errors are reported together, and
  then there is no predicate.
-/

namespace SqlFilter

/-- A condition and the values of its placeholders. -/
structure Predicate where
  /-- The text of the condition. -/
  sql : Text
  /-- The values in the order of their placeholders. -/
  params : List SqlValue
  deriving DecidableEq

/-- How predicates and order clauses are built. -/
structure Builder where
  /-- The fields that can be named. -/
  catalog : Catalog
  /-- The lexical rules of the engine. -/
  profile : Profile := Profile.standard
  /-- The table of columns that have no qualifier of their own. -/
  table : Option Text := none
  deriving DecidableEq

/-- The column reference of a field. -/
def Builder.column (b : Builder) (f : Field) : Text :=
  b.profile.column (f.qualifier.or b.table) f.column

/-! ## The walk -/

/-- A selector that waits for its comparison and its argument. -/
structure Pending where
  /-- The field of the selector. -/
  field : Field
  /-- The selector as the client wrote it. -/
  selector : Text
  /-- Whether its comparison is a pattern match. -/
  like : Bool := false
  deriving DecidableEq

/-- The state of a walk over an expression. -/
structure Pass where
  /-- The text so far. -/
  sql : Text := []
  /-- The values so far. -/
  params : List SqlValue := []
  /-- The errors so far. -/
  errors : ErrorList := {}
  /-- The selector that waits for its comparison and argument. -/
  pending : Option Pending := none

/-- The test that a comparison is written as, with a space on either side.  Equality with a text is
a pattern match. -/
def Comparison.test (c : Comparison) (type : FieldType) : Text :=
  match c with
  | .equal => if type = .text then " LIKE ".toList else " = ".toList
  | .notEqual => " <> ".toList
  | .greater => " > ".toList
  | .greaterOrEqual => " >= ".toList
  | .less => " < ".toList
  | .lessOrEqual => " <= ".toList

/-- Whether a comparison is written as a pattern match. -/
def Comparison.isLike (c : Comparison) (type : FieldType) : Bool := c = .equal && type = .text

namespace Pass

/-- The state with more text. -/
def write (s : Pass) (t : Text) : Pass := { s with sql := s.sql ++ t }

/-- Takes in a selector: its column is written, and unless it stands alone it waits.  An unknown
selector is an error, and what follows it is passed over. -/
def onSelector (b : Builder) (s : Pass) (name : Text) (unary : Bool) : Pass :=
  match b.catalog.resolve? name with
  | none => { s with errors := s.errors.push (.invalidSelector name), pending := none }
  | some field =>
    let s := s.write (b.column field)
    if unary then { s.write " IS NOT NULL".toList with pending := none }
    else { s with pending := some { field, selector := name } }

/-- Takes in the comparison of the selector that waits. -/
def onComparison (s : Pass) (c : Comparison) : Pass :=
  match s.pending with
  | none => s
  | some p =>
    { s.write (c.test p.field.type) with
      pending := some { p with like := p.like || c.isLike p.field.type } }

/-- Takes in the argument of the selector that waits: its value is bound and its placeholder
written, as a pattern where a text is matched with wildcards. -/
def onArgument (b : Builder) (now : Instant) (s : Pass) (a : Argument) : Pass :=
  match s.pending with
  | none => s
  | some p =>
    match negotiate now p.selector p.field.type a with
    | .error e => { s with errors := s.errors.push e, pending := none }
    | .ok negotiated =>
      let params := s.params ++ [negotiated.value]
      let placeholder := b.profile.placeholders.placeholder params.length
      let wild := negotiated.asText && p.like
      let operand := b.profile.concatenation.pattern placeholder
        (wild && a.leading) (wild && a.trailing)
      { s.write operand with params, pending := none }

/-- Takes in one event. -/
def step (b : Builder) (now : Instant) (s : Pass) : Event → Pass
  | .enter => s.write ['(']
  | .leave => s.write [')']
  | .join joiner => s.write joiner.keyword
  | .select name unary => s.onSelector b name unary
  | .compare c => s.onComparison c
  | .operand a => s.onArgument b now a

end Pass

/-- The events of an expression as a group: a constraint that is the whole filter gets a group of
its own. -/
def Expression.groupEvents : Expression → List Event
  | .constraint c => .enter :: c.events ++ [.leave]
  | e => e.events

/-- The predicate of an expression, where spans are counted from `now`. -/
def Builder.build (b : Builder) (now : Instant) (e : Expression) : Except Error Predicate :=
  let done := e.groupEvents.foldl (Pass.step b now) {}
  done.errors.finish ⟨done.sql, done.params⟩

end SqlFilter
