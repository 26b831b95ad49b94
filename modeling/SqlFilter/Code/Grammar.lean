import SqlFilter.Code.Angled
import SqlFilter.Code.Operator

/-!
# Grammars

Types hold expressions, expressions hold types, patterns and statements, and these hold definitions.
A `Code.Grammar` has a step for each kind of code that others refer to.  The rules of a grammar are
functions of such a record, which stands for all that is nested more deeply.

* `Found` is an expression with what follows it;
* `Grammar.expression` and `Grammar.block` take expressions and blocks;
* `Grammar.marks` takes the marks in front of something.
-/

namespace SqlFilter.Code

/-! ## Expressions that are found -/

/-- What matters about an expression for what comes before and behind it. -/
inductive Form where
  /-- Nothing. -/
  | plain
  /-- It is a range, which no operator may follow. -/
  | range
  /-- Its first operand stays as it is written. -/
  | written
  deriving Repr, DecidableEq

/-- An expression with what follows it. -/
structure Found where
  /-- What matters about it. -/
  form : Form
  /-- Its printed form. -/
  tokens : Tokens
  /-- What follows it. -/
  rest : Tokens

namespace Found

/-- An expression that a step takes. -/
def ofStep (step : Step) (ts : Tokens) : Found :=
  let (done, rest) := step ts
  ⟨.plain, done, rest⟩

/-- The expression with tokens in front. -/
def after (tokens : Tokens) (e : Found) : Found := { e with tokens := tokens ++ e.tokens }

/-- The expression followed by what a step takes.  Its form is kept. -/
def andThen (e : Found) (step : Step) : Found :=
  let (done, rest) := step e.rest
  { e with tokens := e.tokens ++ done, rest }

/-- The expression as a step would take it. -/
def toStep (e : Found) : Tokens × Tokens := (e.tokens, e.rest)

end Found

/-! ## Grammars -/

/-- What members stand in. -/
inductive Setting where
  /-- A module or a block. -/
  | module
  /-- A trait. -/
  | trait
  /-- An implementation. -/
  | implementation
  /-- Declarations of what is defined elsewhere. -/
  | foreign
  deriving Repr, DecidableEq

/-- The steps that the rules for the various kinds of code refer to. -/
structure Grammar where
  /-- A type; the condition says whether it may have several bounds. -/
  type : Bool → Step
  /-- A bound of a type. -/
  bound : Step
  /-- A pattern without alternatives. -/
  pattern : Step
  /-- An operand without signs in front and without what follows it; the condition says whether
  curly brackets may follow a path. -/
  atom : Bool → Tokens → Found
  /-- An operand. -/
  operand : Bool → Tokens → Found
  /-- An operand with the operators behind it that bind at least as strongly as a given one. -/
  operation : Bool → Precedence → Found → Found
  /-- All statements of a block. -/
  statements : Tokens → Tokens
  /-- All members of a definition. -/
  members : Setting → Tokens → Tokens

namespace Grammar
open Step

/-- The grammar that takes nothing. -/
def empty : Grammar where
  type _ := skip
  bound := skip
  pattern := skip
  atom _ := Found.ofStep skip
  operand _ := Found.ofStep skip
  operation _ _ e := e
  statements ts := ts
  members _ ts := ts

/-- An expression; `braces` says whether curly brackets may follow a path in it. -/
def expression (g : Grammar) (braces : Bool) : Step :=
  fun ts => (g.operation braces .jump (g.operand braces ts)).toStep

/-- A block. -/
def block (g : Grammar) : Step := group .curly g.statements

/-- Expressions with commas between them. -/
def expressions (g : Grammar) : Tokens → Tokens := listed (g.expression true)

/-! ## Marks -/

/-- What a mark says: a path, and what is in brackets or behind an equals sign.  Nothing is changed
in brackets. -/
def markContent (g : Grammar) : Tokens → Tokens :=
  whole (seq [word "unsafe", plainPath,
    when (startsSign "=") (seq [apart 1, g.expression true])])

/-- A mark: a number sign, perhaps an exclamation mark, and a group in square brackets. -/
def mark (g : Grammar) : Step := seq [apart 1, sign "!", group .square g.markContent]

/-- All marks in front of something. -/
def marks (g : Grammar) : Step := repeated (startsSign "#") g.mark

/-- Whether tokens begin with a mark of what surrounds them. -/
def startsInnerMark : Tokens → Bool
  | .sign '#' _ :: .sign '!' _ :: .group .square _ :: _ => true
  | _ => false

/-- All marks of what surrounds the tokens. -/
def innerMarks (g : Grammar) : Step := repeated startsInnerMark g.mark

end Grammar
end SqlFilter.Code
