import SqlFilter.Code.Definition

/-!
# Statements in code

The rules for the statements of a block: definitions, bindings, macro calls and expressions.

* `Grammar.startsItem` says whether a statement is a definition;
* `Grammar.statement` takes a statement;
* `Grammar.statementsRule` goes through all statements of a block.
-/

namespace SqlFilter.Code.Grammar
open Step

/-! ## What statements begin with -/

/-- What follows the path of a macro and its exclamation mark that tokens begin with. -/
def afterMacroPath? (ts : Tokens) : Option Tokens :=
  let (path, rest) := plainPath ts
  if startsPlainPath ts && !path.isEmpty && startsSign "!" rest then some (rest.drop 1) else none

/-- Whether tokens begin with a macro call that is a statement of its own: it ends with its curly
brackets. -/
def startsMacroStatement (ts : Tokens) : Bool :=
  (afterMacroPath? ts).any fun body =>
    startsGroup .curly body && !startsPoint (body.drop 1) && !startsSign "?" (body.drop 1)

/-- Whether tokens begin with a macro call that defines a name. -/
def startsMacroItem (ts : Tokens) : Bool :=
  (afterMacroPath? ts).any fun body => startsFreeName body || startsName "try" body

/-- Whether tokens begin with a definition. -/
def startsItem (ts : Tokens) : Bool :=
  let next := ts.drop 1
  startsNameOf ["pub", "extern", "use", "fn", "mod", "type", "struct", "enum", "trait", "impl",
    "macro"] ts ||
    (startsName "crate" ts && !startsSign "::" next) ||
    (startsName "static" ts && (startsName "mut" next || startsFreeName next)) ||
    (startsName "const" ts &&
      !(startsGroup .curly next || startsNameOf ["static", "move"] next || startsSign "|" next ||
        (startsName "async" next && !startsNameOf ["unsafe", "extern", "fn"] (next.drop 1)))) ||
    (startsName "unsafe" ts && !startsGroup .curly next) ||
    (startsName "async" ts && startsNameOf ["unsafe", "extern", "fn"] next) ||
    startsUnion ts ||
    startsAutoTrait ts ||
    (startsName "default" ts && startsNameOf ["unsafe", "impl"] next) ||
    startsMacroItem ts

/-! ## The rules -/

/-- A binding: a pattern, perhaps with a type, and perhaps with a value and what happens if the
pattern does not fit it. -/
def localBinding (g : Grammar) : Step :=
  seq [apart 1, g.pattern, when (startsSign ":") (seq [apart 1, g.type true]),
    when (startsSign "=")
      (seq [apart 1, g.expression true, when (startsName "else") (seq [apart 1, g.block])]),
    semicolon]

/-- An expression as a statement behind its marks.  Marks in front of what stays as it is written
are lost. -/
def expressionStatement (g : Grammar) (marks : Tokens) : Step := fun ts =>
  let e := g.bounded ts
  ((if e.form = .written then e else e.after marks).andThen semicolon).toStep

/-- A statement. -/
def statement (g : Grammar) : Step := fun ts =>
  let (marks, rest) := g.marks ts
  if startsSign ";" ts then apart 1 ts
  else if startsMacroStatement rest then
    Attempt.settle ts marks (.ofStep (seq [plainPath, macroCall, semicolon])) rest
  else if startsName "let" rest then Attempt.settle ts marks (.ofStep g.localBinding) rest
  else if startsItem rest then Attempt.settle ts marks g.item rest
  else g.expressionStatement marks rest

/-- All statements of a block. -/
def statementsRule (g : Grammar) : Tokens → Tokens :=
  whole (seq [g.innerMarks, repeated (!·.isEmpty) g.statement])

end SqlFilter.Code.Grammar
