import SqlFilter.Code.Operation
import SqlFilter.Code.Pattern

/-!
# Operands in code

The rules for what operators stand between: literals, paths, groups, closures, branches and loops,
with the signs in front of them and the calls, fields and indices behind them.

* `Grammar.atomRule` takes an operand by itself, and `Grammar.operandRule` one with signs in front
  and all that follows it;
* `Grammar.trailers` takes what follows an operand;
* `Grammar.arms` goes through the arms of a branch by patterns.

What begins with a word that the language does not know yet stays as it is written.
-/

namespace SqlFilter.Code.Grammar
open Step

/-! ## What tokens begin with -/

/-- The signs that an expression may begin with, each with longer signs that it does not begin
with. -/
def expressionSigns : List (String × List String) :=
  [("!", ["!="]), ("-", ["-=", "->"]), ("*", ["*="]), ("|", ["|="]), ("&", ["&="]), ("..", []),
   ("<", ["<=", "<<="]), ("::", []), ("#", [])]

/-- Whether tokens begin with an expression. -/
def startsExpression (ts : Tokens) : Bool :=
  match ts with
  | [] => false
  | .sign _ _ :: _ =>
    expressionSigns.any fun (s, longer) => startsSign s ts && !longer.any (startsSign · ts)
  | _ => true

/-- Whether tokens begin with a closure for all lifetimes. -/
def startsBoundClosure (ts : Tokens) : Bool := startsName "for" ts && startsParameters (ts.drop 1)

/-- Whether tokens begin with a block that is run later. -/
def startsAsyncBlock (ts : Tokens) : Bool :=
  startsName "async" ts &&
    (startsGroup .curly (ts.drop 1) ||
      (startsName "move" (ts.drop 1) && startsGroup .curly (ts.drop 2)))

/-- Whether tokens begin with a given word and a block. -/
def startsBlockOf (name : String) (ts : Tokens) : Bool :=
  startsName name ts && startsGroup .curly (ts.drop 1)

/-- Whether tokens begin with a closure. -/
def startsClosure (ts : Tokens) : Bool :=
  startsSign "|" ts || startsNameOf ["move", "static"] ts || startsBoundClosure ts ||
    (startsName "const" ts && !startsBlockOf "const" ts) ||
    (startsName "async" ts && (startsSign "|" (ts.drop 1) || startsName "move" (ts.drop 1)))

/-- Whether tokens begin with what only the language itself can define. -/
def startsBuiltin (ts : Tokens) : Bool := startsName "builtin" ts && startsSign "#" (ts.drop 1)

/-- Whether tokens begin with a path, perhaps behind a type in angle brackets. -/
def startsPath (ts : Tokens) : Bool :=
  startsPlainPath ts || startsSign "<" ts ||
    (startsName "try" ts && (startsSign "!" (ts.drop 1) || startsSign "::" (ts.drop 1)))

/-- Whether tokens begin with an expression that ends a statement with its block. -/
def startsBlockForm (ts : Tokens) : Bool :=
  startsNameOf ["if", "while", "loop", "match", "unsafe"] ts || startsLifetime ts ||
    (startsName "for" ts && !startsBoundClosure ts) || startsBlockOf "try" ts ||
    startsBlockOf "const" ts || startsGroup .curly ts

/-! ## What follows an operand -/

/-- A field or a method behind a point. -/
def selected (g : Grammar) : Step :=
  seq [fieldName,
    when (startsSign "::") (seq [sign "::", g.arguments]),
    when (startsGroup .round) (group .round g.expressions)]

/-- The fields behind a point.  A number with a point in it names a field of a field. -/
def selection (g : Grammar) : Step := fun ts =>
  match ts with
  | .literal number :: rest =>
    let indices := (Text.splitOn '.' number).filter (· ≠ [])
    let named := [Token.sign '.' false].intercalate (indices.map fun i => [index i])
    if number.getLast? = some '.' then
      let (field, rest) := g.selected rest
      (named ++ .sign '.' false :: field, rest)
    else (named, rest)
  | _ => g.selected ts

/-- One thing that follows an operand: arguments, an index, a field, or a question mark. -/
def trailer (g : Grammar) : Step :=
  either startsPoint (seq [apart 1, g.selection])
    (either (startsSign "?") (apart 1)
      (either (startsGroup .round) (group .round g.expressions)
        (group .square (whole (g.expression true)))))

/-- Whether one thing follows an operand of a given form. -/
def startsTrailer (form : Form) (ts : Tokens) : Bool :=
  startsGroup .round ts || startsGroup .square ts ||
    (form ≠ .range && (startsPoint ts || startsSign "?" ts))

/-- An operand with all that follows it. -/
def trailers (g : Grammar) (e : Found) : Found :=
  if startsTrailer e.form e.rest then
    { e with form := .plain }.andThen (repeated (startsTrailer .plain) g.trailer)
  else e

/-! ## Groups and paths -/

/-- The items of an array, or one item and the number of times that it is repeated. -/
def arrayItems (g : Grammar) : Tokens → Tokens :=
  listed (seq [g.expression true, sign ";"])

/-- A field with its value, or the two points in front of where all others come from. -/
def fieldValue (g : Grammar) : Step :=
  either (startsSign "..") (seq [sign "..", when (!·.isEmpty) (g.expression true)])
    (seq [g.marks, fieldName, when (startsSign ":") (seq [apart 1, g.expression true])])

/-- A path, perhaps with a macro call or with fields; `braces` says whether there may be fields. -/
def pathOperand (g : Grammar) (braces : Bool) : Step := fun ts =>
  let isQualified := startsSign "<" ts
  seq [g.qualifiedPath .expression,
    either (fun ts => !isQualified && startsCallMark ts) macroCall
      (when (fun _ => braces) (group .curly (listed g.fieldValue)))] ts

/-! ## Closures -/

/-- A parameter of a closure, perhaps with a type.  A boxed pattern loses its marks. -/
def closureParameter (g : Grammar) : Step := fun ts =>
  let (marks, rest) := g.marks ts
  let (parameter, after) := g.pattern rest
  let (type, after) := when (startsSign ":") (seq [apart 1, g.type true]) after
  ((if startsName "box" rest && type.isEmpty then [] else marks) ++ parameter ++ type, after)

/-- A closure; `braces` says whether curly brackets may follow a path in it. -/
def closure (g : Grammar) (braces : Bool) : Step :=
  seq [g.binder, word "const", word "static", word "async", word "move", apart 1,
    repeated (fun ts => !ts.isEmpty && !startsSign "|" ts) (seq [g.closureParameter, sign ","]),
    apart 1,
    either (startsSign "->") (seq [sign "->", g.type true, g.block]) (g.expression braces)]

/-! ## Branches and loops -/

/-- A branch by conditions, with at most so many of them. -/
def conditionalFrom (g : Grammar) : Nat → Step
  | 0 => skip
  | n + 1 =>
    seq [apart 1, g.expression false, g.block,
      when (startsName "else")
        (seq [apart 1, either (startsName "if") (g.conditionalFrom n) g.block])]

/-- A branch by conditions. -/
def conditional (g : Grammar) : Step := fun ts => g.conditionalFrom ts.length ts

/-- A pattern and where its value comes from. -/
def binding (g : Grammar) (braces : Bool) : Step := fun ts =>
  let (pattern, rest) := seq [apart 1, g.choice, sign "="] ts
  let value := g.operation braces .comparison (g.operand braces rest)
  (value.after pattern).toStep

/-- A loop or a block, which may have a label. -/
def loopForm (g : Grammar) : Step :=
  either (startsName "while") (seq [apart 1, g.expression false, g.block])
    (either (startsName "for")
      (seq [apart 1, g.choice, word "in", g.expression false, g.block])
      (seq [word "loop", g.block]))

/-! ## Where an expression ends early -/

/-- An expression that is a statement, or the body of an arm.  One that ends with its block goes on
only with a field or a question mark.  Marks in front of what stays as it is written are lost. -/
def bounded (g : Grammar) (ts : Tokens) : Found :=
  let (marks, rest) := g.marks ts
  if startsBlockForm rest then
    let e := (g.atom true rest).after marks
    if startsPoint e.rest || startsSign "?" e.rest then g.operation true .jump (g.trailers e) else e
  else
    let e := g.operand true rest
    g.operation true .jump (if e.form = .written then e else e.after marks)

/-- An arm of a branch by patterns. -/
def arm (g : Grammar) : Step :=
  seq [g.marks, g.choice, when (startsName "if") (seq [apart 1, g.expression true]), sign "=>",
    fun ts => (g.bounded ts).toStep, sign ","]

/-- The arms of a branch by patterns. -/
def arms (g : Grammar) : Tokens → Tokens :=
  whole (seq [g.innerMarks, repeated (!·.isEmpty) g.arm])

/-- A branch by patterns. -/
def selectionByPattern (g : Grammar) : Step :=
  seq [apart 1, g.expression false, group .curly g.arms]

/-! ## Operands that begin with a keyword -/

/-- A value that may follow a keyword. -/
def optionalValue (g : Grammar) : Step := when startsExpression (g.expression true)

/-- An operand that begins with a keyword, if it does. -/
def keywordOperand? (g : Grammar) (braces : Bool) (ts : Tokens) : Option Step :=
  let rules : List (String × Step) :=
    [("break", seq [apart 1, when startsLifetime (apart 1),
        when (fun ts => braces || !startsGroup .curly ts) g.optionalValue]),
     ("continue", seq [apart 1, when startsLifetime (apart 1)]),
     ("return", seq [apart 1, g.optionalValue]),
     ("yield", seq [apart 1, g.optionalValue]),
     ("let", g.binding braces),
     ("if", g.conditional),
     ("while", g.loopForm),
     ("for", g.loopForm),
     ("loop", g.loopForm),
     ("match", g.selectionByPattern),
     ("unsafe", seq [apart 1, g.block]),
     ("const", seq [apart 1, g.block]),
     ("try", seq [apart 1, g.block]),
     ("_", apart 1),
     ("true", apart 1),
     ("false", apart 1)]
  (rules.find? fun (name, _) => startsName name ts).map (·.2)

/-! ## The rules -/

/-- The signs and words in front of an operand that is referred to. -/
def referenceSign : Step := fun ts =>
  let next := ts.drop 1
  if startsName "raw" next && startsNameOf ["mut", "const"] (next.drop 1) then apart 3 ts
  else seq [apart 1, word "mut"] ts

/-- An operand by itself; `braces` says whether curly brackets may follow a path. -/
def atomRule (g : Grammar) (braces : Bool) (ts : Tokens) : Found :=
  if startsAsyncBlock ts then .ofStep (seq [apart 1, word "move", g.block]) ts
  else if startsClosure ts then .ofStep (g.closure braces) ts
  else if startsBuiltin ts then ⟨.written, ts.take 4, ts.drop 4⟩
  else if startsPath ts then .ofStep (g.pathOperand braces) ts
  else if startsName "become" ts then
    let (done, rest) := asWritten (seq [apart 1, g.expression true]) ts
    ⟨.written, done, rest⟩
  else if startsSign ".." ts then g.openRange braces [] ts
  else
    match g.keywordOperand? braces ts, ts with
    | some step, _ => .ofStep step ts
    | none, .literal _ :: _ => .ofStep (apart 1) ts
    | none, .lifetime _ :: _ => .ofStep (seq [apart 2, g.loopForm]) ts
    | none, .group .round _ :: _ => .ofStep (group .round g.expressions) ts
    | none, .group .square _ :: _ => .ofStep (group .square g.arrayItems) ts
    | none, _ => .ofStep g.block ts

/-- An operand with the marks and signs in front of it and all that follows it.  What stays as it is
written does so with its marks. -/
def operandRule (g : Grammar) (braces : Bool) (ts : Tokens) : Found :=
  let (marks, rest) := g.marks ts
  if startsSign "&" rest then
    let (signs, rest) := referenceSign rest
    { (g.operand braces rest).after (marks ++ signs) with form := .plain }
  else if ["*", "!", "-"].any (startsSign · rest) then
    let (signs, rest) := apart 1 rest
    { (g.operand braces rest).after (marks ++ signs) with form := .plain }
  else
    let e := g.trailers (g.atom braces rest)
    if e.form = .written then ⟨.written, ts.take (ts.length - e.rest.length), e.rest⟩
    else e.after marks

end SqlFilter.Code.Grammar
