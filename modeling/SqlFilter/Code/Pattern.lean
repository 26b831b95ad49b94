import SqlFilter.Code.Type
import SqlFilter.Numeral.Digits
import SqlFilter.Numeral.Hexadecimal

/-!
# Patterns in code

The rules for patterns, of which there may be alternatives with bars between them.

* `Grammar.patternRule` takes a pattern without alternatives, `Grammar.choice` one with them;
* `Step.fieldName` takes the name or the index of a field.

A range with three points is printed with an equals sign, and a boxed pattern stays as it is
written.
-/

namespace SqlFilter.Code

/-! ## Fields -/

/-- The value of a digit of a number in a base up to sixteen. -/
def digitValue (c : Char) : Nat := (Numeral.hexDigit? c).getD 0

/-- The index that a whole number in writing stands for; underscores are no digits. -/
def indexValue (number : Text) : Nat :=
  let value (base : Nat) (digits : Text) : Nat :=
    (digits.filter (· ≠ '_')).foldl (fun n c => base * n + digitValue c) 0
  match number with
  | '0' :: 'x' :: digits => value 16 digits
  | '0' :: 'o' :: digits => value 8 digits
  | '0' :: 'b' :: digits => value 2 digits
  | digits => value 10 digits

/-- The index of a field as a token: its decimal digits. -/
def index (number : Text) : Token := .literal (Numeral.digits (indexValue number))

/-- Takes the name or the index of a field. -/
def Step.fieldName : Step := fun ts =>
  match ts with
  | .literal number :: rest => ([index number], rest)
  | _ => apart 1 ts

namespace Grammar
open Step

/-! ## Ranges -/

/-- Whether tokens begin with what follows a range without an end. -/
def endsPatternRange (ts : Tokens) : Bool :=
  ts.isEmpty || startsColon ts || startsName "if" ts || ["|", "=", ",", ";"].any (startsSign · ts)

/-- What a range may begin or end with: a constant or a path. -/
def boundary (g : Grammar) : Step :=
  either (startsName "const") (seq [apart 1, g.block])
    (either startsConstant g.constant (g.qualifiedPath .expression))

/-- The sign of a range and its end. -/
def rangeTail (g : Grammar) : Step :=
  when (startsSign "..") (seq [rangeSign, when (!endsPatternRange ·) g.boundary])

/-! ## Alternatives -/

/-- Whether tokens begin with a bar in front of an alternative. -/
def startsAlternative (ts : Tokens) : Bool :=
  startsSign "|" ts && !startsSign "||" ts && !startsSign "|=" ts

/-- A pattern with alternatives.  There may be a bar in front of it. -/
def choice (g : Grammar) : Step :=
  seq [when (startsSign "|") (apart 1), g.pattern,
    repeated startsAlternative (seq [apart 1, g.pattern])]

/-- Patterns with commas between them. -/
def choices (g : Grammar) : Tokens → Tokens := listed g.choice

/-! ## Fields and names -/

/-- The pattern of a field, or the two points in place of all others. -/
def fieldPattern (g : Grammar) : Step :=
  seq [g.marks,
    either (startsSign "..") (sign "..")
      (seq [word "box", word "ref", word "mut", fieldName,
        when (startsSign ":") (seq [apart 1, g.choice])])]

/-- A path with what may follow it in a pattern. -/
def pathPattern (g : Grammar) : Step :=
  seq [g.qualifiedPath .expression,
    either startsCallMark macroCall
      (either (startsGroup .curly) (group .curly (listed g.fieldPattern))
        (either (startsGroup .round) (group .round g.choices) g.rangeTail))]

/-- A name, perhaps with a pattern for what it stands for. -/
def namePattern (g : Grammar) : Step :=
  seq [word "ref", word "mut", apart 1, when (startsSign "@") (seq [apart 1, g.pattern])]

/-- Whether tokens begin with a pattern that is a path, or begins with one. -/
def startsPathPattern (ts : Tokens) : Bool :=
  let next := ts.drop 1
  startsNameOf ["Self", "super", "crate"] ts || startsSign "::" ts || startsSign "<" ts ||
    (startsName "self" ts && startsSign "::" next) ||
    (startsFreeName ts && (startsSign "::" next || startsSign "!" next || startsSign ".." next ||
      startsGroup .curly next || startsGroup .round next))

/-! ## The rule -/

/-- A pattern without alternatives. -/
def patternRule (g : Grammar) : Step := fun ts =>
  if startsPathPattern ts then g.pathPattern ts
  else if startsName "_" ts then apart 1 ts
  else if startsName "box" ts then asWritten (seq [apart 1, g.pattern]) ts
  else if startsConstant ts || startsNameOf ["const", "true", "false"] ts then
    seq [g.boundary, g.rangeTail] ts
  else if startsSign "&" ts then seq [apart 1, word "mut", g.pattern] ts
  else if startsSign ".." ts then g.rangeTail ts
  else
    match ts with
    | .group .round _ :: _ => group .round g.choices ts
    | .group .square _ :: _ => group .square g.choices ts
    | .word _ :: _ => g.namePattern ts
    | _ => ([], ts)

end Grammar
end SqlFilter.Code
