import SqlFilter.Code.Grammar

/-!
# Types in code

The rules for types, for the paths and arguments that they consist of, and for their bounds.

* `Grammar.path` and `Grammar.qualifiedPath` take paths, `Grammar.typePath` one that is a type;
* `Grammar.typeRule` takes a type and `Grammar.boundRule` a bound;
* `Grammar.parameter` takes one of the parameters that angle brackets declare, and
  `Grammar.conditions` the conditions behind `where`.

A colon in front of the bounds of a parameter is printed only if there are bounds.
-/

namespace SqlFilter.Code

/-- Where a path stands. -/
inductive PathPlace where
  /-- In a type, where arguments may follow a name without a double colon. -/
  | type
  /-- In an expression or a pattern. -/
  | expression
  deriving Repr, DecidableEq

namespace Grammar
open Step

/-! ## What tokens begin with -/

/-- Whether tokens begin with the arguments of a segment of a path. -/
def startsArguments (place : PathPlace) (ts : Tokens) : Bool :=
  (place = .type && startsSign "<" ts && !startsSign "<=" ts && !startsSign "<<=" ts) ||
    (stripSign? "::".toList ts).any (startsSign "<")

/-- Whether tokens begin with parameters in round brackets, perhaps behind a double colon. -/
def startsCall (ts : Tokens) : Bool :=
  startsGroup .round ts || (stripSign? "::".toList ts).any (startsGroup .round)

/-- Whether tokens begin with something that can only be a constant. -/
def startsConstant (ts : Tokens) : Bool :=
  startsLiteral ts || startsGroup .curly ts || (startsSign "-" ts && startsLiteral (ts.drop 1))

/-- Whether tokens begin with a bound of a type. -/
def startsBound (ts : Tokens) : Bool :=
  (startsWordToken ts && !startsName "where" ts) || startsLifetime ts || startsGroup .round ts ||
    startsGroup .square ts || ["::", "?", "~"].any (startsSign · ts)

/-- Whether tokens begin with what says that a bound holds for constants. -/
def startsConstness (ts : Tokens) : Bool :=
  startsGroup .square ts || startsName "const" ts ||
    (startsSign "~" ts && startsName "const" (ts.drop 1))

/-- Whether tokens begin with parameters in angle brackets, and not with a type in them. -/
def startsParameters (ts : Tokens) : Bool :=
  let first := ts.drop 1
  let next := first.drop 1
  startsSign "<" ts &&
    (startsSign ">" first || startsSign "#" first || startsName "const" first ||
      ((startsLifetime first || startsFreeName first) &&
        (startsColon next || [">", ",", "="].any (startsSign · next))))

/-! ## Arguments -/

/-- A constant. -/
def constant (g : Grammar) : Step :=
  either (startsGroup .curly) g.block (either (startsSign "-") (apart 2) (apart 1))

/-- Bounds with plus signs between them, behind a plus sign. -/
def moreBounds (g : Grammar) : Step :=
  repeated (startsSign "+") (seq [apart 1, when startsBound g.bound])

/-- Bounds with plus signs between them. -/
def bounds (g : Grammar) : Step := seq [when startsBound g.bound, g.moreBounds]

/-- An argument: a lifetime, a constant, a type, or the name of a type that the argument is equal to
or bounds. -/
def argument (g : Grammar) : Step := fun ts =>
  if startsLifetime ts && !startsSign "+" (ts.drop 1) then apart 1 ts
  else if startsConstant ts then g.constant ts
  else
    seq [g.type true,
      when (startsSign "=") (seq [apart 1, either startsConstant g.constant (g.type true)]),
      when startsColon (seq [apart 1, g.bounds])] ts

/-- The arguments in angle brackets that tokens begin with: the parts of the list, and what
follows it. -/
def argumentList (g : Grammar) : Tokens → List Tokens × Tokens := angledParts g.argument

/-- Arguments in angle brackets. -/
def arguments (g : Grammar) : Step := fun ts =>
  let (parts, rest) := g.argumentList ts
  (angled isLifetime parts, rest)

/-- The arguments of a segment of a path.  Arguments without parts are not printed where parameters
in round brackets take their place. -/
def segmentArguments (g : Grammar) (place : PathPlace) : Step :=
  when (startsArguments place) fun ts =>
    let (colons, rest) := sign "::" ts
    let (parts, after) := g.argumentList rest
    if place = .type && noParts parts && startsCall after then ([], after)
    else (colons ++ angled isLifetime parts, after)

/-! ## Paths -/

/-- A segment of a path. -/
def segment (g : Grammar) (place : PathPlace) : Step := fun ts =>
  match ts with
  | .word w :: _ =>
    if w ∈ pathWords then apart 1 ts else seq [apart 1, g.segmentArguments place] ts
  | _ => ([], ts)

/-- More segments of a path, each behind a double colon. -/
def moreSegments (g : Grammar) (place : PathPlace) : Step :=
  repeated startsSegment (seq [sign "::", g.segment place])

/-- A path. -/
def path (g : Grammar) (place : PathPlace) : Step :=
  seq [sign "::", g.segment place, g.moreSegments place]

/-- The type in angle brackets that a path may begin with, perhaps with a trait. -/
def qualified (g : Grammar) : Step :=
  seq [apart 1, g.type true, when (startsName "as") (seq [apart 1, g.path .type]),
    when (startsSign ">") (apart 1)]

/-- A path that may begin with a type in angle brackets. -/
def qualifiedPath (g : Grammar) (place : PathPlace) : Step :=
  either (startsSign "<") (seq [g.qualified, g.moreSegments place]) (g.path place)

/-! ## Parameters that are bound -/

/-- The bounds behind a colon.  The colon is not printed if there are none. -/
def limits (g : Grammar) : Step := when (startsSign ":") fun ts =>
  let (done, rest) := g.bounds (ts.drop 1)
  (if done.isEmpty then [] else .sign ':' false :: done, rest)

/-- What a parameter in angle brackets is: a lifetime, a constant with its type, or a type. -/
def parameterHead (g : Grammar) : Step :=
  seq [g.marks,
    either (startsName "const")
      (seq [apart 2, when (startsSign ":") (seq [apart 1, g.type true])])
      (seq [when (fun ts => startsWordToken ts || startsLifetime ts) (apart 1), g.limits])]

/-- What a parameter stands for if it is not given. -/
def parameterDefault (g : Grammar) : Step :=
  when (startsSign "=") (seq [apart 1, either startsConstant g.constant (g.type true)])

/-- A parameter in angle brackets. -/
def parameter (g : Grammar) : Step := seq [g.parameterHead, g.parameterDefault]

/-- What is bound by a `for` in front of it. -/
def binder (g : Grammar) : Step := when (startsName "for") fun ts =>
  let (parts, rest) := angledParts g.parameter (ts.drop 1)
  ([.word "for".toList, .sign '<' false] ++ separated ',' parts ++ [.sign '>' false], rest)

/-! ## Functions as types -/

/-- The result behind an arrow; the condition says whether it may have several bounds. -/
def result (g : Grammar) (plus : Bool) : Step :=
  when (startsSign "->") (seq [sign "->", g.type plus])

/-- Parameters in round brackets and a result, perhaps behind a double colon, which is not
printed. -/
def call (g : Grammar) : Step := when startsCall fun ts =>
  seq [group .round (listed (g.type true)), g.result false]
    ((stripSign? "::".toList ts).getD ts)

/-- A path that is a type.  What its parameters in round brackets make may be the front of a longer
path. -/
def typePath (g : Grammar) : Step :=
  seq [g.qualifiedPath .type, repeated startsCall (seq [g.call, g.moreSegments .type])]

/-- The name of a parameter and the colon behind it. -/
def parameterName : Step := fun ts =>
  match ts with
  | .word _ :: rest => if startsColon rest then apart 2 ts else ([], ts)
  | _ => ([], ts)

/-- A parameter of a function that is a type.  One for the receiver that can be changed stays as it
is written. -/
def pointerParameter (g : Grammar) : Step :=
  seq [g.marks,
    either (fun ts => startsName "mut" ts && startsName "self" (ts.drop 1))
      (asWritten (seq [apart 2, when startsColon (seq [apart 1, g.type true])]))
      (seq [parameterName, either (startsSign "...") (sign "...") (g.type true)])]

/-- The words in front of a function that say where it is defined. -/
def abi : Step := when (startsName "extern") (seq [apart 1, when startsLiteral (apart 1)])

/-- A function that is a type. -/
def pointer (g : Grammar) : Step :=
  seq [word "unsafe", abi, word "fn", group .round (listed g.pointerParameter), g.result false]

/-! ## Bounds -/

/-- A trait that bounds a type.  A question mark is printed in front of what the bound binds, and
one that holds for constants stays as it is written. -/
def traitBound (g : Grammar) : Step := fun ts =>
  let (bound, rest) := g.binder ts
  if startsConstness rest then
    asWritten (seq [g.binder, sign "~", apart 1, sign "?", g.binder, g.path .type, g.call]) ts
  else
    let (mark, rest) := sign "?" rest
    let (later, rest) := g.binder rest
    let (trait, rest) := seq [g.path .type, g.call] rest
    (mark ++ bound ++ later ++ trait, rest)

/-- A bound in round brackets, by what they hold. -/
def innerBound (g : Grammar) (inner : Tokens) : Tokens :=
  if startsConstness (g.binder inner).2 then inner else whole g.traitBound inner

/-- A bound: a lifetime, a trait, or the parameters that are used. -/
def boundRule (g : Grammar) : Step :=
  either startsLifetime (apart 1)
    (either (startsName "use") (seq [apart 1, g.arguments])
      (either (startsGroup .round) (group .round g.innerBound) g.traitBound))

/-! ## Types -/

/-- The number of words and lifetimes at the front that modify a reference or a pointer. -/
def modifierCount : Tokens → Nat
  | .lifetime _ :: rest => modifierCount rest + 1
  | .word w :: rest =>
    if w = "mut".toList ∨ w = "const".toList then modifierCount rest + 1 else 0
  | _ => 0

/-- Types in round brackets, or a bound. -/
def inParentheses (g : Grammar) (inner : Tokens) : Tokens :=
  if startsSign "?" inner then whole g.traitBound inner else listed (g.type true) inner

/-- A type in round brackets.  Behind a bound in brackets there may always be several. -/
def parenthesizedType (g : Grammar) (plus : Bool) : Step := fun ts =>
  match ts with
  | .group .round inner :: rest =>
    let (more, rest) := when (fun _ => plus || startsSign "?" inner) g.moreBounds rest
    (.group .round (g.inParentheses inner) :: more, rest)
  | _ => ([], ts)

/-- The type of the items of a slice or an array, and the length of an array. -/
def inSquares (g : Grammar) : Tokens → Tokens :=
  whole (seq [g.type true, when (startsSign ";") (seq [apart 1, g.expression true])])

/-- Bounds of which there may be several or only one. -/
def boundsUpTo (g : Grammar) (plus : Bool) : Step :=
  either (fun _ => plus) g.bounds (when startsBound g.bound)

/-- A type that begins with a word. -/
def namedType (g : Grammar) (plus : Bool) : Step :=
  either (startsName "impl") (seq [apart 1, g.boundsUpTo plus])
    (either (startsName "dyn")
      (fun ts =>
        if startsSign "*" (ts.drop 1) then asWritten (seq [apart 2, g.boundsUpTo plus]) ts
        else seq [apart 1, g.boundsUpTo plus] ts)
      (either (startsNameOf ["fn", "unsafe", "extern"]) g.pointer
        (seq [g.typePath, macroCall, when (fun _ => plus) g.moreBounds])))

/-- A type; `plus` says whether it may have several bounds. -/
def typeRule (g : Grammar) (plus : Bool) : Step := fun ts =>
  match ts with
  | .group .round _ :: _ => g.parenthesizedType plus ts
  | .group .square _ :: _ => group .square g.inSquares ts
  | .lifetime _ :: _ => g.bounds ts
  | .sign c _ :: rest =>
    if c = '&' ∨ c = '*' then seq [apart (1 + modifierCount rest), g.type false] ts
    else if c = '!' then apart 1 ts
    else if c = '<' then g.typePath ts
    else g.namedType plus ts
  | .word w :: _ =>
    if w = "for".toList then seq [g.binder, g.type plus] ts
    else if w = "_".toList then apart 1 ts
    else g.namedType plus ts
  | _ => ([], ts)

/-! ## Declared parameters and conditions -/

/-- The parameters that a definition declares in angle brackets.  A list without parts is not
printed. -/
def declared (g : Grammar) : Step := when (startsSign "<") fun ts =>
  let (parts, rest) := angledParts g.parameter ts
  (if noParts parts then [] else angled declaresLifetime parts, rest)

/-- Whether tokens begin with what follows conditions. -/
def endsConditions (ts : Tokens) : Bool :=
  ts.isEmpty || startsGroup .curly ts || startsColon ts || [",", ";", "="].any (startsSign · ts)

/-- A condition: a lifetime or a type, with bounds. -/
def condition (g : Grammar) : Step :=
  either (fun ts => startsLifetime ts && startsColon (ts.drop 1)) (seq [apart 2, g.bounds])
    (seq [g.binder, g.type true, when (startsSign ":") (seq [apart 1, g.bounds])])

/-- Conditions with commas between them. -/
def conditionList (g : Grammar) : Step :=
  repeated (!endsConditions ·) (seq [g.condition, sign ","])

/-- The conditions of a definition behind their keyword, which is not printed if there are none. -/
def conditions (g : Grammar) : Step := when (startsName "where") fun ts =>
  let (done, rest) := g.conditionList (ts.drop 1)
  (if done.isEmpty then [] else .word "where".toList :: done, rest)

end Grammar
end SqlFilter.Code
