import SqlFilter.Code.Operand

/-!
# Definitions in code

The rules for functions, constants, types, records, traits, implementations and modules, and for
their members.

* `Grammar.signature` takes the head of a function;
* `Grammar.item` takes a definition in a module or a block, and `Grammar.memberItem` one in another
  `Setting`;
* `Grammar.membersRule` goes through all members of a definition.

A definition in a form that is allowed only in writing, such as a function without statements, stays
as it is written, with its marks.
-/

namespace SqlFilter.Code.Grammar
open Step Attempt

/-! ## What definitions begin with -/

/-- Takes what says from where a definition can be seen. -/
def visibility : Step := fun ts =>
  match ts with
  | .word w :: rest =>
    if w ≠ "pub".toList then ([], ts)
    else
      match rest with
      | .group .round (.word place :: path) :: after =>
        if place = "in".toList then
          ([.word w, .group .round (.word place :: whole plainPath path)], after)
        else if path.isEmpty && startsNameOf ["crate", "self", "super"] [.word place] then
          apart 2 ts
        else apart 1 ts
      | _ => apart 1 ts
  | _ => ([], ts)

/-- The words that a function may begin with. -/
def qualifiers : Step :=
  seq [word "const", word "async", word "unsafe", word "safe", abi]

/-- Whether tokens begin with a function. -/
def startsFunction (ts : Tokens) : Bool := startsName "fn" (qualifiers ts).2

/-- Takes the semicolon at an end. -/
def semicolon : Step := sign ";"

/-! ## Functions -/

/-- Whether tokens begin with the receiver of a method. -/
def startsReceiver (ts : Tokens) : Bool :=
  let name := (seq [when (startsSign "&") (seq [apart 1, when startsLifetime (apart 1)]),
    word "mut"] ts).2
  startsName "self" name && !startsSign "::" (name.drop 1)

/-- The receiver of a method, perhaps with a type. -/
def receiver (g : Grammar) : Step :=
  seq [when (startsSign "&") (seq [apart 1, when startsLifetime (apart 1)]), word "mut", apart 1,
    when (startsSign ":") (seq [apart 1, g.type true])]

/-- A parameter of a function.  A type alone, with arguments, gets an underscore as its pattern. -/
def functionParameter (g : Grammar) : Step :=
  seq [g.marks,
    either (startsSign "...") (sign "...")
      (either startsReceiver g.receiver
        (either (fun ts => startsFreeName ts && startsSign "<" (ts.drop 1))
          (fun ts =>
            let (type, rest) := g.type true ts
            ([.word ['_'], .sign ':' false] ++ type, rest))
          (seq [g.pattern, when (startsSign ":") (apart 1),
            either (startsSign "...") (sign "...") (g.type true)])))]

/-- The head of a function. -/
def signature (g : Grammar) : Step :=
  seq [qualifiers, apart 2, g.declared, group .round (listed g.functionParameter), g.result true,
    g.conditions]

/-- A function; `safe` in front of it, and statements or a semicolon behind it, may be allowed only
in writing. -/
def function (g : Grammar) (setting : Setting) : Attempt := fun ts =>
  let (head, rest) := seq [visibility, word "default"] ts
  let isSafe := startsName "safe" (seq [word "const", word "async"] rest).2
  let (signature, body) := g.signature rest
  let (statements, after) := either (startsGroup .curly) g.block semicolon body
  let onlyInWriting :=
    match setting with
    | .module => startsSign ";" body
    | .trait => false
    | .implementation => startsSign ";" body
    | .foreign => isSafe || startsGroup .curly body
  (keepIf onlyInWriting (head ++ signature ++ statements), after)

/-! ## Constants and variables -/

/-- A constant.  One with parameters or conditions is allowed only in writing, and outside of a
trait also one without a value. -/
def constantItem (g : Grammar) (setting : Setting) : Attempt := fun ts =>
  let (head, parameters) := seq [visibility, word "default", apart 2] ts
  let (_, typed) := g.declared parameters
  let (type, valued) := seq [when (startsSign ":") (apart 1), g.type true] typed
  let (value, conditions) := when (startsSign "=") (seq [apart 1, g.expression true]) valued
  let (stop, after) := semicolon (g.conditions conditions).2
  let onlyInWriting :=
    startsSign "<" parameters || startsName "where" conditions ||
      (setting ≠ .trait && !startsSign "=" valued)
  (keepIf onlyInWriting (head ++ type ++ value ++ stop), after)

/-- A variable.  One without a type or a value is allowed only in writing. -/
def variableItem (g : Grammar) : Attempt := fun ts =>
  let (head, typed) := seq [visibility, apart 1, word "mut", apart 1] ts
  let (type, valued) := when (startsSign ":") (seq [apart 1, g.type true]) typed
  let (value, after) :=
    seq [when (startsSign "=") (seq [apart 1, g.expression true]), semicolon] valued
  (keepIf (startsSign "=" typed || startsSign ";" valued) (head ++ type ++ value), after)

/-- A variable that is defined elsewhere.  One with a value, or with a word that says whether it is
safe, is allowed only in writing. -/
def foreignVariable (g : Grammar) : Attempt := fun ts =>
  let (visible, safety) := visibility ts
  let (head, valued) :=
    seq [word "unsafe", word "safe", apart 1, word "mut", apart 2, g.type true] safety
  let (_, stop) := when (startsSign "=") (seq [apart 1, g.expression true]) valued
  let (stop, after) := semicolon stop
  (keepIf (!startsName "static" safety || startsSign "=" valued) (visible ++ head ++ stop), after)

/-! ## Types -/

/-- A name for a type.  Bounds are allowed only in writing, but in a trait; so is a missing type,
but in a trait and where the type is defined elsewhere, where one that is there is. -/
def typeItem (g : Grammar) (setting : Setting) : Attempt := fun ts =>
  let (head, bounded) := seq [visibility, word "default", apart 2, g.declared] ts
  let (limits, defined) := seq [g.limits, g.conditions] bounded
  let (definition, after) :=
    seq [when (startsSign "=") (seq [apart 1, g.type true]), g.conditions, semicolon] defined
  let onlyInWriting :=
    match setting with
    | .trait => false
    | .foreign => startsSign ":" bounded || startsSign "=" defined
    | _ => startsSign ":" bounded || !startsSign "=" defined
  (keepIf onlyInWriting (head ++ limits ++ definition), after)

/-! ## Records -/

/-- A field with a name.  Fields that are no field of their own stay as they are written. -/
def namedField (g : Grammar) : Step := fun ts =>
  let (head, rest) := seq [g.marks, visibility] ts
  let isNameless := startsName "_" rest
  let (name, type) := seq [apart 1, when (startsSign ":") (apart 1)] rest
  let holdsFields := startsName "struct" type || startsBlockOf "union" type
  let (type, after) := if isNameless && holdsFields then (type.take 2, type.drop 2)
    else g.type true type
  (head ++ name ++ type, after)

/-- The fields of a record or a variant. -/
def fields (g : Grammar) : Step :=
  either (startsGroup .curly) (group .curly (listed g.namedField))
    (group .round (listed (seq [g.marks, visibility, g.type true])))

/-- A record or a union. -/
def record (g : Grammar) : Step :=
  seq [visibility, apart 2, g.declared, g.conditions, g.fields, g.conditions, semicolon]

/-- A variant of an enumeration, perhaps with fields and a number.  Nothing is printed of from where
it can be seen. -/
def variant (g : Grammar) : Step := fun ts =>
  let (marks, rest) := g.marks ts
  let (done, after) :=
    seq [apart 1, g.fields, when (startsSign "=") (seq [apart 1, g.expression true])]
      (visibility rest).2
  (marks ++ done, after)

/-- An enumeration. -/
def enumeration (g : Grammar) : Step :=
  seq [visibility, apart 2, g.declared, g.conditions, group .curly (listed g.variant)]

/-! ## Traits and implementations -/

/-- A trait, or a name for bounds. -/
def traitItem (g : Grammar) : Step :=
  seq [visibility, word "unsafe", word "auto", apart 2, g.declared,
    either (startsSign "=") (seq [apart 1, g.bounds, g.conditions, semicolon])
      (seq [g.limits, g.conditions, group .curly (g.members .trait)])]

/-- Whether a type that tokens begin with is a path and nothing but a path. -/
def isPathType (g : Grammar) (ts rest : Tokens) : Bool :=
  startsPlainPath ts && (g.typePath ts).2.length = rest.length

/-- An implementation.  One that has a visibility, or is for constants, or whose trait is no path,
is allowed only in writing. -/
def implementation (g : Grammar) : Attempt := fun ts =>
  let (head, constness) :=
    seq [word "default", word "unsafe", apart 1, when startsParameters g.declared]
      (visibility ts).2
  let isConstant :=
    startsName "const" constness ||
      (startsSign "?" constness && startsName "const" (constness.drop 1))
  let negated := if isConstant then (seq [sign "?", apart 1] constness).2 else constness
  let isNegated := startsSign "!" negated && !startsGroup .curly (negated.drop 1)
  let (mark, typed) := when (fun _ => isNegated) (apart 1) negated
  let (first, rest) := g.type true typed
  let first :=
    if isNegated && !startsName "for" rest then (asWritten (seq [apart 1, g.type true]) negated).1
    else mark ++ first
  let (done, after) :=
    seq [when (startsName "for") (seq [apart 1, g.type true]), g.conditions,
      group .curly (g.members .implementation)] rest
  let onlyInWriting :=
    startsName "pub" ts || isConstant || (startsName "for" rest && !g.isPathType typed rest)
  (keepIf onlyInWriting (head ++ first ++ done), after)

/-! ## Modules and names -/

/-- A module. -/
def moduleItem (g : Grammar) : Step :=
  seq [visibility, word "unsafe", apart 2, group .curly (g.members .module), semicolon]

/-- Declarations of what is defined elsewhere. -/
def foreignItem (g : Grammar) : Step :=
  seq [word "unsafe", abi, group .curly (g.members .foreign)]

mutual

/-- A token of names that are brought in, with all that a group holds. -/
def importedToken : Token → Token
  | .group b inner => .group b (imported inner)
  | t => t.apart

/-- The tokens of names that are brought in, with the signs in them. -/
def imported : Tokens → Tokens
  | [] => []
  | .sign ':' true :: t :: rest => .sign ':' true :: importedToken t :: imported rest
  | t :: rest => importedToken t :: imported rest

end

mutual

/-- Whether a name in a group of names begins with a double colon. -/
def holdsRoot : Token → Bool
  | .group .curly inner => anyRoot true inner
  | _ => false

/-- Whether one of several names begins with a double colon; `first` says whether a name begins
here. -/
def anyRoot : Bool → Tokens → Bool
  | _, [] => false
  | first, t :: rest =>
    (first && (startsSign ":" [t] || holdsRoot t)) || anyRoot (startsSign "," [t]) rest

end

/-- Names that are brought in.  A group in which a name begins with a double colon is allowed only
in writing. -/
def importItem : Attempt := fun ts =>
  let (head, names) := seq [visibility, apart 1] ts
  let tree := names.takeWhile fun t => !startsSign ";" [t]
  let after := names.drop (tree.length + 1)
  (keepIf (tree.head?.any holdsRoot) (head ++ imported tree ++ [.sign ';' false]), after)

/-- A definition of which all tokens up to a semicolon are printed one by one. -/
def plainItem : Step :=
  seq [visibility, fun ts => apart ((ts.takeWhile fun t => !startsSign ";" [t]).length + 1) ts]

/-- A macro that is called, perhaps to define a name. -/
def macroItem : Step := fun ts =>
  let (head, body) := seq [plainPath, apart 1, when startsWordToken (apart 1)] ts
  let (done, after) := seq [apart 1, when (fun _ => !startsGroup .curly body) semicolon] body
  (head ++ done, after)

/-- A macro that is defined. -/
def macroDefinition : Step :=
  seq [visibility, apart 2, when (startsGroup .round) (apart 1), apart 1]

/-! ## The rules -/

/-- Whether tokens begin with a trait that types have by themselves. -/
def startsAutoTrait (ts : Tokens) : Bool := startsName "auto" ts && startsName "trait" (ts.drop 1)

/-- Whether tokens begin with a union. -/
def startsUnion (ts : Tokens) : Bool := startsName "union" ts && startsFreeName (ts.drop 1)

/-- A definition in a module or a block. -/
def item (g : Grammar) : Attempt := fun ts =>
  let start := (visibility ts).2
  let next := (word "unsafe" start).2
  if startsFunction start then g.function .module ts
  else if startsName "extern" next then
    ofStep (if startsName "crate" (next.drop 1) then plainItem else g.foreignItem) ts
  else if startsName "use" start then importItem ts
  else if startsName "static" start then g.variableItem ts
  else if startsName "const" start then g.constantItem .module ts
  else if startsName "mod" next then ofStep g.moduleItem ts
  else if startsName "type" start then g.typeItem .module ts
  else if startsName "struct" start || startsUnion start then ofStep g.record ts
  else if startsName "enum" start then ofStep g.enumeration ts
  else if startsName "trait" next || startsAutoTrait next then ofStep g.traitItem ts
  else if startsName "impl" next ||
      (startsName "default" start && !startsSign "!" (start.drop 1)) then
    g.implementation ts
  else if startsName "macro" start then keep macroDefinition ts
  else ofStep macroItem ts

/-- A member of a trait, of an implementation, or of declarations.  In a trait, one with a
visibility or a default is allowed only in writing. -/
def memberItem (g : Grammar) (setting : Setting) : Attempt := fun ts =>
  let visible := (visibility ts).2
  let isDefault := startsName "default" visible && !startsSign "!" (visible.drop 1)
  let start := if isDefault then visible.drop 1 else visible
  let isVariable := startsName "static" (seq [word "unsafe", word "safe"] start).2
  let (made, rest) :=
    if setting = .module then g.item ts
    else if startsFunction start then g.function setting ts
    else if startsName "const" start then g.constantItem setting ts
    else if startsName "type" start then g.typeItem setting ts
    else if setting = .foreign && isVariable then g.foreignVariable ts
    else ofStep macroItem ts
  (if setting = .trait && (startsName "pub" ts || isDefault) then Option.none else made, rest)

/-- All members of a definition. -/
def membersRule (g : Grammar) (setting : Setting) : Tokens → Tokens :=
  whole (seq [g.innerMarks, repeated (!·.isEmpty) (behind g.marks (g.memberItem setting))])

end SqlFilter.Code.Grammar
