import SqlFilter.Numeral.Digits

/-!
# Dialect profiles

A profile holds the three lexical details in which the engines differ.

* `Delimiter` is how identifiers are delimited; `Delimiter.quote` writes one, with the closing
  delimiter doubled wherever it occurs in the name;
* `PlaceholderStyle` is how the place of a bound value is marked;
* `Concatenation` is how texts are joined; `Concatenation.pattern` puts percent signs around a
  placeholder where a wildcard stands;
* `Profile.column` writes a column reference, each dot-separated part of the qualifier delimited on
  its own.
-/

namespace SqlFilter

/-! ## Identifiers -/

/-- How identifiers are delimited. -/
inductive Delimiter where
  /-- Names are written as they are. -/
  | bare
  /-- `"name"` -/
  | doubleQuote
  /-- `[name]` -/
  | bracket
  /-- A name between backticks. -/
  | backtick
  deriving Repr, DecidableEq

namespace Delimiter

/-- The opening and the closing character. -/
def pair? : Delimiter → Option (Char × Char)
  | bare => none
  | doubleQuote => some ('"', '"')
  | bracket => some ('[', ']')
  | backtick => some ('`', '`')

/-- A name with each occurrence of `close` written twice. -/
def double (close : Char) : Text → Text
  | [] => []
  | c :: rest => if c = close then c :: c :: double close rest else c :: double close rest

/-- A delimited identifier. -/
def quote (d : Delimiter) (name : Text) : Text :=
  match d.pair? with
  | none => name
  | some (opening, closing) => opening :: double closing name ++ [closing]

end Delimiter

/-! ## Placeholders -/

/-- How the place of a bound value is marked. -/
inductive PlaceholderStyle where
  /-- `$1`, `$2`, … -/
  | dollar
  /-- `@1`, `@2`, … -/
  | atSign
  /-- `?` for every value. -/
  | questionMark
  deriving Repr, DecidableEq

namespace PlaceholderStyle

/-- The placeholder of the value with the given number, counted from 1. -/
def placeholder (s : PlaceholderStyle) (index : Nat) : Text :=
  match s with
  | dollar => '$' :: Numeral.digits index
  | atSign => '@' :: Numeral.digits index
  | questionMark => ['?']

/-- Whether placeholders carry their number. -/
def isNumbered : PlaceholderStyle → Bool
  | questionMark => false
  | _ => true

end PlaceholderStyle

/-! ## Patterns -/

/-- How texts are joined. -/
inductive Concatenation where
  /-- `CONCAT(a,b)` -/
  | function
  /-- `a || b` -/
  | operator
  deriving Repr, DecidableEq

namespace Concatenation

/-- The text literal that matches any text. -/
def anyText : Text := "'%'".toList

/-- The operand with the literal for any text joined to it on the sides asked for. -/
def pattern (c : Concatenation) (operand : Text) (leading trailing : Bool) : Text :=
  if !leading && !trailing then operand
  else
    match c with
    | function =>
      "CONCAT(".toList ++ (if leading then anyText ++ [','] else []) ++ operand ++
        (if trailing then ',' :: anyText else []) ++ [')']
    | operator =>
      (if leading then anyText ++ " || ".toList else []) ++ operand ++
        (if trailing then " || ".toList ++ anyText else [])

end Concatenation

/-! ## Profiles -/

/-- The lexical rules of an engine. -/
structure Profile where
  /-- How identifiers are delimited. -/
  delimiter : Delimiter
  /-- How the places of values are marked. -/
  placeholders : PlaceholderStyle
  /-- How texts are joined. -/
  concatenation : Concatenation
  deriving Repr, DecidableEq

namespace Profile

/-- A delimited identifier. -/
def identifier (p : Profile) (name : Text) : Text := p.delimiter.quote name

/-- A column reference, with the parts of its qualifier in front. -/
def column (p : Profile) (qualifier : Option Text) (name : Text) : Text :=
  let parts :=
    match qualifier with
    | none => []
    | some q => Text.splitOn '.' q
  parts.flatMap (fun part => p.identifier part ++ ['.']) ++ p.identifier name

end Profile
end SqlFilter
