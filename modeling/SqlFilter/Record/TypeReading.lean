import SqlFilter.Code.Arrangement
import SqlFilter.Record.TypeExpr

/-!
# Reading types of record fields

`TypeExpr.read` reads a type in writing.  `TypeExpr.ofTokens` and `TypeExpr.ofPath` find in its
tokens what inference looks at; all other types are alike.
-/

namespace SqlFilter.TypeExpr
open Code (Tokens startsSign)

/-- The words that types begin with which are no paths. -/
def typeWords : List Text :=
  ["dyn", "impl", "fn", "unsafe", "extern", "for"].map String.toList

/-- Whether tokens are one type, with nothing behind it. -/
def isOneType (ts : Tokens) : Bool :=
  !ts.isEmpty && ((Code.grammarFor ts).type true ts).2.isEmpty

/-- Whether a part of a list of arguments is a constant. -/
def isConstant : Tokens → Bool
  | .literal _ :: _ => true
  | .sign c _ :: _ => c = '-'
  | .group .curly _ :: _ => true
  | [.word w] => w = "true".toList || w = "false".toList
  | _ => false

mutual

/-- The type that some tokens form. -/
def ofTokens : Nat → Tokens → TypeExpr
  | 0, _ => .other
  | n + 1, ts =>
    match ts with
    | [.group .round inner] => if isOneType inner then .parenthesized (ofTokens n inner) else .other
    | .sign c _ :: rest =>
      if c = '&' then .reference (ofTokens n (rest.drop (Code.Grammar.modifierCount rest)))
      else if c = '<' then ofPath n [] ((Code.grammarFor ts).qualified ts).2
      else if c = ':' then ofPath n [] ts
      else .other
    | .word w :: _ => if w ∈ typeWords then .other else ofPath n [] ts
    | _ => .other

/-- The path that some tokens form behind the segments that are named so far. -/
def ofPath : Nat → Text → Tokens → TypeExpr
  | 0, _, _ => .other
  | n + 1, before, ts =>
    match (Code.stripSign? "::".toList ts).getD ts with
    | .word w :: rest =>
      let name := before ++ w
      let rest :=
        match Code.stripSign? "::".toList rest with
        | some (.sign '<' joined :: rest) => .sign '<' joined :: rest
        | _ => rest
      let (parts, after) :=
        if startsSign "<" rest then (Code.grammarFor rest).argumentList rest else ([], rest)
      let after :=
        if Code.noParts parts then ((Code.grammarFor after).call after).2 else after
      if after.isEmpty then .path name (parts.map (ofPart n))
      else if Code.startsSegment after then ofPath n (name ++ "::".toList) after
      else .other
    | _ => .other

/-- The argument that a part of a list is. -/
def ofPart : Nat → Tokens → TypeArgument
  | 0, _ => .other
  | n + 1, part =>
    if isOneType part && !isConstant part && !Code.isLifetime part then .type (ofTokens n part)
    else .other

end

/-- Reads a type. -/
def read (code : Text) : TypeExpr :=
  let ts := Code.read code
  ofTokens (Code.size ts + 1) ts

end SqlFilter.TypeExpr
