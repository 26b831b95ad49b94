import SqlFilter.Code.Arrangement
import SqlFilter.Record.Basic

/-!
# Headers of implementations

The implementation that is generated for a record begins with a header: its parameters, the trait,
the record, and the conditions.  `Record.header` prints it.

Parameters come with their bounds in front of the trait and without them behind the record's name,
lifetimes before the others in both places.
-/

namespace SqlFilter
open Code (Tokens)

/-! ## Parameters and conditions in writing -/

/-- The tokens of bounds, with plus signs between them. -/
def boundTokens (bounds : List Text) : Tokens := Code.separated '+' (bounds.map Code.read)

/-- The tokens of a parameter. -/
def GenericParameter.tokens : GenericParameter → Tokens
  | lifetime name => Code.read ('\x27' :: name)
  | type name bounds standard =>
    Code.read name ++ [.sign ':' false] ++ boundTokens bounds ++
      (standard.map fun code => .sign '=' false :: Code.read code).getD []
  | constant name =>
    [.word "const".toList] ++ Code.read name ++ [.sign ':' false, .word "usize".toList]

/-- The tokens of a condition. -/
def WhereClause.tokens (w : WhereClause) : Tokens :=
  Code.read w.type ++ [.sign ':' false] ++ boundTokens w.bounds

namespace Record

/-! ## The header -/

/-- The parameters as they are declared. -/
def declarations (r : Record) : List Tokens :=
  Code.declarations
    ([.sign '<' false] ++ Code.separated ',' (r.parameters.map (·.tokens)) ++ [.sign '>' false])

/-- A list of parameters in angle brackets; none for no parameters. -/
def parameterList (parameters : List Tokens) : Tokens :=
  if parameters.isEmpty then [] else Code.angled Code.declaresLifetime parameters

/-- The conditions behind their keyword; nothing for no conditions. -/
def whereTokens (r : Record) : Tokens :=
  let conditions := Code.conditionTokens (Code.separated ',' (r.conditions.map (·.tokens)))
  if conditions.isEmpty then [] else .word "where".toList :: conditions

/-- The path of the trait that is implemented. -/
def traitPath : Tokens :=
  Code.signs "::" ++ [.word "fiql_sql".toList] ++ Code.signs "::" ++ [.word "Filterable".toList]

/-- The header of the implementation for a record. -/
def header (r : Record) : Text :=
  let names := r.declarations.map Code.declaredName
  Code.print
    ([.word "impl".toList] ++ parameterList r.declarations ++ traitPath ++
      [.word "for".toList] ++ Code.read r.name ++ parameterList names ++ r.whereTokens)

end Record
end SqlFilter
