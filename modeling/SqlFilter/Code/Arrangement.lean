import SqlFilter.Code.Statement
import SqlFilter.Code.Reading

/-!
# Arranged code

Code is printed from its meaning: signs are cut as types and expressions need them, and the
arguments in angle brackets come in the order that is printed.

* `Code.grammar` is the grammar in which the rules refer to each other, as deeply as is needed;
* `Code.declarations` are the parameters that tokens in angle brackets declare;
* `Code.conditionTokens` are conditions as they are printed.

Each rule that refers to a rule is one step deeper.  Between two tokens no more than eight rules
refer to each other.
-/

namespace SqlFilter.Code

/-- The rules over a grammar for what is nested in them. -/
def Grammar.extend (g : Grammar) : Grammar where
  type := g.typeRule
  bound := g.boundRule
  pattern := g.patternRule
  atom := g.atomRule
  operand := g.operandRule
  operation := g.operationRule
  statements := g.statementsRule
  members := g.membersRule

/-- The grammar for code that is nested at most so deeply. -/
def grammar : Nat → Grammar
  | 0 => .empty
  | n + 1 => (grammar n).extend

/-- The grammar for given tokens. -/
def grammarFor (ts : Tokens) : Grammar := grammar (8 * (size ts + 1))

/-- The parameters that tokens in angle brackets declare, without what they stand for if they are
not given. -/
def declarations (ts : Tokens) : List Tokens :=
  let g := grammarFor ts
  let (parts, _) := Step.angledParts
    (fun ts =>
      let (head, rest) := g.parameterHead ts
      (head, (g.parameterDefault rest).2)) ts
  if noParts parts then [] else parts

/-- The name of a declared parameter. -/
def declaredName : Tokens → Tokens
  | .sign '#' _ :: .group .square _ :: rest => declaredName rest
  | .word w :: rest => if w = "const".toList then rest.take 1 else [.word w]
  | rest => rest.take 1

/-- Conditions as they are printed. -/
def conditionTokens (ts : Tokens) : Tokens := Step.whole (grammarFor ts).conditionList ts

end SqlFilter.Code
