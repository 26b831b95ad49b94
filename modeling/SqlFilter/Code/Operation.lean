import SqlFilter.Code.Grammar

/-!
# Operations in code

The rules for operators between operands.  An operand takes the operators behind it as long as they
bind strongly enough.

* `Grammar.right` takes the operand behind an operator;
* `Grammar.openRange` takes the sign of a range and its end;
* `Grammar.operationRule` takes an operator with its right operand, and goes on behind it.

No operator takes a range as its left operand.
-/

namespace SqlFilter.Code.Grammar
open Step

/-! ## Right operands -/

/-- An operand with the operators behind it that bind more strongly than a given one, in at most so
many rounds.  Several assignments are taken from the right. -/
def climb (g : Grammar) (braces : Bool) (p : Precedence) : Nat → Found → Found
  | 0, e => e
  | n + 1, e =>
    let next := precedenceOf e.rest
    if p.rank < next.rank || (next = p && p = .assignment) then
      let longer := g.operation braces next e
      if longer.rest.length < e.rest.length then g.climb braces p n longer else e
    else e

/-- The operand behind an operator. -/
def right (g : Grammar) (braces : Bool) (p : Precedence) : Step := fun ts =>
  (g.climb braces p ts.length (g.operand braces ts)).toStep

/-! ## Ranges -/

/-- A range behind given tokens: its sign, and its end if it has one. -/
def openRange (g : Grammar) (braces : Bool) (start : Tokens) (ts : Tokens) : Found :=
  let isClosed := startsSign "..=" ts
  let (done, rest) :=
    seq [rangeSign, when (fun ts => isClosed || !endsRange braces ts) (g.right braces .range)] ts
  ⟨.range, start ++ done, rest⟩

/-! ## The rule -/

/-- An operand with the operators behind it that bind at least as strongly as a given one. -/
def operationRule (g : Grammar) (braces : Bool) (base : Precedence) (e : Found) : Found :=
  let binds (p : Precedence) : Bool := base.rank ≤ p.rank
  if e.form = .range then e
  else
    match binary? e.rest with
    | some (s, p) =>
      if binds p then g.operation braces base (e.andThen (seq [sign s, g.right braces p])) else e
    | none =>
      if startsAssignment e.rest && binds .assignment then
        g.operation braces base (e.andThen (seq [apart 1, g.right braces .assignment]))
      else if startsSign ".." e.rest && binds .range then g.openRange braces e.tokens e.rest
      else if startsName "as" e.rest && binds .cast then
        g.operation braces base (e.andThen (seq [apart 1, g.type false]))
      else e

end SqlFilter.Code.Grammar
