import SqlFilter.Code.Step

/-!
# Lists in angle brackets

Arguments and parameters stand in angle brackets, and those that are lifetimes are printed first.

* `Code.ordered` puts the parts of a list in the order in which they are printed, and
  `Code.angled` prints them in their brackets;
* `Step.angledParts` reads the parts of a list.
-/

namespace SqlFilter.Code

/-! ## Parts -/

/-- The parts in a row, with a sign between neighbours. -/
def separated (c : Char) (parts : List Tokens) : Tokens :=
  [Token.sign c false].intercalate parts

/-- Whether a part of a list is a lifetime. -/
def isLifetime (part : Tokens) : Bool :=
  match part with
  | [.lifetime _] => true
  | _ => false

/-- Whether a declared parameter is a lifetime, perhaps behind marks and with bounds. -/
def declaresLifetime : Tokens → Bool
  | .lifetime _ :: _ => true
  | .sign '#' _ :: .group .square _ :: rest => declaresLifetime rest
  | _ => false

/-- Whether there are no parts: then all that is read is one part without tokens. -/
def noParts (parts : List Tokens) : Bool := parts.all List.isEmpty && parts.length ≤ 1

/-- The parts of a list in the order in which they are printed, lifetimes first.  A part keeps the
comma that is written behind it; so where others stand in front of the last lifetime, a comma ends
the list, behind which there is an empty part. -/
def ordered (lifetime : Tokens → Bool) (parts : List Tokens) : List Tokens :=
  let others := parts.filter (!lifetime ·)
  parts.filter lifetime ++ others ++
    if !others.isEmpty && parts.getLast?.any lifetime then [[]] else []

/-- No part is lost. -/
theorem mem_ordered (lifetime : Tokens → Bool) {part : Tokens} {parts : List Tokens}
    (h : part ∈ parts) : part ∈ ordered lifetime parts := by
  cases hl : lifetime part <;> simp [ordered, h, hl]

/-- A list of parts in angle brackets. -/
def angled (lifetime : Tokens → Bool) (parts : List Tokens) : Tokens :=
  [.sign '<' false] ++ separated ',' (ordered lifetime parts) ++ [.sign '>' false]

/-! ## Reading -/

namespace Step

/-- Reads at most so many parts behind the bracket in front, and what follows the bracket behind
them. -/
def partsFrom (part : Step) : Nat → Tokens → List Tokens × Tokens
  | 0, ts => ([], ts)
  | n + 1, ts =>
    let (first, rest) := if startsSign ">" ts then ([], ts) else part ts
    if startsSign "," rest then
      let (more, rest) := partsFrom part n (rest.drop 1)
      (first :: more, rest)
    else ([first], rest.drop 1)

/-- Reads a list in angle brackets that tokens begin with: its parts, and what follows the list. -/
def angledParts (part : Step) (ts : Tokens) : List Tokens × Tokens :=
  partsFrom part ts.length (ts.drop 1)

end Step
end SqlFilter.Code
