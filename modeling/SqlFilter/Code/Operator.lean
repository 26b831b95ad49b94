import SqlFilter.Code.Step

/-!
# Operators

The operators that stand between two operands, and how strongly they bind.

* `Precedence` are the strengths, and `Precedence.rank` orders them;
* `Code.binaryOperators` are the operators that are nothing but signs;
* `Code.precedenceOf` is the strength of the operator that tokens begin with;
* `Step.rangeSign` takes the sign of a range.
-/

namespace SqlFilter.Code

/-- How strongly an operator binds its operands. -/
inductive Precedence where
  /-- No operator at all. -/
  | jump
  /-- An assignment. -/
  | assignment
  /-- A range. -/
  | range
  /-- One or the other. -/
  | disjunction
  /-- Both. -/
  | conjunction
  /-- A comparison. -/
  | comparison
  /-- The bits of one or the other. -/
  | bitOr
  /-- The bits of only one. -/
  | bitXor
  /-- The bits of both. -/
  | bitAnd
  /-- A shift of bits. -/
  | shift
  /-- A sum or a difference. -/
  | sum
  /-- A product, a quotient or a remainder. -/
  | product
  /-- A conversion. -/
  | cast
  deriving Repr, DecidableEq

/-- The place of a strength among all, the weakest first. -/
def Precedence.rank : Precedence → Nat
  | jump => 0
  | assignment => 1
  | range => 2
  | disjunction => 3
  | conjunction => 4
  | comparison => 5
  | bitOr => 6
  | bitXor => 7
  | bitAnd => 8
  | shift => 9
  | sum => 10
  | product => 11
  | cast => 12

/-- Two strengths of one place are the same. -/
theorem Precedence.eq_of_rank_eq {p q : Precedence} (h : p.rank = q.rank) : p = q := by
  cases p <;> cases q <;> first | rfl | exact absurd h (by decide)

/-- The operators that are nothing but signs, those in front that begin with another one. -/
def binaryOperators : List (String × Precedence) :=
  [("+=", .assignment), ("-=", .assignment), ("*=", .assignment), ("/=", .assignment),
   ("%=", .assignment), ("^=", .assignment), ("&=", .assignment), ("|=", .assignment),
   ("<<=", .assignment), (">>=", .assignment), ("&&", .conjunction), ("||", .disjunction),
   ("<<", .shift), (">>", .shift), ("==", .comparison), ("<=", .comparison), ("!=", .comparison),
   (">=", .comparison), ("+", .sum), ("-", .sum), ("*", .product), ("/", .product),
   ("%", .product), ("^", .bitXor), ("&", .bitAnd), ("|", .bitOr), ("<", .comparison),
   (">", .comparison)]

/-- The operator of signs that tokens begin with. -/
def binary? (ts : Tokens) : Option (String × Precedence) :=
  binaryOperators.find? (startsSign ·.1 ts)

/-- Whether tokens begin with the equals sign of an assignment. -/
def startsAssignment (ts : Tokens) : Bool := startsSign "=" ts && !startsSign "=>" ts

/-- How strongly the operator binds that tokens begin with. -/
def precedenceOf (ts : Tokens) : Precedence :=
  match binary? ts with
  | some (_, p) => p
  | none =>
    if startsAssignment ts then .assignment
    else if startsSign ".." ts then .range
    else if startsName "as" ts then .cast
    else .jump

/-! ## Ranges -/

/-- Takes the sign of a range.  One that includes its end is printed with an equals sign, also if it
is written with three points. -/
def Step.rangeSign : Step := fun ts =>
  if startsSign "..." ts then (signs "..=", ts.drop 3)
  else if startsSign "..=" ts then (signs "..=", ts.drop 3)
  else Step.sign ".." ts

/-- The signs behind which a range without an end cannot go on. -/
def rangeEndings : List String :=
  [",", ";", "?", "=>", "=", "+", "/", "%", "^", ">", "<=", "!=", "-=", "*=", "&=", "|=", "<<="]

/-- Whether a range that needs no end has none in front of given tokens; `braces` says whether curly
brackets may begin an operand. -/
def endsRange (braces : Bool) (ts : Tokens) : Bool :=
  ts.isEmpty || startsPoint ts || rangeEndings.any (startsSign · ts) || startsName "as" ts ||
    (!braces && startsGroup .curly ts)

end SqlFilter.Code
