import SqlFilter.Error

/-!
# Operators

* `Joiner` joins two operands of a group;
* `Comparison` compares a selector with an argument; `Comparison.spelling` is its spelling in a
  filter and `Comparison.named` reads it from one of its spellings.
-/

namespace SqlFilter

/-- What joins two operands of a group. -/
inductive Joiner where
  /-- Both operands hold. -/
  | and
  /-- At least one operand holds. -/
  | or
  deriving Repr, DecidableEq

/-- The keyword of a joiner with a space on either side. -/
def Joiner.keyword : Joiner → Text
  | .and => " AND ".toList
  | .or => " OR ".toList

/-- A comparison between a selector and an argument. -/
inductive Comparison where
  | equal
  | notEqual
  | greater
  | greaterOrEqual
  | less
  | lessOrEqual
  deriving Repr, DecidableEq

namespace Comparison

/-- The spelling of a comparison in a filter. -/
def spelling : Comparison → Text
  | equal => "==".toList
  | notEqual => "!=".toList
  | greater => "=gt=".toList
  | greaterOrEqual => "=ge=".toList
  | less => "=lt=".toList
  | lessOrEqual => "=le=".toList

/-- Every spelling of a comparison. -/
def spellings : List (Text × Comparison) :=
  [("==".toList, equal), ("!=".toList, notEqual),
   ("=gt=".toList, greater), (">".toList, greater),
   ("=ge=".toList, greaterOrEqual), (">=".toList, greaterOrEqual),
   ("=lt=".toList, less), ("<".toList, less),
   ("=le=".toList, lessOrEqual), ("<=".toList, lessOrEqual)]

/-- The comparison of a spelling. -/
def named (token : Text) : Except Error Comparison :=
  match spellings.lookup token with
  | some c => .ok c
  | none => .error (.unknownToken .comparison token)

end Comparison
end SqlFilter
