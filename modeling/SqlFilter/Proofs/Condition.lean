import SqlFilter.Predicate.Build
import SqlFilter.Proofs.Rendering

/-!
# Conditions

What a constraint asks for once its selector is resolved, apart from how an engine spells it: the
parts of a column reference and a test of that column.

* `Condition` is such a request and `Condition.print` spells it in a profile;
* `Text.IsFixed` is a text of the characters that stand around names and placeholders;
* `Builder.condition?` is the condition of a constraint; there is none when the selector is
  unknown.

A condition has at most one placeholder.  What stands before it and behind it does not depend on
its number: `Test.print_compared`.
-/

namespace SqlFilter

/-! ## Conditions -/

/-- What stands between a column and the value that it is compared with. -/
inductive Operator where
  | like
  | equal
  | notEqual
  | greater
  | greaterOrEqual
  | less
  | lessOrEqual
  deriving Repr, DecidableEq

/-- The sign or keyword of an operator, with a space on either side. -/
def Operator.sign : Operator → String
  | .like => " LIKE "
  | .equal => " = "
  | .notEqual => " <> "
  | .greater => " > "
  | .greaterOrEqual => " >= "
  | .less => " < "
  | .lessOrEqual => " <= "

/-- An operator in writing. -/
def Operator.print (o : Operator) : Text := o.sign.toList

/-- A test of a column. -/
inductive Test where
  /-- The column is not empty. -/
  | present
  /-- The column is compared with a value, which may have any text before it or behind it. -/
  | compared (operator : Operator) (leading trailing : Bool)
  deriving Repr, DecidableEq

/-- A column with a test. -/
structure Condition where
  /-- The parts of the qualifier, outermost first. -/
  qualifier : List Text
  /-- The name of the column. -/
  column : Text
  /-- The test. -/
  test : Test
  deriving Repr, DecidableEq

/-- The number of placeholders of a test. -/
def Test.width : Test → Nat
  | .present => 0
  | .compared .. => 1

theorem Test.width_le_one (t : Test) : t.width ≤ 1 := by
  cases t with
  | present => exact Nat.zero_le 1
  | compared o l t => exact Nat.le_refl 1

/-- What is written behind a column that is not empty. -/
def Test.presence : Text := " IS NOT NULL".toList

/-- A test in writing, where its placeholder has the given number. -/
def Test.print (p : Profile) (number : Nat) : Test → Text
  | .present => presence
  | .compared operator leading trailing =>
    operator.print ++
      p.concatenation.pattern (p.placeholders.placeholder number) leading trailing

namespace Condition

/-- The number of placeholders of a condition. -/
def width (k : Condition) : Nat := k.test.width

/-- The column reference of a condition. -/
def reference (p : Profile) (k : Condition) : Text :=
  k.qualifier.flatMap (fun part => p.identifier part ++ ['.']) ++ p.identifier k.column

/-- A condition in writing, where its placeholder has the given number. -/
def print (p : Profile) (number : Nat) (k : Condition) : Text :=
  k.reference p ++ k.test.print p number

end Condition

theorem Condition.reference_cons (p : Profile) (part : Text) (qualifier : List Text)
    (column : Text) (t : Test) :
    (Condition.mk (part :: qualifier) column t).reference p =
      p.delimiter.quote part ++ '.' :: (Condition.mk qualifier column t).reference p := by
  simp [reference, Profile.identifier]

theorem Condition.reference_nil (p : Profile) (column : Text) (t : Test) :
    (Condition.mk [] column t).reference p = p.delimiter.quote column := rfl

theorem Test.print_eq_cons (p : Profile) (number : Nat) (t : Test) :
    ∃ x, t.print p number = ' ' :: x := by
  cases t with
  | present => exact ⟨_, rfl⟩
  | compared o l t =>
      have ho : ∃ x, o.print = ' ' :: x := by cases o <;> exact ⟨_, rfl⟩
      obtain ⟨x, hx⟩ := ho
      exact ⟨_, by rw [Test.print, hx, List.cons_append]⟩

/-! ## What stands around a placeholder -/

namespace Concatenation

/-- What a pattern has before its operand. -/
def opening (c : Concatenation) (leading trailing : Bool) : Text :=
  if !leading && !trailing then []
  else
    match c with
    | function => "CONCAT(".toList ++ if leading then anyText ++ [','] else []
    | operator => if leading then anyText ++ " || ".toList else []

/-- What a pattern has behind its operand. -/
def closing (c : Concatenation) (leading trailing : Bool) : Text :=
  if !leading && !trailing then []
  else
    match c with
    | function => (if trailing then ',' :: anyText else []) ++ [')']
    | operator => if trailing then " || ".toList ++ anyText else []

theorem pattern_eq (c : Concatenation) (operand : Text) (leading trailing : Bool) :
    c.pattern operand leading trailing =
      c.opening leading trailing ++ operand ++ c.closing leading trailing := by
  unfold pattern opening closing
  by_cases h : !leading && !trailing
  · simp only [if_pos h, List.nil_append, List.append_nil]
  · simp only [if_neg h]
    cases c with
    | function => simp only [List.append_assoc]
    | operator => rfl

end Concatenation

/-! ## Fixed characters -/

/-- The characters of all that is written around names and placeholders. -/
def Text.fixed : Text := " '%(),<=>|ACDEIKLNORSTU".toList

/-- Whether a text has only these characters. -/
def Text.IsFixed (t : Text) : Prop := t.all fixed.contains = true

instance decidableIsFixed (t : Text) : Decidable t.IsFixed :=
  inferInstanceAs (Decidable (t.all Text.fixed.contains = true))

namespace Text.IsFixed

theorem append {x y : Text} (hx : x.IsFixed) (hy : y.IsFixed) : (x ++ y).IsFixed := by
  unfold IsFixed at *
  rw [List.all_append, hx, hy]
  rfl

/-- A class without fixed characters has no characters of a fixed text. -/
theorem avoids {inClass : Char → Bool} {t : Text} (ht : t.IsFixed)
    (h : fixed.any inClass = false) : ∀ c ∈ t, inClass c = false := by
  intro c hc
  have hmem : c ∈ fixed := by simpa using List.all_eq_true.1 ht c hc
  simpa using List.any_eq_false.1 h c hmem

theorem enter : IsFixed ['('] := by decide

theorem leave : IsFixed [')'] := by decide

theorem keyword (j : Joiner) : j.keyword.IsFixed := by
  cases j <;> decide

theorem operator (o : Operator) : o.print.IsFixed := by
  cases o <;> decide

theorem presence : Test.presence.IsFixed := by decide

theorem opening (c : Concatenation) (leading trailing : Bool) :
    (c.opening leading trailing).IsFixed := by
  cases c <;> cases leading <;> cases trailing <;> decide

theorem closing (c : Concatenation) (leading trailing : Bool) :
    (c.closing leading trailing).IsFixed := by
  cases c <;> cases leading <;> cases trailing <;> decide

end Text.IsFixed

/-! ## Placeholders -/

/-- Whether a placeholder can begin with this character. -/
def PlaceholderStyle.isMark (c : Char) : Bool := c = '$' || c = '@' || c = '?'

/-- A placeholder is a mark with digits behind it. -/
theorem PlaceholderStyle.placeholder_eq (s : PlaceholderStyle) (number : Nat) :
    ∃ mark digits, s.placeholder number = mark :: digits ∧ isMark mark = true ∧
      ∀ c ∈ digits, c.isDigit = true := by
  cases s with
  | dollar => exact ⟨_, _, rfl, by decide, fun _ h => Numeral.isDigit_of_mem_digits h⟩
  | atSign => exact ⟨_, _, rfl, by decide, fun _ h => Numeral.isDigit_of_mem_digits h⟩
  | questionMark => exact ⟨_, [], rfl, by decide, by simp⟩

/-- A class without marks and digits has no characters of a placeholder. -/
theorem PlaceholderStyle.avoids_placeholder {inClass : Char → Bool}
    (h : ∀ c, isMark c = true ∨ c.isDigit = true → inClass c = false) (s : PlaceholderStyle)
    (number : Nat) : ∀ c ∈ s.placeholder number, inClass c = false := by
  obtain ⟨mark, digits, hs, hmark, hdigits⟩ := s.placeholder_eq number
  rw [hs]
  intro c hc
  rcases List.mem_cons.1 hc with rfl | hc
  · exact h c (.inl hmark)
  · exact h c (.inr (hdigits c hc))

theorem PlaceholderStyle.isMark_fixed : Text.fixed.any isMark = false := by decide

theorem Concatenation.isDigit_head?_closing (c : Concatenation) (leading trailing : Bool) :
    ∀ x ∈ (c.closing leading trailing).head?, x.isDigit = false := by
  intro x hx
  cases c <;> cases leading <;> cases trailing <;> cases hx <;> decide

/-- A comparison in writing is its placeholder with a text before it and a text behind it. -/
theorem Test.print_compared (p : Profile) (number : Nat) (operator : Operator)
    (leading trailing : Bool) :
    (Test.compared operator leading trailing).print p number =
      operator.print ++ p.concatenation.opening leading trailing ++
        p.placeholders.placeholder number ++ p.concatenation.closing leading trailing := by
  rw [Test.print, Concatenation.pattern_eq]
  simp only [List.append_assoc]

/-! ## The condition of a constraint -/

/-- The operator that a comparison with a field of the type `type` is written as. -/
def Comparison.operator (c : Comparison) (type : FieldType) : Operator :=
  match c with
  | .equal => if type = .text then .like else .equal
  | .notEqual => .notEqual
  | .greater => .greater
  | .greaterOrEqual => .greaterOrEqual
  | .less => .less
  | .lessOrEqual => .lessOrEqual

theorem Comparison.print_operator (c : Comparison) (type : FieldType) :
    (c.operator type).print = c.test type := by
  cases c with
  | equal =>
      unfold operator test
      by_cases h : type = .text
      · rw [if_pos h, if_pos h]
        rfl
      · rw [if_neg h, if_neg h]
        rfl
  | _ => rfl

/-- The test of a constraint on a field of the type `type`.  Wildcards count in pattern matches
only. -/
def Constraint.test (c : Constraint) (type : FieldType) : Test :=
  match c.comparison with
  | none => .present
  | some (comparison, a) =>
    .compared (comparison.operator type) (comparison.isLike type && a.leading)
      (comparison.isLike type && a.trailing)

/-- The parts of the qualifier of a field's column. -/
def Builder.qualifier (b : Builder) (f : Field) : List Text :=
  match f.qualifier.or b.table with
  | none => []
  | some q => Text.splitOn '.' q

/-- The condition of a constraint; there is none for an unknown selector. -/
def Builder.condition? (b : Builder) (c : Constraint) : Option Condition :=
  (b.catalog.resolve? c.selector).map fun f => ⟨b.qualifier f, f.column, c.test f.type⟩

/-- The column reference of a condition is the one that the builder writes for its field. -/
theorem Condition.reference_eq_column (b : Builder) (f : Field) (t : Test) :
    (Condition.mk (b.qualifier f) f.column t).reference b.profile = b.column f := rfl

theorem Constraint.width_test (c : Constraint) (type : FieldType) :
    (c.test type).width = if c.isUnary then 0 else 1 := by
  unfold test isUnary
  cases c.comparison <;> rfl

end SqlFilter
