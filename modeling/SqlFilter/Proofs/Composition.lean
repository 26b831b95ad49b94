import SqlFilter.Proofs.Translation

/-!
# Predicates are composed of predicates

The predicate of a filter is put together from the predicates that its constraints have alone,
without anything that passes from one constraint to the next but the count of the values.

* `Builder.alone` is the predicate of a constraint that is the whole filter;
* `Builder.ownText` is its text without the outer parentheses, with another number at its
  placeholder;
* `Builder.build_composed` composes these in the shape of the filter.
-/

namespace SqlFilter

/-! ## Another number at a placeholder -/

namespace PlaceholderStyle

/-- The sign in front of the number of a placeholder. -/
def sign? : PlaceholderStyle → Option Char
  | dollar => some '$'
  | atSign => some '@'
  | questionMark => none

/-- The text with another number at its last placeholder. -/
def renumber (s : PlaceholderStyle) (number : Nat) (t : Text) : Text :=
  match s.sign? with
  | none => t
  | some sign =>
    match Text.cutLast sign t with
    | none => t
    | some (before, after) => before ++ s.placeholder number ++ after.dropWhile Char.isDigit

theorem placeholder_of_sign {s : PlaceholderStyle} {sign : Char} (h : s.sign? = some sign)
    (number : Nat) : s.placeholder number = sign :: Numeral.digits number := by
  cases s <;> cases h <;> rfl

theorem isMark_of_sign {s : PlaceholderStyle} {sign : Char} (h : s.sign? = some sign) :
    isMark sign = true ∧ sign.isDigit = false := by
  cases s <;> cases h <;> decide

/-- A placeholder gets another number when neither sign nor digits come behind it. -/
theorem renumber_append (s : PlaceholderStyle) (number other : Nat) (before : Text) {after : Text}
    (hsign : ∀ sign, s.sign? = some sign → sign ∉ after)
    (hdigit : ∀ c ∈ after.head?, c.isDigit = false) :
    s.renumber other (before ++ s.placeholder number ++ after) =
      before ++ s.placeholder other ++ after := by
  unfold renumber
  cases h : s.sign? with
  | none => cases s <;> first | rfl | cases h
  | some sign =>
      have hcut : sign ∉ Numeral.digits number ++ after := by
        intro hmem
        rcases List.mem_append.1 hmem with hmem | hmem
        · have := Numeral.isDigit_of_mem_digits hmem
          rw [(isMark_of_sign h).2] at this
          exact absurd this (by decide)
        · exact hsign sign h hmem
      have hdrop : (Numeral.digits number ++ after).dropWhile Char.isDigit = after := by
        rw [List.dropWhile_append_of_pos fun c hc => Numeral.isDigit_of_mem_digits hc]
        cases after with
        | nil => rfl
        | cons c rest => rw [List.dropWhile_cons_of_neg]; simp [hdigit c rfl]
      rw [placeholder_of_sign h number, List.append_assoc, List.cons_append]
      simp only [Text.cutLast_append hcut, hdrop]

end PlaceholderStyle

/-! ## Constraints alone -/

namespace Builder

/-- The predicate of a constraint that is the whole filter; empty where it has an error. -/
def alone (b : Builder) (now : Instant) (c : Constraint) : Predicate :=
  match b.build now (.constraint c) with
  | .ok p => p
  | .error _ => ⟨[], []⟩

/-- The text that a constraint has alone, without the outer parentheses, with another number at its
placeholder, if it has one.  The placeholder is the last one that can be found: only the literal
for any text and a parenthesis can stand behind it. -/
def ownText (b : Builder) (now : Instant) (number : Nat) (c : Constraint) : Text :=
  let inner := (b.alone now c).sql.tail.dropLast
  if c.isUnary then inner else b.profile.placeholders.renumber number inner

variable {b : Builder} {now : Instant} {c : Constraint}

theorem alone_eq (h : b.fault? now c = none) :
    b.alone now c = ⟨'(' :: b.text 1 c ++ [')'], b.values now c⟩ := by
  rw [alone, (b.build_constraint_eq_ok_iff now c _).2 ⟨h, rfl⟩]

/-- A constraint has one text up to the number at its placeholder. -/
theorem renumber_text (number other : Nat) (hc : c.isUnary = false) :
    b.profile.placeholders.renumber other (b.text number c) = b.text other c := by
  unfold text
  cases hk : b.condition? c with
  | none => cases b.profile.placeholders <;> rfl
  | some k =>
      obtain ⟨f, -, rfl⟩ := Option.map_eq_some_iff.1 hk
      obtain ⟨⟨comparison, a⟩, hca⟩ : ∃ ca, c.comparison = some ca := by
        unfold Constraint.isUnary at hc
        exact Option.isSome_iff_exists.1 (by simpa using hc)
      simp only [Condition.print, Constraint.test, hca, Test.print_compared, ← List.append_assoc]
      refine PlaceholderStyle.renumber_append _ number other _ (fun sign hsign hmem => ?_)
        (b.profile.concatenation.isDigit_head?_closing _ _)
      have hmark := (Text.IsFixed.closing _ _ _).avoids PlaceholderStyle.isMark_fixed sign hmem
      rw [(PlaceholderStyle.isMark_of_sign hsign).1] at hmark
      exact absurd hmark (by decide)

/-- The text that a constraint adds to a filter is its own, numbered for its place. -/
theorem ownText_eq (h : b.fault? now c = none) (number : Nat) :
    b.ownText now number c = b.text number c := by
  have hinner : (b.alone now c).sql.tail.dropLast = b.text 1 c := by
    rw [alone_eq h, List.cons_append, List.tail_cons, List.dropLast_concat]
  unfold ownText
  rw [hinner]
  cases hc : c.isUnary with
  | false => exact renumber_text 1 number hc
  | true =>
      have hca : c.comparison = none := by simpa [Constraint.isUnary] using hc
      simp only [if_true, text]
      cases hk : b.condition? c with
      | none => rfl
      | some k =>
          obtain ⟨f, -, rfl⟩ := Option.map_eq_some_iff.1 hk
          simp only [Condition.print, Constraint.test, hca, Test.print]

end Builder

/-! ## Filters composed of their constraints -/

/-- A text in an extra pair of parentheses when the filter is a single constraint. -/
def Expression.enclose (t : Text) : Expression → Text
  | .constraint _ => '(' :: t ++ [')']
  | .group .. => t

theorem Expression.write_grouped (text : Nat → Constraint → Text) (width : Constraint → Nat)
    (e : Expression) (next : Nat) :
    e.tree.grouped.write text width next = e.enclose (e.tree.write text width next) := by
  cases e with
  | constraint c => simp [tree, Tree.grouped, Tree.write, Tree.restWrite, enclose]
  | group first rest => rw [tree, Tree.grouped, enclose]; simp

/-- A filter whose constraints have no errors is written by their own texts. -/
theorem Builder.write_ownText {b : Builder} {now : Instant} {e : Expression}
    (h : ∀ c ∈ e.constraints, b.fault? now c = none) :
    e.tree.grouped.write (b.ownText now) (fun c => (b.alone now c).params.length) 1 =
      e.tree.grouped.write b.text (b.width now) 1 := by
  refine Tree.write_congr _ _ ?_ ?_ <;> rw [Expression.leaves_tree_grouped]
  · intro c hc
    rw [alone_eq (h c hc), width]
  · intro c hc n
    exact ownText_eq (h c hc) n

/-- **Predicates are composed of predicates.**  Where each constraint is accepted alone, the whole
filter is accepted.  Its values are those that the constraints bind alone, from left to right, and
its text is that of the tree: each constraint has its own text, numbered on from the values to its
left, groups stand in parentheses, and a single constraint gets a pair of its own. -/
theorem Builder.build_composed (b : Builder) (now : Instant) (e : Expression)
    (h : ∀ c ∈ e.constraints, ∃ p, b.build now (.constraint c) = .ok p) :
    b.build now e = .ok
      ⟨e.enclose (e.tree.write (b.ownText now) (fun c => (b.alone now c).params.length) 1),
        e.constraints.flatMap fun c => (b.alone now c).params⟩ := by
  have hok : ∀ c ∈ e.constraints, b.fault? now c = none := by
    intro c hc
    obtain ⟨p, hp⟩ := h c hc
    exact ((b.build_constraint_eq_ok_iff now c p).1 hp).1
  have hparams : ∀ c ∈ e.constraints, (b.alone now c).params = b.values now c :=
    fun c hc => by rw [alone_eq (hok c hc)]
  refine (b.build_eq_ok_iff now e _).2 ⟨hok, ?_⟩
  rw [← Expression.write_grouped, write_ownText hok, List.flatMap_def, List.flatMap_def,
    List.map_congr_left hparams]

/-- The filter for lamps is composed of what its three constraints are translated to alone. -/
theorem Builder.build_composed_lamps :
    (∀ c ∈ Expression.lamps.constraints,
        ∃ p, (shop Dialect.postgres.profile).build Instant.epoch (.constraint c) = .ok p) ∧
      (shop Dialect.postgres.profile).build Instant.epoch Expression.lamps = .ok
        ⟨"(\"stock\".\"price\" IS NOT NULL AND ".toList ++
            "(\"shop\".\"items\".\"ti\"\"t]le\" LIKE CONCAT('%',$1,'%')".toList ++
            " OR \"stock\".\"price\" < $2))".toList,
          [.text "lamp".toList, .int 30]⟩ := by
  have h : ∀ c ∈ Expression.lamps.constraints,
      ∃ p, (shop Dialect.postgres.profile).build Instant.epoch (.constraint c) = .ok p := by
    rw [Expression.constraints_lamps]
    intro c hc
    simp only [List.mem_cons, List.not_mem_nil, or_false] at hc
    rcases hc with rfl | rfl | rfl <;> exact ⟨_, rfl⟩
  exact ⟨h, (build_composed _ _ _ h).trans rfl⟩

end SqlFilter
