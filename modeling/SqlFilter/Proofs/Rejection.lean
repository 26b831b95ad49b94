import SqlFilter.Proofs.Fitting

/-!
# Rejected filters

An error in a constraint neither hides nor changes what is found in another: a filter is rejected
with the errors that its constraints have alone, in their order.  A constraint has at most one, for
its selector if that is unknown and for its argument otherwise.

`Builder.errorsAlone` are the errors of a constraint that is the whole filter.  The main statement
is `Builder.errors_accumulate`.
-/

namespace SqlFilter
namespace Builder

/-- The errors of a constraint that is the whole filter. -/
def errorsAlone (b : Builder) (now : Instant) (c : Constraint) : List Error :=
  match b.build now (.constraint c) with
  | .ok _ => []
  | .error x => x.parts

variable {b : Builder} {now : Instant} {c : Constraint}

/-! ## Constraints alone -/

theorem errorsAlone_eq (b : Builder) (now : Instant) (c : Constraint) :
    b.errorsAlone now c = (b.fault? now c).toList := by
  unfold errorsAlone
  cases h : b.fault? now c with
  | none =>
      rw [(b.build_constraint_eq_ok_iff now c _).2 ⟨h, rfl⟩]
      rfl
  | some x =>
      rw [(b.build_constraint_eq_error_iff now c _).2 ⟨x, h, rfl⟩]
      rfl

theorem rejected_iff_fault? :
    (∃ xs, b.build now (.constraint c) = .error (.rejected xs)) ↔ b.fault? now c ≠ none := by
  constructor
  · rintro ⟨xs, h⟩
    obtain ⟨x, hx, -⟩ := (b.build_constraint_eq_error_iff now c _).1 h
    rw [hx]
    simp
  · intro h
    obtain ⟨x, hx⟩ := Option.ne_none_iff_exists'.1 h
    exact ⟨[x], (b.build_constraint_eq_error_iff now c _).2 ⟨x, hx, rfl⟩⟩

/-- An unknown selector is the only error of its constraint. -/
theorem fault?_of_unknown (h : b.catalog.resolve? c.selector = none) :
    b.fault? now c = some (.invalidSelector c.selector) := by
  simp only [fault?, bind, h]

/-- The error of a constraint with a known selector is about its argument. -/
theorem fault?_of_known {f : Field} {x : Error} (hf : b.catalog.resolve? c.selector = some f)
    (hx : b.fault? now c = some x) :
    ∃ comparison a, c.comparison = some (comparison, a) ∧
      (x = .invalidArgumentType c.selector a.print f.type ∨
        ∃ cause, x = .argumentConversion c.selector a.print cause) := by
  cases hc : c.comparison with
  | none => simp [fault?, bind, hf, hc] at hx
  | some ca =>
      refine ⟨ca.1, ca.2, rfl, ?_⟩
      rcases Argument.negotiate_outcome now c.selector f.type ca.2 with
        ⟨n, hn, -⟩ | ⟨-, cause, hn⟩ | ⟨-, hn⟩
      · rw [fault?, bind_compared hf hc, hn] at hx
        cases hx
      · rw [fault?_of_negotiate hf hc hn] at hx
        cases hx
        exact .inr ⟨cause, rfl⟩
      · rw [fault?_of_negotiate hf hc hn] at hx
        cases hx
        exact .inl rfl

/-! ## Whole filters -/

/-- **Errors accumulate.**  A filter is rejected exactly when one of its constraints is rejected
alone, and its errors are those that its constraints have alone, in their order.  Alone, a
constraint with an unknown selector is rejected for that, whatever it is compared with; another is
accepted, or it is rejected for its argument with one error that quotes selector and argument. -/
theorem errors_accumulate (b : Builder) (now : Instant) (e : Expression) :
    (∀ x, b.build now e = .error x ↔
        (∃ c ∈ e.constraints, ∃ xs, b.build now (.constraint c) = .error (.rejected xs)) ∧
          x = .rejected (e.constraints.flatMap (b.errorsAlone now))) ∧
      ∀ c : Constraint,
        (b.catalog.resolve? c.selector = none →
          b.build now (.constraint c) = .error (.rejected [.invalidSelector c.selector])) ∧
        ∀ f, b.catalog.resolve? c.selector = some f →
          (∃ p, b.build now (.constraint c) = .ok p) ∨
            ∃ comparison a x, c.comparison = some (comparison, a) ∧
              b.build now (.constraint c) = .error (.rejected [x]) ∧
              (x = .invalidArgumentType c.selector a.print f.type ∨
                ∃ cause, x = .argumentConversion c.selector a.print cause) := by
  have herrors : e.constraints.flatMap (b.errorsAlone now) =
      e.constraints.filterMap (b.fault? now) := by
    rw [List.filterMap_eq_flatMap_toList, funext (errorsAlone_eq b now)]
  refine ⟨?_, ?_⟩
  · intro x
    rw [build_eq_error_iff, herrors]
    simp only [rejected_iff_fault?]
  · intro c
    refine ⟨?_, ?_⟩
    · intro h
      exact (b.build_constraint_eq_error_iff now c _).2 ⟨_, fault?_of_unknown h, rfl⟩
    · intro f hf
      cases h : b.fault? now c with
      | none => exact .inl ⟨_, (b.build_constraint_eq_ok_iff now c _).2 ⟨h, rfl⟩⟩
      | some x =>
          obtain ⟨comparison, a, hc, hx⟩ := fault?_of_known hf h
          exact .inr ⟨comparison, a, x, hc,
            (b.build_constraint_eq_error_iff now c _).2 ⟨x, h, rfl⟩, hx⟩

end Builder

/-- Goods with a price that is no number or no whole one, and with a colour, which is not kept. -/
def Expression.oddities : Expression :=
  .group (.constraint ⟨['p'], some (.less, ⟨"low".toList, .text, false, true⟩)⟩)
    [(.and, .constraint ⟨['t'], none⟩),
     (.or, .group (.constraint ⟨['c'], none⟩)
      [(.and, .constraint ⟨['P'], some (.greater, ⟨"1.5".toList, .number, false, false⟩)⟩),
       (.and, .constraint ⟨['c'], some (.equal, ⟨"red".toList, .text, false, false⟩)⟩)])]

/-- The filter for oddities is rejected with four errors, as one of its constraints is. -/
theorem Builder.errors_accumulate_oddities :
    (∃ c ∈ Expression.oddities.constraints, ∃ xs,
        (shop Dialect.sqlite.profile).build Instant.epoch (.constraint c) =
          .error (.rejected xs)) ∧
      (shop Dialect.sqlite.profile).build Instant.epoch Expression.oddities = .error (.rejected
        [.invalidArgumentType ['p'] "low*".toList .integer, .invalidSelector ['c'],
          .argumentConversion ['P'] "1.5".toList ⟨"1.5".toList, "integer".toList⟩,
          .invalidSelector ['c']]) := by
  have hbad : ∃ c ∈ Expression.oddities.constraints, ∃ xs,
      (shop Dialect.sqlite.profile).build Instant.epoch (.constraint c) =
        .error (.rejected xs) := by
    refine ⟨⟨['c'], none⟩, ?_, _, rfl⟩
    simp [Expression.oddities, Expression.constraints, Expression.restConstraints]
  exact ⟨hbad, ((errors_accumulate _ _ _).1 _).2 ⟨hbad, rfl⟩⟩

end SqlFilter
