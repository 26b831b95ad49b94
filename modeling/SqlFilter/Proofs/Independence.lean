import SqlFilter.Proofs.Translation

/-!
# Arguments do not reach the text

What a client writes as an argument is bound as a value and never becomes a part of the text of a
predicate.  Neither the literals nor their kinds nor the reference time have an influence on it.
Wildcards have one, but only where equality with a text is asked for.

* `Constraint.blind` is a constraint without the literal and the kind of its argument;
* `Builder.outline` is one without its wildcards too, unless they count.

The main statement is `Builder.arguments_hidden`.
-/

namespace SqlFilter

/-- A constraint without the literal and the kind of its argument. -/
def Constraint.blind (c : Constraint) : Constraint where
  selector := c.selector
  comparison := c.comparison.map fun (comparison, a) =>
    (comparison, { a with literal := [], kind := .text })

namespace Builder

/-- Whether a constraint asks for equality with a text field. -/
def asksText (b : Builder) (c : Constraint) : Bool :=
  c.comparison.any (fun ca => ca.1 = .equal) &&
    (b.catalog.resolve? c.selector).any fun f => f.type = .text

/-- A constraint without the literal and the kind of its argument, and without wildcards unless it
asks for equality with a text field. -/
def outline (b : Builder) (c : Constraint) : Constraint where
  selector := c.selector
  comparison := c.comparison.map fun (comparison, a) =>
    (comparison, ⟨[], .text, b.asksText c && a.leading, b.asksText c && a.trailing⟩)

variable (b : Builder)

theorem outline_blind (c : Constraint) : b.outline c.blind = b.outline c := by
  obtain ⟨selector, comparison⟩ := c
  cases comparison <;> rfl

/-- The outline of a constraint decides its condition. -/
theorem condition?_outline (c : Constraint) : b.condition? (b.outline c) = b.condition? c := by
  unfold condition?
  show (b.catalog.resolve? c.selector).map _ = _
  cases hf : b.catalog.resolve? c.selector with
  | none => rfl
  | some f =>
      have htest : (b.outline c).test f.type = c.test f.type := by
        obtain ⟨selector, comparison⟩ := c
        cases comparison with
        | none => rfl
        | some ca =>
            obtain ⟨comparison, a⟩ := ca
            have hasks : b.asksText ⟨selector, some (comparison, a)⟩ = comparison.isLike f.type := by
              unfold asksText Comparison.isLike
              rw [hf]
              rfl
            show Test.compared _ _ _ = Test.compared _ _ _
            rw [hasks, ← Bool.and_assoc, ← Bool.and_assoc, Bool.and_self]
      rw [Option.map_some, Option.map_some, htest]

/-- **Arguments do not reach the text.**  Two accepted filters of one shape, with the same joiners,
selectors and comparisons, have the same text and as many values, whatever their literals, the kinds
of these and the reference times, if they have the same wildcards.  It is enough that they have the
same wildcards where equality with a text field is asked for. -/
theorem arguments_hidden {b : Builder} {now now' : Instant} {e e' : Expression} {p p' : Predicate}
    (h : b.build now e = .ok p) (h' : b.build now' e' = .ok p') :
    (e.tree.map Constraint.blind = e'.tree.map Constraint.blind →
        p.sql = p'.sql ∧ p.params.length = p'.params.length) ∧
      (e.tree.map b.outline = e'.tree.map b.outline →
        p.sql = p'.sql ∧ p.params.length = p'.params.length) := by
  have houtline : e.tree.map b.outline = e'.tree.map b.outline →
      p.sql = p'.sql ∧ p.params.length = p'.params.length := by
    intro hsame
    have hconditions := congrArg (Tree.map b.condition?) hsame
    simp only [Tree.map_map, condition?_outline] at hconditions
    obtain ⟨hsql, hlength⟩ := build_eq_of_conditions h
    obtain ⟨hsql', hlength'⟩ := build_eq_of_conditions h'
    rw [hsql, hsql', hlength, hlength', hconditions]
    exact ⟨rfl, rfl⟩
  refine ⟨fun hsame => houtline ?_, houtline⟩
  have houtlines := congrArg (Tree.map b.outline) hsame
  simpa only [Tree.map_map, outline_blind] using houtlines

end Builder

/-- A title that is like a word and one that is like a number have the same text, and so have two
prices, one of them with a wildcard that does not count. -/
theorem Builder.arguments_hidden_lamps :
    (∃ p p', (shop Dialect.postgres.profile).build Instant.epoch
          (.constraint ⟨['t'], some (.equal, ⟨"lamp".toList, .text, true, false⟩)⟩) = .ok p ∧
        (shop Dialect.postgres.profile).build Instant.epoch
          (.constraint ⟨['t'], some (.equal, ⟨"42".toList, .number, true, false⟩)⟩) = .ok p' ∧
        p.params ≠ p'.params ∧ p.sql = p'.sql) ∧
      ∃ p p', (shop Dialect.postgres.profile).build Instant.epoch
          (.constraint ⟨['p'], some (.less, ⟨"30".toList, .number, false, false⟩)⟩) = .ok p ∧
        (shop Dialect.postgres.profile).build Instant.epoch
          (.constraint ⟨['p'], some (.less, ⟨"-7".toList, .number, false, true⟩)⟩) = .ok p' ∧
        p.params ≠ p'.params ∧ p.sql = p'.sql := by
  have h₁ : (shop Dialect.postgres.profile).build Instant.epoch
      (.constraint ⟨['t'], some (.equal, ⟨"lamp".toList, .text, true, false⟩)⟩) = .ok
        ⟨"(\"shop\".\"items\".\"ti\"\"t]le\" LIKE CONCAT('%',$1))".toList,
          [.text "lamp".toList]⟩ := rfl
  have h₂ : (shop Dialect.postgres.profile).build Instant.epoch
      (.constraint ⟨['t'], some (.equal, ⟨"42".toList, .number, true, false⟩)⟩) = .ok
        ⟨"(\"shop\".\"items\".\"ti\"\"t]le\" LIKE CONCAT('%',$1))".toList,
          [.text "42".toList]⟩ := rfl
  have h₃ : (shop Dialect.postgres.profile).build Instant.epoch
      (.constraint ⟨['p'], some (.less, ⟨"30".toList, .number, false, false⟩)⟩) =
        .ok ⟨"(\"stock\".\"price\" < $1)".toList, [.int 30]⟩ := rfl
  have h₄ : (shop Dialect.postgres.profile).build Instant.epoch
      (.constraint ⟨['p'], some (.less, ⟨"-7".toList, .number, false, true⟩)⟩) =
        .ok ⟨"(\"stock\".\"price\" < $1)".toList, [.int (-7)]⟩ := rfl
  exact ⟨⟨_, _, h₁, h₂, by decide, ((arguments_hidden h₁ h₂).1 rfl).1⟩,
    _, _, h₃, h₄, by decide, ((arguments_hidden h₃ h₄).2 rfl).1⟩

end SqlFilter
