import Mathlib.Data.List.Basic
import SqlFilter.Proofs.Sorting
import SqlFilter.Proofs.Translation

/-!
# The dialect only changes spelling

Two builders with one catalog accept the same filters with the same values and the same sort texts
with the same terms, and they reject all others with the same errors, whatever their profiles and
tables.

The main statement is `Builder.spelling_only`.
-/

namespace SqlFilter

/-- Two results that come to the same are both good, or they are the same failure. -/
theorem alike_of_map_eq {α β ε : Type} {f : α → β} {x y : Except ε α} (h : x.map f = y.map f) :
    (∃ a a', x = .ok a ∧ y = .ok a' ∧ f a = f a') ∨
      ∃ failure, x = .error failure ∧ y = .error failure := by
  cases x with
  | ok a =>
      cases y with
      | ok a' => exact .inl ⟨a, a', rfl, rfl, Except.ok.inj h⟩
      | error failure => cases h
  | error failure =>
      cases y with
      | ok a' => cases h
      | error failure' =>
          cases h
          exact .inr ⟨failure, rfl, rfl⟩

namespace Builder

variable {b b' : Builder} {now : Instant}

/-- What a constraint binds depends on nothing but the type of its field. -/
theorem bind_congr {c : Constraint}
    (h : (b.catalog.resolve? c.selector).map Field.type =
      (b'.catalog.resolve? c.selector).map Field.type) : b.bind now c = b'.bind now c := by
  unfold bind
  cases hf : b.catalog.resolve? c.selector with
  | none =>
      rw [hf] at h
      rw [Option.map_eq_none_iff.1 h.symm]
  | some f =>
      rw [hf] at h
      obtain ⟨f', hf', htype⟩ := Option.map_eq_some_iff.1 h.symm
      rw [hf']
      simp only [htype]

section Binding

variable {constraints : List Constraint}
  (h : ∀ c ∈ constraints, b.bind now c = b'.bind now c)
include h

/-- Constraints that bind the same have the same errors. -/
theorem faults_congr :
    constraints.filterMap (b.fault? now) = constraints.filterMap (b'.fault? now) := by
  apply List.filterMap_congr
  intro c hc
  rw [fault?, fault?, h c hc]

/-- Constraints that bind the same have the same values. -/
theorem values_congr :
    constraints.flatMap (b.values now) = constraints.flatMap (b'.values now) := by
  apply List.flatMap_congr
  intro c hc
  rw [values, values, h c hc]

end Binding

/-- Two builders whose constraints bind the same come to the same, the text apart. -/
theorem map_params_build (b b' : Builder) (now : Instant) (e : Expression)
    (h : ∀ c ∈ e.constraints, b.bind now c = b'.bind now c) :
    (b.build now e).map Predicate.params = (b'.build now e).map Predicate.params := by
  rw [build_eq, build_eq, faults_congr h, values_congr h]
  unfold ErrorList.finish
  cases e.constraints.filterMap (b'.fault? now) <;> rfl

/-- **The dialect only changes spelling.**  Under any two profiles and tables, a filter is accepted
with the same values or rejected with the same errors, and a sort text is read as the same terms,
which each builder writes, or fails with the same token. -/
theorem spelling_only (catalog : Catalog) (p p' : Profile) (table table' : Option Text)
    (now : Instant) (e : Expression) (sort : Text) :
    ((∃ q q', Builder.build ⟨catalog, p, table⟩ now e = .ok q ∧
          Builder.build ⟨catalog, p', table'⟩ now e = .ok q' ∧ q.params = q'.params) ∨
        ∃ xs, Builder.build ⟨catalog, p, table⟩ now e = .error (.rejected xs) ∧
          Builder.build ⟨catalog, p', table'⟩ now e = .error (.rejected xs)) ∧
      ((∃ terms, catalog.sortTerms sort = .ok terms ∧
          Builder.buildOrder ⟨catalog, p, table⟩ sort =
            .ok (Builder.orderClause ⟨catalog, p, table⟩ terms) ∧
          Builder.buildOrder ⟨catalog, p', table'⟩ sort =
            .ok (Builder.orderClause ⟨catalog, p', table'⟩ terms)) ∨
        ∃ token, Builder.buildOrder ⟨catalog, p, table⟩ sort = .error (.invalidOrderBy token) ∧
          Builder.buildOrder ⟨catalog, p', table'⟩ sort = .error (.invalidOrderBy token)) := by
  refine ⟨?_, ?_⟩
  · rcases alike_of_map_eq (map_params_build ⟨catalog, p, table⟩ ⟨catalog, p', table'⟩ now e
      fun c _ => bind_congr rfl) with haccepted | ⟨x, hx, hx'⟩
    · exact .inl haccepted
    · obtain ⟨-, rfl⟩ := (build_eq_error_iff _ now e x).1 hx
      exact .inr ⟨_, hx, hx'⟩
  · rw [buildOrder_eq, buildOrder_eq]
    cases hterms : catalog.sortTerms sort with
    | ok terms => exact .inl ⟨terms, rfl, rfl, rfl⟩
    | error x =>
        obtain ⟨token, -, -, rfl⟩ := Catalog.eq_invalidOrderBy hterms
        exact .inr ⟨token, rfl, rfl⟩

/-- Two dialects spell the terms of one sort text each in its own way. -/
example (p : Profile) :
    ((shop p).catalog.sortTerms "-P;+t".toList).map (List.map SortTerm.direction) =
        .ok [.descending, .ascending] ∧
      (shop Dialect.mssql.profile).buildOrder "-P;+t".toList =
        .ok ⟨"[stock].[price] DESC, [shop].[items].[ti\"t]]le] ASC".toList⟩ ∧
      (shop Dialect.sqlite.profile).buildOrder "-P;+t".toList =
        .ok ⟨"\"stock\".\"price\" DESC, \"shop\".\"items\".\"ti\"\"t]le\" ASC".toList⟩ :=
  ⟨rfl, rfl, rfl⟩

end Builder
end SqlFilter
