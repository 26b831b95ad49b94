import SqlFilter.Predicate.Order
import SqlFilter.Proofs.Steps

/-!
# Sort terms

A sort text asks for fields, each in a direction.  Which these are depends on the catalog alone, and
how they are written on the rest of the builder.

* `Catalog.sortTerms` reads the terms of a sort text, or fails at the first token that is no term;
* `Builder.orderClause` writes terms.

`Builder.buildOrder_eq` says that an order clause is read and then written.
-/

namespace SqlFilter

/-- A field with the direction that it is sorted in. -/
structure SortTerm where
  /-- The field. -/
  field : Field
  /-- The direction. -/
  direction : Direction
  deriving Repr, DecidableEq

namespace Catalog

/-- The term that a token asks for: a sign with an alias behind it that is not empty and known. -/
def sortTerm? (c : Catalog) : Text → Option SortTerm
  | [] => none
  | sign :: aliasName =>
    if aliasName = [] then none
    else
      match Direction.ofSign? sign, c.resolve? aliasName with
      | some direction, some field => some ⟨field, direction⟩
      | _, _ => none

/-- The term that a token asks for, or the failure to read it. -/
def sortTerm (c : Catalog) (token : Text) : Except Error SortTerm :=
  match c.sortTerm? token with
  | some term => .ok term
  | none => .error (.invalidOrderBy token)

/-- The terms that a sort text asks for.  The empty text asks for none. -/
def sortTerms (c : Catalog) (sort : Text) : Except Error (List SortTerm) :=
  if sort = [] then .ok [] else (Text.splitOn ';' sort).mapM c.sortTerm

end Catalog

namespace Builder

/-- A term in writing. -/
def printTerm (b : Builder) (t : SortTerm) : Text := b.column t.field ++ ' ' :: t.direction.keyword

/-- The order clause of terms. -/
def orderClause (b : Builder) (terms : List SortTerm) : OrderClause :=
  ⟨Text.joinWith ", ".toList (terms.map b.printTerm)⟩

end Builder

/-! ## Order clauses -/

/-- A sort text that cannot be read fails with one of its tokens. -/
theorem Catalog.eq_invalidOrderBy {c : Catalog} {sort : Text} {x : Error}
    (h : c.sortTerms sort = .error x) :
    ∃ token ∈ Text.splitOn ';' sort, c.sortTerm? token = none ∧ x = .invalidOrderBy token := by
  unfold sortTerms at h
  split at h
  · cases h
  · obtain ⟨before, token, after, htokens, -, hx⟩ := mapM_eq_error_iff.1 h
    refine ⟨token, by simp [htokens], ?_⟩
    unfold sortTerm at hx
    cases hterm : c.sortTerm? token with
    | some term =>
        rw [hterm] at hx
        cases hx
    | none =>
        rw [hterm] at hx
        cases hx
        exact ⟨rfl, rfl⟩

namespace Builder

theorem orderItem_eq (b : Builder) (token : Text) :
    b.orderItem token = (b.catalog.sortTerm token).map b.printTerm := by
  unfold orderItem Catalog.sortTerm Catalog.sortTerm?
  cases token with
  | nil => rfl
  | cons sign aliasName =>
      dsimp only
      cases aliasName with
      | nil => cases Direction.ofSign? sign <;> rfl
      | cons a as =>
          rw [if_neg (List.cons_ne_nil a as)]
          cases Direction.ofSign? sign with
          | none => rfl
          | some direction => cases b.catalog.resolve? (a :: as) <;> rfl

/-- An order clause is read by the catalog and then written. -/
theorem buildOrder_eq (b : Builder) (sort : Text) :
    b.buildOrder sort = (b.catalog.sortTerms sort).map b.orderClause := by
  unfold buildOrder Catalog.sortTerms
  by_cases hsort : sort = []
  · rw [if_pos hsort, if_pos hsort]
    rfl
  · rw [if_neg hsort, if_neg hsort, funext b.orderItem_eq, mapM_map_eq]
    cases (Text.splitOn ';' sort).mapM b.catalog.sortTerm <;> rfl

end Builder
end SqlFilter
