import SqlFilter.Proofs.Sorting
import SqlFilter.Proofs.Unambiguous

/-!
# Order clauses are unambiguous

The text of an order clause tells its items: for each the parts of the column reference and the
direction.  It tells nothing else, so that no client text is in it.  Names may hold any characters,
also commas, points and directions, as long as they are delimited at all.

`SortKey` is an item apart from its spelling.  The main statement is `Builder.order_unique`.
-/

namespace SqlFilter

/-! ## Joined texts -/

/-- What stands behind the first of joined texts. -/
def Text.joinTail (sep : Text) : List Text → Text
  | [] => []
  | t :: rest => sep ++ joinWith sep (t :: rest)

theorem Text.joinWith_cons (sep t : Text) (rest : List Text) :
    joinWith sep (t :: rest) = t ++ joinTail sep rest := by
  cases rest with
  | nil => simp [joinWith, joinTail]
  | cons u rest => simp [joinWith, joinTail]

/-- Joined texts tell what was joined if each of them can be cut off from what follows it. -/
theorem Text.joinWith_cancel {α : Type} {print : α → Text} {sep : Text} (hsep : sep ≠ [])
    (hprint : ∀ x, print x ≠ [])
    (hcancel : ∀ {x y r s}, print x ++ r = print y ++ s → x = y ∧ r = s) :
    ∀ {xs ys : List α}, joinWith sep (xs.map print) = joinWith sep (ys.map print) → xs = ys := by
  intro xs
  induction xs with
  | nil =>
      intro ys h
      cases ys with
      | nil => rfl
      | cons y ys =>
          rw [List.map_cons, joinWith_cons] at h
          exact absurd (List.append_eq_nil_iff.1 h.symm).1 (hprint y)
  | cons x xs ih =>
      intro ys h
      cases ys with
      | nil =>
          rw [List.map_cons, joinWith_cons] at h
          exact absurd (List.append_eq_nil_iff.1 h).1 (hprint x)
      | cons y ys =>
          rw [List.map_cons, List.map_cons, joinWith_cons, joinWith_cons] at h
          obtain ⟨rfl, htail⟩ := hcancel h
          -- a list goes on exactly when a separator follows
          cases xs with
          | nil =>
              cases ys with
              | nil => rfl
              | cons y ys => exact absurd (List.append_eq_nil_iff.1 htail.symm).1 hsep
          | cons x' xs =>
              cases ys with
              | nil => exact absurd (List.append_eq_nil_iff.1 htail).1 hsep
              | cons y ys =>
                  have hrest : x' :: xs = y :: ys := ih (List.append_cancel_left htail)
                  rw [hrest]

/-! ## Items -/

/-- An item of an order clause, apart from how an engine spells it. -/
structure SortKey where
  /-- The parts of the qualifier, outermost first. -/
  qualifier : List Text
  /-- The name of the column. -/
  column : Text
  /-- The direction. -/
  direction : Direction
  deriving Repr, DecidableEq

namespace SortKey

/-- An item in writing. -/
def print (p : Profile) (k : SortKey) : Text :=
  (Condition.mk k.qualifier k.column .present).reference p ++ ' ' :: k.direction.keyword

theorem print_ne_nil (p : Profile) (k : SortKey) : k.print p ≠ [] := by
  simp [print]

end SortKey

theorem Direction.keyword_cancel {d d' : Direction} {r s : Text}
    (h : d.keyword ++ r = d'.keyword ++ s) : d = d' ∧ r = s := by
  have hd : d = d' := by
    have hhead := congrArg List.head? h
    cases d <;> cases d' <;> first | rfl | exact absurd hhead (by simp [keyword])
  subst hd
  exact ⟨rfl, List.append_cancel_left h⟩

/-- An item can be told, and where it ends. -/
theorem SortKey.print_cancel {p : Profile} (hp : p.delimiter ≠ .bare) {k k' : SortKey} {r s : Text}
    (h : k.print p ++ r = k'.print p ++ s) : k = k' ∧ r = s := by
  obtain ⟨qualifier, column, d⟩ := k
  obtain ⟨qualifier', column', d'⟩ := k'
  simp only [print, List.append_assoc, List.cons_append] at h
  obtain ⟨rfl, rfl, hdirection⟩ := reference_cancel hp h
  obtain ⟨rfl, hrest⟩ := Direction.keyword_cancel hdirection
  exact ⟨rfl, hrest⟩

/-! ## Order clauses -/

namespace Builder

/-- The item that a term becomes. -/
def sortKey (b : Builder) (t : SortTerm) : SortKey :=
  ⟨b.qualifier t.field, t.field.column, t.direction⟩

theorem printTerm_eq (b : Builder) (t : SortTerm) : b.printTerm t = (b.sortKey t).print b.profile :=
  rfl

/-- The text of an order clause is that of its items. -/
theorem sql_orderClause (b : Builder) (terms : List SortTerm) :
    (b.orderClause terms).sql =
      Text.joinWith ", ".toList ((terms.map b.sortKey).map (SortKey.print b.profile)) := by
  rw [orderClause, funext b.printTerm_eq, List.map_map]
  rfl

/-- An accepted sort text is that of terms. -/
theorem exists_terms {b : Builder} {sort : Text} {o : OrderClause} (h : b.buildOrder sort = .ok o) :
    ∃ terms, b.catalog.sortTerms sort = .ok terms ∧ o = b.orderClause terms := by
  rw [buildOrder_eq] at h
  cases hterms : b.catalog.sortTerms sort with
  | error x =>
      rw [hterms] at h
      cases h
  | ok terms =>
      rw [hterms] at h
      cases h
      exact ⟨terms, rfl, rfl⟩

/-- **Order clauses are unambiguous.**  Two accepted sort texts in one profile that delimits names,
from whatever catalogs and tables, have the same text exactly when their terms are the same items in
the same order, each with the parts of its column reference and its direction. -/
theorem order_unique {b b' : Builder} {sort sort' : Text} {o o' : OrderClause}
    (hprofile : b'.profile = b.profile) (hbare : b.profile.delimiter ≠ .bare)
    (h : b.buildOrder sort = .ok o) (h' : b'.buildOrder sort' = .ok o') :
    ∃ terms terms', b.catalog.sortTerms sort = .ok terms ∧
      b'.catalog.sortTerms sort' = .ok terms' ∧
      (o.sql = o'.sql ↔ terms.map b.sortKey = terms'.map b'.sortKey) := by
  obtain ⟨terms, hterms, rfl⟩ := exists_terms h
  obtain ⟨terms', hterms', rfl⟩ := exists_terms h'
  refine ⟨terms, terms', hterms, hterms', ?_⟩
  rw [sql_orderClause, sql_orderClause, hprofile]
  constructor
  · intro hsql
    exact Text.joinWith_cancel (by decide) (SortKey.print_ne_nil b.profile)
      (SortKey.print_cancel hbare) hsql
  · intro hkeys
    rw [hkeys]

/-- Two sort texts of different shops with one text. -/
theorem order_unique_goods :
    ∃ terms terms', (shop Dialect.mssql.profile).catalog.sortTerms "-T;+t".toList = .ok terms ∧
      (otherShop Dialect.mssql.profile).catalog.sortTerms "-q;+Q".toList = .ok terms' ∧
      terms.map (shop Dialect.mssql.profile).sortKey =
        [⟨["shop".toList, "items".toList], "ti\"t]le".toList, .descending⟩,
          ⟨["shop".toList, "items".toList], "ti\"t]le".toList, .ascending⟩] ∧
      terms'.map (otherShop Dialect.mssql.profile).sortKey =
        [⟨["shop".toList, "items".toList], "ti\"t]le".toList, .descending⟩,
          ⟨["shop".toList, "items".toList], "ti\"t]le".toList, .ascending⟩] := by
  have h : (shop Dialect.mssql.profile).buildOrder "-T;+t".toList = .ok
      ⟨"[shop].[items].[ti\"t]]le] DESC, [shop].[items].[ti\"t]]le] ASC".toList⟩ := rfl
  have h' : (otherShop Dialect.mssql.profile).buildOrder "-q;+Q".toList = .ok
      ⟨"[shop].[items].[ti\"t]]le] DESC, [shop].[items].[ti\"t]]le] ASC".toList⟩ := rfl
  have hprofile : (otherShop Dialect.mssql.profile).profile =
      (shop Dialect.mssql.profile).profile := rfl
  obtain ⟨terms, terms', hterms, hterms', hkeys⟩ := order_unique hprofile (by decide) h h'
  cases hterms
  exact ⟨_, terms', rfl, hterms', rfl, (hkeys.1 rfl).symm.trans rfl⟩

end Builder
end SqlFilter
