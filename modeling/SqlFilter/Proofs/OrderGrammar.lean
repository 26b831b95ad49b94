import SqlFilter.Proofs.Sorting
import SqlFilter.Proofs.Translation

/-!
# The grammar of sort texts

Which sort texts are accepted, and what they become, said token by token.

* `Catalog.IsSortToken`: a token is a plus or a minus with a known alias behind it;
* `Builder.ItemOf`: the item of a token has the column that a predicate has for the same alias, and
  the direction of the sign.

The main statement is `Builder.order_by_token`.
-/

namespace SqlFilter

/-! ## Tokens -/

/-- A plus or a minus with an alias behind it that is not empty and known. -/
def Catalog.IsSortToken (c : Catalog) (token : Text) : Prop :=
  ∃ sign aliasName f, token = sign :: aliasName ∧ (sign = '+' ∨ sign = '-') ∧ aliasName ≠ [] ∧
    c.resolve? aliasName = some f

theorem Direction.ofSign?_eq_some_iff {sign : Char} {d : Direction} :
    ofSign? sign = some d ↔ sign = '+' ∧ d = ascending ∨ sign = '-' ∧ d = descending := by
  unfold ofSign?
  split
  · simp [eq_comm]
  · simp [eq_comm]
  · rename_i hplus hminus
    constructor
    · intro h
      cases h
    · rintro (⟨h, -⟩ | ⟨h, -⟩)
      · exact absurd h hplus
      · exact absurd h hminus

namespace Catalog

variable {c : Catalog} {token : Text}

theorem sortTerm?_eq_some_iff {term : SortTerm} :
    c.sortTerm? token = some term ↔
      ∃ sign aliasName, token = sign :: aliasName ∧ aliasName ≠ [] ∧
        Direction.ofSign? sign = some term.direction ∧
          c.resolve? aliasName = some term.field := by
  obtain ⟨f, d⟩ := term
  cases token with
  | nil => simp [sortTerm?]
  | cons sign aliasName =>
      by_cases hempty : aliasName = []
      · simp [sortTerm?, hempty]
      · cases hsign : Direction.ofSign? sign with
        | none => simp [sortTerm?, hempty, hsign]
        | some direction =>
            cases hf : c.resolve? aliasName with
            | none => simp [sortTerm?, hempty, hsign, hf]
            | some field => simp [sortTerm?, hempty, hsign, hf, and_comm]

/-- The tokens that ask for a term are those of the grammar. -/
theorem isSortToken_iff : c.IsSortToken token ↔ ∃ term, c.sortTerm? token = some term := by
  simp only [sortTerm?_eq_some_iff]
  constructor
  · rintro ⟨sign, aliasName, f, rfl, hsign, hempty, hf⟩
    rcases hsign with rfl | rfl
    · exact ⟨⟨f, .ascending⟩, '+', aliasName, rfl, hempty, rfl, hf⟩
    · exact ⟨⟨f, .descending⟩, '-', aliasName, rfl, hempty, rfl, hf⟩
  · rintro ⟨⟨f, d⟩, sign, aliasName, rfl, hempty, hsign, hf⟩
    refine ⟨sign, aliasName, f, rfl, ?_, hempty, hf⟩
    rcases Direction.ofSign?_eq_some_iff.1 hsign with ⟨hplus, -⟩ | ⟨hminus, -⟩
    · exact .inl hplus
    · exact .inr hminus

theorem sortTerm_eq_ok_iff {term : SortTerm} :
    c.sortTerm token = .ok term ↔ c.sortTerm? token = some term := by
  unfold sortTerm
  cases c.sortTerm? token <;> simp

theorem exists_sortTerm_iff : (∃ term, c.sortTerm token = .ok term) ↔ c.IsSortToken token := by
  rw [isSortToken_iff]
  exact exists_congr fun term => sortTerm_eq_ok_iff

theorem sortTerm_eq_error_iff {x : Error} :
    c.sortTerm token = .error x ↔ ¬ c.IsSortToken token ∧ x = .invalidOrderBy token := by
  rw [isSortToken_iff]
  unfold sortTerm
  cases c.sortTerm? token with
  | none => simp [eq_comm]
  | some term => simp

/-- Terms are read from a sort text token by token. -/
theorem sortTerms_eq_ok_iff {sort : Text} (h : sort ≠ []) {terms : List SortTerm} :
    c.sortTerms sort = .ok terms ↔
      List.Forall₂ (fun token term => c.sortTerm? token = some term) (Text.splitOn ';' sort)
        terms := by
  rw [sortTerms, if_neg h, mapM_eq_ok_iff]
  simp only [sortTerm_eq_ok_iff]

/-- A sort text can be read if all of its tokens are in the grammar. -/
theorem exists_sortTerms_iff {sort : Text} (h : sort ≠ []) :
    (∃ terms, c.sortTerms sort = .ok terms) ↔
      ∀ token ∈ Text.splitOn ';' sort, c.IsSortToken token := by
  rw [sortTerms, if_neg h, exists_mapM_eq_ok_iff]
  simp only [exists_sortTerm_iff]

/-- The first token outside the grammar is the failure. -/
theorem sortTerms_eq_error_iff {sort : Text} (h : sort ≠ []) {x : Error} :
    c.sortTerms sort = .error x ↔
      ∃ before token after, Text.splitOn ';' sort = before ++ token :: after ∧
        (∀ t ∈ before, c.IsSortToken t) ∧ ¬ c.IsSortToken token ∧ x = .invalidOrderBy token := by
  rw [sortTerms, if_neg h, mapM_eq_error_iff]
  simp only [exists_sortTerm_iff, sortTerm_eq_error_iff]

end Catalog

/-! ## Items -/

namespace Builder

/-- The item of a token: the column that stands before the test for presence in the predicate of its
alias, with the direction of its sign. -/
def ItemOf (b : Builder) (token item : Text) : Prop :=
  ∃ aliasName column,
    (∀ now, b.build now (.constraint ⟨aliasName, none⟩) =
      .ok ⟨"(".toList ++ column ++ " IS NOT NULL)".toList, []⟩) ∧
    (token = '+' :: aliasName ∧ item = column ++ " ASC".toList ∨
      token = '-' :: aliasName ∧ item = column ++ " DESC".toList)

variable {b : Builder}

/-- The predicate of an alias alone. -/
theorem build_present {aliasName : Text} {f : Field} (h : b.catalog.resolve? aliasName = some f)
    (now : Instant) :
    b.build now (.constraint ⟨aliasName, none⟩) =
      .ok ⟨"(".toList ++ b.column f ++ " IS NOT NULL)".toList, []⟩ := by
  have hbind : b.bind now ⟨aliasName, none⟩ = .ok [] := by simp only [bind, h]
  have hclosed : " IS NOT NULL)".toList = Test.presence ++ [')'] := rfl
  rw [build_constraint_of_bind h hbind, hclosed, List.cons_append, List.append_assoc,
    List.append_assoc]
  rfl

/-- A term that a token asks for is written as the item of the token. -/
theorem itemOf_printTerm {token : Text} {term : SortTerm}
    (h : b.catalog.sortTerm? token = some term) : b.ItemOf token (b.printTerm term) := by
  obtain ⟨f, d⟩ := term
  obtain ⟨sign, aliasName, rfl, -, hsign, hf⟩ := Catalog.sortTerm?_eq_some_iff.1 h
  refine ⟨aliasName, b.column f, build_present hf, ?_⟩
  rcases Direction.ofSign?_eq_some_iff.1 hsign with ⟨rfl, rfl⟩ | ⟨rfl, rfl⟩
  · exact .inl ⟨rfl, rfl⟩
  · exact .inr ⟨rfl, rfl⟩

/-- **Order clauses are made token by token.**  The empty sort text gives the empty clause.  Any
other one is accepted exactly when all of its tokens are in the grammar, and then the clause is the
list of their items in their order; otherwise the failure is the first token that is not, whatever
follows it. -/
theorem order_by_token (b : Builder) :
    b.buildOrder [] = .ok ⟨[]⟩ ∧
      ∀ sort, sort ≠ [] →
        ((∃ o, b.buildOrder sort = .ok o) ↔
          ∀ token ∈ Text.splitOn ';' sort, b.catalog.IsSortToken token) ∧
        (∀ o, b.buildOrder sort = .ok o →
          ∃ items, List.Forall₂ b.ItemOf (Text.splitOn ';' sort) items ∧
            o.sql = Text.joinWith ", ".toList items) ∧
        ∀ x, b.buildOrder sort = .error x ↔
          ∃ before token after, Text.splitOn ';' sort = before ++ token :: after ∧
            (∀ t ∈ before, b.catalog.IsSortToken t) ∧ ¬ b.catalog.IsSortToken token ∧
              x = .invalidOrderBy token := by
  refine ⟨rfl, ?_⟩
  intro sort hsort
  rw [buildOrder_eq, ← Catalog.exists_sortTerms_iff hsort]
  refine ⟨?_, ?_, ?_⟩
  · cases b.catalog.sortTerms sort <;> simp [Except.map]
  · intro o ho
    cases hterms : b.catalog.sortTerms sort with
    | error x =>
        rw [hterms] at ho
        cases ho
    | ok terms =>
        rw [hterms] at ho
        cases ho
        refine ⟨terms.map b.printTerm, ?_, rfl⟩
        rw [List.forall₂_map_right_iff]
        exact ((Catalog.sortTerms_eq_ok_iff hsort).1 hterms).imp fun _ _ => itemOf_printTerm
  · intro x
    rw [← Catalog.sortTerms_eq_error_iff hsort]
    cases b.catalog.sortTerms sort <;> simp [Except.map]

/-- A sort text of a shop that is accepted, and one with a bad token in the middle. -/
theorem order_by_token_goods :
    (∃ items, List.Forall₂ (shop Dialect.mssql.profile).ItemOf ["-P".toList, "+t".toList] items ∧
      "[stock].[price] DESC, [shop].[items].[ti\"t]]le] ASC".toList =
        Text.joinWith ", ".toList items) ∧
    (shop Dialect.mssql.profile).buildOrder "+p;x;-".toList = .error (.invalidOrderBy ['x']) := by
  refine ⟨((order_by_token _).2 "-P;+t".toList (by decide)).2.1 ⟨_⟩ rfl, ?_⟩
  refine (((order_by_token _).2 "+p;x;-".toList (by decide)).2.2 _).2
    ⟨["+p".toList], ['x'], ["-".toList], rfl, ?_, ?_, rfl⟩
  · intro t ht
    cases List.mem_singleton.1 ht
    exact ⟨'+', ['p'], _, rfl, .inl rfl, by decide, rfl⟩
  · rintro ⟨sign, aliasName, f, htoken, hsign, -⟩
    cases htoken
    exact absurd hsign (by decide)

end Builder
end SqlFilter
