import SqlFilter.Proofs.ColumnReading
import SqlFilter.Proofs.Translation

/-!
# Predicates are unambiguous

The text of a predicate tells its skeleton: the groups, the joiners and, for each constraint, the
parts of the column reference, the operator and the wildcards.  Names may hold any characters, also
quotes, brackets and keywords, as long as they are delimited at all.

Each kind of text can be cut off in one way only from what follows it.  A lemma of the kind
`…_cancel` says that of two equal texts `x ++ r` and `y ++ s`, where `x` and `y` are of one kind and
`r` and `s` can follow it, the parts are equal.

The main statement is `Builder.skeleton_unique`.
-/

namespace SqlFilter

/-! ## Cutting at a character -/

/-- Two equal texts are equal on both sides of the first occurrence of a character. -/
theorem Text.cut_cancel {sep : Char} {x y r s : Text} (hx : sep ∉ x) (hy : sep ∉ y)
    (h : x ++ sep :: r = y ++ sep :: s) : x = y ∧ r = s := by
  have hcut := congrArg (Text.cutFirst sep) h
  rw [Text.cutFirst_append hx, Text.cutFirst_append hy] at hcut
  simpa using hcut

/-! ## Delimited names -/

namespace Delimiter

theorem pair?_of_ne_bare {d : Delimiter} (hd : d ≠ bare) :
    ∃ opening closing, d.pair? = some (opening, closing) ∧
      opening ≠ '(' ∧ closing ≠ '.' ∧ closing ≠ ' ' := by
  cases d with
  | bare => exact absurd rfl hd
  | doubleQuote => exact ⟨_, _, rfl, by decide⟩
  | bracket => exact ⟨_, _, rfl, by decide⟩
  | backtick => exact ⟨_, _, rfl, by decide⟩

theorem head?_quote {d : Delimiter} (hd : d ≠ bare) (x r : Text) :
    (d.quote x ++ r).head? ≠ some '(' := by
  obtain ⟨opening, closing, hpair, hopening, -⟩ := pair?_of_ne_bare hd
  simp only [quote, hpair, List.cons_append, List.head?_cons]
  simpa using hopening

end Delimiter

/-! ## Column references -/

theorem Condition.reference_eq_writeReference (p : Profile) (qualifier : List Text)
    (column : Text) (t : Test) :
    (Condition.mk qualifier column t).reference p =
      p.delimiter.writeReference qualifier column := rfl

/-- The parts of a column reference can be told apart, and from the test behind it. -/
theorem reference_cancel {p : Profile} (hp : p.delimiter ≠ .bare)
    {qualifier qualifier' : List Text} {column column' : Text} {t t' : Test} {r s : Text}
    (h : (Condition.mk qualifier column t).reference p ++ ' ' :: r =
      (Condition.mk qualifier' column' t').reference p ++ ' ' :: s) :
    qualifier = qualifier' ∧ column = column' ∧ r = s := by
  obtain ⟨opening, closing, hpair, -, -, hspace⟩ := Delimiter.pair?_of_ne_bare hp
  -- a reader of references finds the same names in both texts and leaves the same behind them
  have hread : ∀ (parts : List Text) (name rest : Text),
      p.delimiter.readReference? (p.delimiter.writeReference parts name ++ ' ' :: rest) =
        some (parts ++ [name], ' ' :: rest) := by
    intro parts name rest
    have hclosing : (' ' :: rest).head? ≠ some closing := by simpa using Ne.symm hspace
    exact Delimiter.readReference?_writeReference hpair hclosing (by simp) parts name
  have hboth := congrArg p.delimiter.readReference? h
  rw [Condition.reference_eq_writeReference, Condition.reference_eq_writeReference, hread,
    hread] at hboth
  simp only [Option.some.injEq, Prod.mk.injEq, List.cons.injEq, true_and] at hboth
  obtain ⟨hqualifier, hcolumn⟩ := List.append_inj' hboth.1 rfl
  exact ⟨hqualifier, (List.cons.inj hcolumn).1, hboth.2⟩

/-! ## Tests -/

/-- What can follow a condition: the end of its group, or a joiner. -/
def FollowsCondition (r : Text) : Prop :=
  (∃ x, r = ')' :: x) ∨ ∃ (j : Joiner) (x : Text), r = j.keyword ++ x

/-- No operator is the beginning of another, or of the test for presence, or the other way. -/
theorem Operator.eq_of_isBeginning (o o' : Operator) (h : o.print <+: o'.print) : o = o' := by
  cases o <;> cases o' <;> first | rfl | exact absurd h (by decide)

theorem Operator.presence_apart (o : Operator) :
    ¬ Test.presence <+: o.print ∧ ¬ o.print <+: Test.presence := by
  cases o <;> decide

theorem Joiner.eq_of_isBeginning (j j' : Joiner) (h : j.keyword <+: j'.keyword) : j = j' := by
  cases j <;> cases j' <;> first | rfl | exact absurd h (by decide)

theorem Joiner.head?_keyword (j : Joiner) (x : Text) : (j.keyword ++ x).head? = some ' ' := by
  cases j <;> rfl

theorem beginning_total {x y r s : Text} (h : x ++ r = y ++ s) : x <+: y ∨ y <+: x :=
  List.prefix_or_prefix_of_prefix ⟨r, rfl⟩ ⟨s, h.symm⟩

theorem Operator.print_cancel {o o' : Operator} {r s : Text}
    (h : o.print ++ r = o'.print ++ s) : o = o' ∧ r = s := by
  have ho : o = o' := by
    rcases beginning_total h with h | h
    · exact eq_of_isBeginning o o' h
    · exact (eq_of_isBeginning o' o h).symm
  subst ho
  exact ⟨rfl, List.append_cancel_left h⟩

theorem Joiner.keyword_cancel {j j' : Joiner} {r s : Text}
    (h : j.keyword ++ r = j'.keyword ++ s) : j = j' ∧ r = s := by
  have hj : j = j' := by
    rcases beginning_total h with h | h
    · exact eq_of_isBeginning j j' h
    · exact (eq_of_isBeginning j' j h).symm
  subst hj
  exact ⟨rfl, List.append_cancel_left h⟩

/-! ## Patterns -/

namespace Concatenation

theorem leading_of_opening (c : Concatenation) {l t l' t' : Bool}
    (h : c.opening l t = c.opening l' t') : l = l' := by
  cases c <;> cases l <;> cases t <;> cases l' <;> cases t' <;>
    first | rfl | exact absurd h (by decide)

/-- A pattern that goes on behind its placeholder can be told from one that ends there. -/
theorem closing_apart (c : Concatenation) {l : Bool} {r s : Text} (hr : FollowsCondition r)
    (hopening : c.opening l false = c.opening l true) :
    c.closing l false ++ r ≠ c.closing l true ++ s := by
  intro h
  cases c with
  | function =>
      cases l with
      | false => exact absurd hopening (by decide)
      | true => exact absurd (congrArg List.head? h) (by simp [closing])
  | operator =>
      have hbar : [' ', '|'] <+: r := by
        have hr : r = closing operator l true ++ s := by
          rw [← h]
          cases l <;> rfl
        rw [hr]
        refine List.IsPrefix.trans ?_ (List.prefix_append _ s)
        cases l <;> decide
      rcases hr with ⟨x, rfl⟩ | ⟨j, x, rfl⟩
      · exact absurd (List.cons_prefix_cons.1 hbar).1 (by decide)
      · rcases List.prefix_or_prefix_of_prefix hbar (List.prefix_append j.keyword x) with h | h <;>
          cases j <;> exact absurd h (by decide)

/-- The wildcards of a pattern can be told, and where it ends. -/
theorem pattern_cancel (c : Concatenation) {mark : Char} (hmark : PlaceholderStyle.isMark mark)
    (digits : Text) {l t l' t' : Bool} {r s : Text} (hr : FollowsCondition r)
    (hs : FollowsCondition s)
    (h : c.pattern (mark :: digits) l t ++ r = c.pattern (mark :: digits) l' t' ++ s) :
    l = l' ∧ t = t' ∧ r = s := by
  have hnot : ∀ l t, mark ∉ c.opening l t := by
    intro l t hmem
    have hnot := (Text.IsFixed.opening c l t).avoids PlaceholderStyle.isMark_fixed mark hmem
    rw [hnot] at hmark
    exact absurd hmark (by decide)
  simp only [pattern_eq, List.append_assoc, List.cons_append] at h
  obtain ⟨hopening, hrest⟩ := Text.cut_cancel (hnot l t) (hnot l' t') h
  have hl : l = l' := c.leading_of_opening hopening
  subst hl
  replace hrest := List.append_cancel_left hrest
  cases t with
  | false =>
      cases t' with
      | false => exact ⟨rfl, rfl, List.append_cancel_left hrest⟩
      | true => exact absurd hrest (c.closing_apart hr hopening)
  | true =>
      cases t' with
      | false => exact absurd hrest.symm (c.closing_apart hs hopening.symm)
      | true => exact ⟨rfl, rfl, List.append_cancel_left hrest⟩

end Concatenation

/-! ## Conditions -/

/-- A test can be told, and where it ends. -/
theorem Test.print_cancel {p : Profile} {number : Nat} {r s : Text} (hr : FollowsCondition r)
    (hs : FollowsCondition s) :
    ∀ {t t' : Test}, t.print p number ++ r = t'.print p number ++ s → t = t' ∧ r = s
  | .present, .present, h => ⟨rfl, List.append_cancel_left h⟩
  | .present, .compared o _ _, h => by
      rw [Test.print, Test.print, List.append_assoc] at h
      rcases beginning_total h with h | h
      · exact absurd h o.presence_apart.1
      · exact absurd h o.presence_apart.2
  | .compared o _ _, .present, h => by
      rw [Test.print, Test.print, List.append_assoc] at h
      rcases beginning_total h with h | h
      · exact absurd h o.presence_apart.2
      · exact absurd h o.presence_apart.1
  | .compared o _ _, .compared o' _ _, h => by
      obtain ⟨mark, digits, hplaceholder, hmark, -⟩ := p.placeholders.placeholder_eq number
      rw [Test.print, Test.print, List.append_assoc, List.append_assoc, hplaceholder] at h
      obtain ⟨rfl, hpattern⟩ := Operator.print_cancel h
      obtain ⟨rfl, rfl, hrest⟩ := p.concatenation.pattern_cancel hmark digits hr hs hpattern
      exact ⟨rfl, hrest⟩

/-- A condition can be told, and where it ends. -/
theorem Condition.print_cancel {p : Profile} (hp : p.delimiter ≠ .bare) {number : Nat} {r s : Text}
    (hr : FollowsCondition r) (hs : FollowsCondition s) {k k' : Condition}
    (h : k.print p number ++ r = k'.print p number ++ s) : k = k' ∧ r = s := by
  obtain ⟨qualifier, column, t⟩ := k
  obtain ⟨qualifier', column', t'⟩ := k'
  obtain ⟨x, hx⟩ := t.print_eq_cons p number
  obtain ⟨y, hy⟩ := t'.print_eq_cons p number
  simp only [print, hx, hy, List.append_assoc, List.cons_append] at h
  obtain ⟨rfl, rfl, hrest⟩ := reference_cancel hp h
  have htest : t.print p number ++ r = t'.print p number ++ s := by
    rw [hx, hy, List.cons_append, List.cons_append, hrest]
  obtain ⟨rfl, hrest⟩ := Test.print_cancel hr hs htest
  exact ⟨rfl, hrest⟩

/-- A condition does not begin with a parenthesis. -/
theorem Condition.head?_print {p : Profile} (hp : p.delimiter ≠ .bare) (number : Nat)
    (k : Condition) (r : Text) : (k.print p number ++ r).head? ≠ some '(' := by
  obtain ⟨qualifier, column, t⟩ := k
  cases qualifier with
  | nil =>
      rw [print, reference_nil, List.append_assoc]
      exact Delimiter.head?_quote hp _ _
  | cons part qualifier =>
      rw [print, reference_cons, List.append_assoc, List.append_assoc]
      exact Delimiter.head?_quote hp _ _

/-! ## Trees of conditions -/

/-- What follows an operand can follow a condition. -/
theorem followsCondition_restWrite (text : Nat → Condition → Text) (width : Condition → Nat)
    (n : Nat) (rest : List (Joiner × Tree Condition)) (r : Text) :
    FollowsCondition (Tree.restWrite text width n rest ++ ')' :: r) := by
  cases rest with
  | nil => exact .inl ⟨r, by rw [Tree.restWrite, List.nil_append]⟩
  | cons jt rest =>
      obtain ⟨j, t⟩ := jt
      exact .inr ⟨j, _, by rw [Tree.restWrite, List.append_assoc, List.append_assoc]⟩

mutual

/-- A tree of conditions can be told, and where it ends. -/
theorem Tree.write_cancel {p : Profile} (hp : p.delimiter ≠ .bare) :
    ∀ (t t' : Tree Condition) (n : Nat) {r s : Text},
      FollowsCondition r → FollowsCondition s →
      t.write (Condition.print p) Condition.width n ++ r =
        t'.write (Condition.print p) Condition.width n ++ s → t = t' ∧ r = s
  | .leaf k, .leaf k', n, r, s, hr, hs, h => by
      rw [write, write] at h
      obtain ⟨rfl, hrest⟩ := Condition.print_cancel hp hr hs h
      exact ⟨rfl, hrest⟩
  | .leaf k, .group first rest, n, r, s, _, _, h => by
      rw [write, write] at h
      exact absurd (congrArg List.head? h) (Condition.head?_print hp n k r)
  | .group first rest, .leaf k, n, r, s, _, _, h => by
      rw [write, write] at h
      exact absurd (congrArg List.head? h).symm (Condition.head?_print hp n k s)
  | .group first rest, .group first' rest', n, r, s, _, _, h => by
      simp only [write, List.cons_append, List.append_assoc, List.nil_append, List.cons.injEq,
        true_and] at h
      obtain ⟨rfl, htail⟩ := Tree.write_cancel hp first first' n
        (followsCondition_restWrite ..) (followsCondition_restWrite ..) h
      obtain ⟨rfl, hrest⟩ := Tree.restWrite_cancel hp rest rest' _ htail
      exact ⟨rfl, hrest⟩

theorem Tree.restWrite_cancel {p : Profile} (hp : p.delimiter ≠ .bare) :
    ∀ (rest rest' : List (Joiner × Tree Condition)) (n : Nat) {r s : Text},
      Tree.restWrite (Condition.print p) Condition.width n rest ++ ')' :: r =
        Tree.restWrite (Condition.print p) Condition.width n rest' ++ ')' :: s →
      rest = rest' ∧ r = s
  | [], [], n, r, s, h => by
      simp only [restWrite, List.nil_append, List.cons.injEq, true_and] at h
      exact ⟨rfl, h⟩
  | [], (j, t) :: rest, n, r, s, h => by
      simp only [restWrite, List.nil_append, List.append_assoc] at h
      have hhead := congrArg List.head? h
      rw [j.head?_keyword] at hhead
      exact absurd hhead (by simp)
  | (j, t) :: rest, [], n, r, s, h => by
      simp only [restWrite, List.nil_append, List.append_assoc] at h
      have hhead := congrArg List.head? h
      rw [j.head?_keyword] at hhead
      exact absurd hhead (by simp)
  | (j, t) :: rest, (j', t') :: rest', n, r, s, h => by
      simp only [restWrite, List.append_assoc] at h
      obtain ⟨rfl, hoperand⟩ := Joiner.keyword_cancel h
      obtain ⟨rfl, htail⟩ := Tree.write_cancel hp t t' n
        (followsCondition_restWrite ..) (followsCondition_restWrite ..) hoperand
      obtain ⟨rfl, hrest⟩ := Tree.restWrite_cancel hp rest rest' _ htail
      exact ⟨rfl, hrest⟩

end

/-! ## Predicates -/

/-- **Predicates are unambiguous.**  Two accepted builds in one profile that delimits names, from
whatever catalogs, tables, reference times and filters, have the same text only if their filters
have the same skeleton: one tree of conditions, each with the parts of its column reference, its
operator and its wildcards. -/
theorem Builder.skeleton_unique {b b' : Builder} {now now' : Instant} {e e' : Expression}
    {p p' : Predicate} (hprofile : b'.profile = b.profile) (hbare : b.profile.delimiter ≠ .bare)
    (h : b.build now e = .ok p) (h' : b'.build now' e' = .ok p') (hsql : p.sql = p'.sql) :
    ∃ k : Tree Condition, e.tree.grouped.map b.condition? = k.map some ∧
      e'.tree.grouped.map b'.condition? = k.map some := by
  obtain ⟨k, hk, htext⟩ := exists_skeleton h
  obtain ⟨k', hk', htext'⟩ := exists_skeleton h'
  have hwrite : k.write (Condition.print b.profile) Condition.width 1 ++ [')'] =
      k'.write (Condition.print b.profile) Condition.width 1 ++ [')'] := by
    rw [← htext, hsql, htext', hprofile]
  have hend : FollowsCondition [')'] := .inl ⟨[], rfl⟩
  obtain ⟨rfl, -⟩ := Tree.write_cancel hbare k k' 1 hend hend hwrite
  exact ⟨k, hk, hk'⟩

/-- A builder for another table, whose name and column give the same references as a schema, a table
and a column of `Builder.shop`. -/
def Builder.otherShop (p : Profile) : Builder where
  catalog := Catalog.ofList [{ column := "ti\"t]le".toList, aliasName := ['q'], type := .text }]
  profile := p
  table := some "shop.items".toList

/-- Two filters of different shops with one text, one of them a group of its own. -/
theorem Builder.skeleton_unique_lamps :
    ∃ k : Tree Condition,
      (Expression.constraint
          ⟨['t'], some (.equal, ⟨"lamp".toList, .text, true, true⟩)⟩).tree.grouped.map
        (shop Dialect.postgres.profile).condition? = k.map some ∧
      (Expression.group (.constraint
          ⟨['Q'], some (.equal, ⟨"42".toList, .number, true, true⟩)⟩) []).tree.grouped.map
        (otherShop Dialect.postgres.profile).condition? = k.map some := by
  have h : (shop Dialect.postgres.profile).build Instant.epoch
      (.constraint ⟨['t'], some (.equal, ⟨"lamp".toList, .text, true, true⟩)⟩) = .ok
        ⟨"(\"shop\".\"items\".\"ti\"\"t]le\" LIKE CONCAT('%',$1,'%'))".toList,
          [.text "lamp".toList]⟩ := rfl
  have h' : (otherShop Dialect.postgres.profile).build Instant.epoch
      (.group (.constraint ⟨['Q'], some (.equal, ⟨"42".toList, .number, true, true⟩)⟩) []) = .ok
        ⟨"(\"shop\".\"items\".\"ti\"\"t]le\" LIKE CONCAT('%',$1,'%'))".toList,
          [.text "42".toList]⟩ := rfl
  exact skeleton_unique rfl (by decide) h h' rfl

end SqlFilter
