import SqlFilter.Proofs.Outside

/-!
# Predicates are enclosed in parentheses

A reader of a predicate passes over delimited names and counts parentheses, one up for each that
opens and one down for each that closes.  The count is at least one from the first character to the
last but one and comes to zero with the last, so that the first and the last character are a pair
and the predicate can stand as one operand among others.

* `Text.depth` is the count behind a text, and `Profile.depth` the count outside of names;
* `Text.Balanced` is a text whose count comes back to where it begins and never goes below.

The main statement is `Builder.build_enclosed`.
-/

namespace SqlFilter

namespace Text

/-- Whether a character is a parenthesis. -/
def isParenthesis (c : Char) : Bool := c = '(' || c = ')'

/-- The depth behind a text: each parenthesis that opens counts one up and each that closes one
down. -/
def depth (t : Text) : Int := t.count '(' - t.count ')'

end Text

/-- The depth behind a text, where the parentheses in delimited names do not count. -/
def Profile.depth (p : Profile) (t : Text) : Int := Text.depth (p.delimiter.blank .outside t)

/-! ## Balanced texts -/

namespace Text

theorem depth_append (x y : Text) : depth (x ++ y) = depth x + depth y := by
  simp only [depth, List.count_append]
  omega

theorem depth_of_not_isParenthesis {x : Text} (hx : ∀ c ∈ x, isParenthesis c = false) :
    depth x = 0 := by
  have hcount : ∀ c, isParenthesis c = true → x.count c = 0 := by
    intro c hc
    refine List.count_eq_zero.2 fun hmem => ?_
    rw [hx c hmem] at hc
    exact absurd hc (by decide)
  rw [depth, hcount '(' (by decide), hcount ')' (by decide)]
  rfl

/-- A text that comes back to the depth at which it begins and never goes below it. -/
structure Balanced (t : Text) : Prop where
  /-- It comes back to the depth at which it begins. -/
  level : t.depth = 0
  /-- It never goes below it. -/
  above : ∀ x : Text, x <+: t → 0 ≤ x.depth

namespace Balanced

/-- A text without parentheses is balanced. -/
theorem of_not_isParenthesis {t : Text} (ht : ∀ c ∈ t, isParenthesis c = false) : t.Balanced where
  level := depth_of_not_isParenthesis ht
  above x hx := by
    have hdepth := depth_of_not_isParenthesis fun c hc => ht c (hx.subset hc)
    omega

theorem of_any {t : Text} (ht : t.any isParenthesis = false) : t.Balanced := by
  refine of_not_isParenthesis fun c hc => ?_
  simpa using List.any_eq_false.1 ht c hc

/-- Two balanced texts, one after the other. -/
theorem append {x y : Text} (hx : x.Balanced) (hy : y.Balanced) : (x ++ y).Balanced where
  level := by rw [depth_append, hx.level, hy.level]; rfl
  above z hz := by
    rcases List.prefix_or_prefix_of_prefix hz (List.prefix_append x y) with h | ⟨z, rfl⟩
    · exact hx.above z h
    · have hz : z <+: y := (List.prefix_append_right_inj x).1 hz
      rw [depth_append, hx.level, Int.zero_add]
      exact hy.above z hz

/-- Inside a pair of parentheses around a balanced text the depth is at least one. -/
theorem one_le_depth {t x y : Text} (ht : t.Balanced) (h : '(' :: t ++ [')'] = x ++ y)
    (hx : x ≠ []) (hy : y ≠ []) : 1 ≤ x.depth := by
  obtain ⟨c, x, rfl⟩ := List.exists_cons_of_ne_nil hx
  rw [List.cons_append, List.cons_append, List.cons.injEq] at h
  obtain ⟨rfl, h⟩ := h
  have hprefix : x <+: t := by
    rcases List.prefix_concat_iff.1 ⟨y, h.symm⟩ with rfl | hprefix
    · exact absurd (List.self_eq_append_right.1 h) hy
    · exact hprefix
  have habove := ht.above x hprefix
  have hcons : depth ('(' :: x) = 1 + depth x := depth_append ['('] x
  omega

/-- A balanced text in parentheses is balanced. -/
theorem enclose {t : Text} (ht : t.Balanced) : Balanced ('(' :: t ++ [')']) where
  level := by
    rw [depth_append, show depth ('(' :: t) = 1 + depth t from depth_append ['('] t, ht.level]
    rfl
  above x := by
    rintro ⟨y, h⟩
    by_cases hx : x = []
    · rw [hx]
      decide
    by_cases hy : y = []
    · rw [hy, List.append_nil] at h
      rw [h, depth_append, show depth ('(' :: t) = 1 + depth t from depth_append ['('] t, ht.level]
      decide
    · have := ht.one_le_depth h.symm hx hy
      omega

end Balanced
end Text

/-! ## What predicates are made of -/

namespace Text.Balanced

theorem isParenthesis_of_isMark_or_isDigit (c : Char)
    (h : PlaceholderStyle.isMark c = true ∨ c.isDigit = true) : isParenthesis c = false := by
  cases hc : isParenthesis c with
  | false => rfl
  | true =>
      simp only [isParenthesis, Bool.or_eq_true, decide_eq_true_eq] at hc
      rcases hc with rfl | rfl <;> exact absurd h (by decide)

theorem placeholder (s : PlaceholderStyle) (number : Nat) : (s.placeholder number).Balanced :=
  of_not_isParenthesis (s.avoids_placeholder isParenthesis_of_isMark_or_isDigit number)

theorem operator (o : Operator) : o.print.Balanced := by
  cases o <;> exact of_any (by decide)

theorem keyword (j : Joiner) : j.keyword.Balanced := by
  cases j <;> exact of_any (by decide)

/-- A pattern around a balanced operand is balanced: the function has its parentheses around all of
its operands. -/
theorem pattern (c : Concatenation) {operand : Text} (h : operand.Balanced)
    (leading trailing : Bool) : (c.pattern operand leading trailing).Balanced := by
  unfold Concatenation.pattern
  by_cases hplain : (!leading && !trailing) = true
  · rw [if_pos hplain]
    exact h
  · rw [if_neg hplain]
    cases c with
    | function =>
        have hbefore : Balanced (if leading then Concatenation.anyText ++ [','] else []) := by
          cases leading <;> exact of_any (by decide)
        have hbehind : Balanced (if trailing then ',' :: Concatenation.anyText else []) := by
          cases trailing <;> exact of_any (by decide)
        have hname : Balanced "CONCAT".toList := of_any (by decide)
        have hall := hname.append ((hbefore.append h).append hbehind).enclose
        simpa [List.append_assoc] using hall
    | operator =>
        have hbefore :
            Balanced (if leading then Concatenation.anyText ++ " || ".toList else []) := by
          cases leading <;> exact of_any (by decide)
        have hbehind :
            Balanced (if trailing then " || ".toList ++ Concatenation.anyText else []) := by
          cases trailing <;> exact of_any (by decide)
        exact (hbefore.append h).append hbehind

theorem test (p : Profile) (number : Nat) (t : Test) : (t.print p number).Balanced := by
  cases t with
  | present =>
      have hpresence : Balanced Test.presence := of_any (by decide)
      exact hpresence
  | compared o l t => exact (operator o).append (pattern p.concatenation (placeholder _ number) l t)

end Text.Balanced

namespace Tree

variable {α : Type} {text : Nat → α → Text} {width : α → Nat}

mutual

/-- The text of a tree is balanced if the texts of its values are. -/
theorem balanced_write :
    ∀ (t : Tree α) (n : Nat), (∀ a ∈ t.leaves, ∀ n, (text n a).Balanced) →
      (t.write text width n).Balanced
  | leaf a, n, h => h a (mem_leaf a) n
  | group first rest, n, h => by
      obtain ⟨hfirst, hrest⟩ := of_forall_group h
      exact ((balanced_write first n hfirst).append (balanced_restWrite rest _ hrest)).enclose

theorem balanced_restWrite :
    ∀ (rest : List (Joiner × Tree α)) (n : Nat),
      (∀ a ∈ restLeaves rest, ∀ n, (text n a).Balanced) → (restWrite text width n rest).Balanced
  | [], _, _ => .of_any rfl
  | (joiner, operand) :: rest, n, h => by
      obtain ⟨hoperand, hrest⟩ := of_forall_rest h
      have hjoin := (Text.Balanced.keyword joiner).append (balanced_write operand n hoperand)
      exact hjoin.append (balanced_restWrite rest _ hrest)

end

/-- The text of a tree as a group is a balanced text in parentheses. -/
theorem exists_write_grouped (text : Nat → α → Text) (width : α → Nat) (t : Tree α) (n : Nat)
    (h : ∀ a ∈ t.grouped.leaves, ∀ n, (text n a).Balanced) :
    ∃ inner : Text, inner.Balanced ∧ t.grouped.write text width n = '(' :: inner ++ [')'] := by
  obtain ⟨first, rest, ht⟩ := t.exists_grouped
  rw [ht] at h ⊢
  obtain ⟨hfirst, hrest⟩ := of_forall_group h
  exact ⟨_, (balanced_write first n hfirst).append (balanced_restWrite rest _ hrest), rfl⟩

end Tree

/-! ## Predicates -/

namespace Builder

variable {b : Builder} {now : Instant} {e : Expression}

/-- What a reader sees of a constraint is balanced. -/
theorem balanced_blank (hnames : b.ClearNames Text.isParenthesis e) {c : Constraint}
    (hc : c ∈ e.constraints) (hok : b.fault? now c = none) (n : Nat) :
    Text.Balanced (b.profile.delimiter.blank .outside (b.text n c)) := by
  obtain ⟨k, hk, -⟩ := exists_condition hok
  obtain ⟨seen, hseen, hsees⟩ := sees_text hnames (by decide) (by decide) hc hk
  rw [(hsees n).blank]
  exact (Text.Balanced.of_not_isParenthesis hseen).append (.test b.profile n k.test)

/-- **Predicates are enclosed in parentheses.**  A predicate begins with a parenthesis that opens
and ends with one that closes.  Outside of delimited names, the depth is at least one behind each of
its beginnings but the empty one, zero behind the whole, and from there on that of what follows. -/
theorem build_enclosed {p : Predicate} (hnames : b.ClearNames Text.isParenthesis e)
    (h : b.build now e = .ok p) :
    (∃ inner : Text, p.sql = '(' :: inner ++ [')']) ∧
      (∀ before after : Text, p.sql = before ++ after → before ≠ [] → after ≠ [] →
        1 ≤ b.profile.depth before) ∧
      b.profile.depth p.sql = 0 ∧
      ∀ behind : Text, b.profile.depth (p.sql ++ behind) = b.profile.depth behind := by
  obtain ⟨hok, hp⟩ := (b.build_eq_ok_iff now e p).1 h
  have hsql : p.sql = e.tree.grouped.write b.text (b.width now) 1 := by rw [hp]
  have hsees : b.profile.delimiter.Sees p.sql
      (e.tree.grouped.write (fun n c => b.profile.delimiter.blank .outside (b.text n c))
        (b.width now) 1) := by
    rw [hsql]
    exact Tree.sees_write _ 1 fun c _ n => b.sees_blank n c
  obtain ⟨inner, hinner, hblank⟩ := Tree.exists_write_grouped
    (fun n c => b.profile.delimiter.blank .outside (b.text n c)) (b.width now) e.tree 1 <| by
      intro c hc
      rw [Expression.leaves_tree_grouped] at hc
      exact balanced_blank hnames hc (hok c hc)
  have hseen := hsees.blank.trans hblank
  have hzero : b.profile.depth p.sql = 0 := by
    rw [Profile.depth, hseen]
    exact hinner.enclose.level
  refine ⟨?_, ?_, hzero, ?_⟩
  · obtain ⟨first, rest, hgroup⟩ := e.tree.exists_grouped
    rw [hsql, hgroup]
    exact ⟨_, rfl⟩
  · intro before after hsplit hbefore hafter
    -- what is seen of a beginning is a beginning of what is seen
    rw [hsplit, Delimiter.blank_append] at hseen
    refine hinner.one_le_depth hseen.symm ?_ ?_
    · exact fun hempty => hbefore ((Delimiter.blank_eq_nil_iff _).1 hempty)
    · exact fun hempty => hafter ((Delimiter.blank_eq_nil_iff _).1 hempty)
  · intro behind
    rw [Profile.depth, Delimiter.blank_append, Text.depth_append, hsees.after]
    show b.profile.depth _ + b.profile.depth behind = _
    rw [hzero, Int.zero_add]

end Builder

/-- A builder for graphs, with parentheses and a bracket in the name of its column. -/
def Builder.graphs : Builder where
  catalog := Catalog.ofList [{ column := "f(x])".toList, aliasName := ['f'], type := .text }]
  profile := Dialect.mssql.profile

/-- The filter for lamps is enclosed where names are bare, and a column with parentheses in its name
where names stand in brackets. -/
theorem Builder.build_enclosed_lamps :
    (∃ p, (shop ⟨.bare, .dollar, .function⟩).build Instant.epoch Expression.lamps = .ok p ∧
        Profile.depth ⟨.bare, .dollar, .function⟩ p.sql = 0) ∧
      ∃ p, graphs.build Instant.epoch
          (.constraint ⟨['f'], some (.equal, ⟨['a'], .text, true, false⟩)⟩) = .ok p ∧
        p.sql = "([f(x]])] LIKE CONCAT('%',@1))".toList ∧
        1 ≤ graphs.profile.depth "([f(x]])] LIKE CONCAT('%',@1)".toList ∧
        graphs.profile.depth p.sql = 0 := by
  have hshop : (shop ⟨.bare, .dollar, .function⟩).ClearNames Text.isParenthesis
      Expression.lamps := clearNames_lamps _ (by decide)
  have hgraphs : ∀ e, graphs.ClearNames Text.isParenthesis e := by
    intro e hbare
    cases hbare
  have h : graphs.build Instant.epoch
      (.constraint ⟨['f'], some (.equal, ⟨['a'], .text, true, false⟩)⟩) =
        .ok ⟨"([f(x]])] LIKE CONCAT('%',@1))".toList, [.text ['a']]⟩ := rfl
  obtain ⟨-, hinside, hend, -⟩ := build_enclosed (hgraphs _) h
  exact ⟨⟨_, rfl, (build_enclosed hshop rfl).2.2.1⟩, _, h, rfl,
    hinside _ [')'] rfl (by decide) (by decide), hend⟩

end SqlFilter
