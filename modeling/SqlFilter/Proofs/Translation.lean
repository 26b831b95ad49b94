import SqlFilter.Proofs.Condition
import SqlFilter.Proofs.Pieces

/-!
# Predicates without a walk

A predicate is built by a walk that keeps a text, values, errors and a waiting selector.  Here each
constraint is translated by itself, and the walk is shown to put these translations together.

* `Builder.bind` is what a constraint binds, or its error, and `Builder.text` is its text;
* `Pass.Adds` says what a stretch of the walk adds to the state, whatever the state before it;
* `Builder.build_eq` is the outcome of the whole walk.
-/

namespace SqlFilter

/-! ## One constraint -/

namespace Builder

/-- The values that a constraint binds, or its error. -/
def bind (b : Builder) (now : Instant) (c : Constraint) : Except Error (List SqlValue) :=
  match b.catalog.resolve? c.selector with
  | none => .error (.invalidSelector c.selector)
  | some f =>
    match c.comparison with
    | none => .ok []
    | some (_, a) => (negotiate now c.selector f.type a).map fun negotiated => [negotiated.value]

/-- The error of a constraint. -/
def fault? (b : Builder) (now : Instant) (c : Constraint) : Option Error :=
  match b.bind now c with
  | .ok _ => none
  | .error e => some e

/-- The values that a constraint binds; none where it has an error. -/
def values (b : Builder) (now : Instant) (c : Constraint) : List SqlValue :=
  match b.bind now c with
  | .ok values => values
  | .error _ => []

/-- The number of values that a constraint binds. -/
def width (b : Builder) (now : Instant) (c : Constraint) : Nat := (b.values now c).length

/-- The text of a constraint whose placeholder has the given number. -/
def text (b : Builder) (number : Nat) (c : Constraint) : Text :=
  match b.condition? c with
  | none => []
  | some k => k.print b.profile number

variable {b : Builder} {now : Instant} {c : Constraint}

theorem fault?_eq_none_iff : b.fault? now c = none ↔ ∃ values, b.bind now c = .ok values := by
  unfold fault?
  cases b.bind now c <;> simp

theorem values_of_bind {vs : List SqlValue} (h : b.bind now c = .ok vs) : b.values now c = vs := by
  rw [values, h]

/-- The text of a constraint with a known selector. -/
theorem text_eq {f : Field} (h : b.catalog.resolve? c.selector = some f) (number : Nat) :
    b.text number c = b.column f ++ (c.test f.type).print b.profile number := by
  simp only [text, condition?, h, Option.map_some]
  rw [Condition.print, Condition.reference_eq_column]

end Builder

/-! ## What the walk adds -/

/-- The walk goes from the state `s` to the state `t` over the constraints `cs`: it adds their
values and their errors, and while none of them has an error, the text that `text` gives for the
number of the next placeholder. -/
structure Pass.Adds (b : Builder) (now : Instant) (cs : List Constraint) (text : Nat → Text)
    (s t : Pass) : Prop where
  /-- The values of the constraints are added in their order. -/
  params : t.params = s.params ++ cs.flatMap (b.values now)
  /-- The errors of the constraints are added in their order. -/
  errors : t.errors.errors = s.errors.errors ++ cs.filterMap (b.fault? now)
  /-- The text is added if there is no error. -/
  sql : (∀ c ∈ cs, b.fault? now c = none) → t.sql = s.sql ++ text (s.params.length + 1)

namespace Pass.Adds

variable {b : Builder} {now : Instant} {cs ds : List Constraint} {text text' : Nat → Text}
  {s t u : Pass}

/-- Writing adds a text and nothing else. -/
theorem write (b : Builder) (now : Instant) (s : Pass) (x : Text) :
    Adds b now [] (fun _ => x) s (s.write x) :=
  ⟨by simp [Pass.write], by simp [Pass.write], fun _ => rfl⟩

/-- Two stretches, one after the other: the placeholders of the second are numbered on from the
values of the first. -/
theorem trans (h : Adds b now cs text s t) (h' : Adds b now ds text' t u) :
    Adds b now (cs ++ ds)
      (fun n => text n ++ text' (n + (cs.flatMap (b.values now)).length)) s u where
  params := by rw [h'.params, h.params, List.flatMap_append, List.append_assoc]
  errors := by rw [h'.errors, h.errors, List.filterMap_append, List.append_assoc]
  sql hok := by
    have h₁ := h.sql fun c hc => hok c (List.mem_append_left ds hc)
    have h₂ := h'.sql fun c hc => hok c (List.mem_append_right cs hc)
    have hn : t.params.length + 1 =
        s.params.length + 1 + (cs.flatMap (b.values now)).length := by
      rw [h.params, List.length_append]
      omega
    rw [h₂, h₁, hn, List.append_assoc]

/-- The text may be given in another way. -/
theorem congr (h : Adds b now cs text s t) (htext : ∀ n, text n = text' n) :
    Adds b now cs text' s t :=
  ⟨h.params, h.errors, fun hok => by rw [h.sql hok, htext]⟩

end Pass.Adds

/-! ## The walk over one constraint -/

/-- A pattern match is asked of text fields only, and their arguments are always bound as text. -/
theorem asText_of_isLike {now : Instant} {selector : Text} {comparison : Comparison}
    {type : FieldType} {a : Argument} {n : Negotiated}
    (h : negotiate now selector type a = .ok n) (hlike : comparison.isLike type = true) :
    n.asText = true := by
  have htype : type = .text := by
    simp only [Comparison.isLike, Bool.and_eq_true, decide_eq_true_eq] at hlike
    exact hlike.2
  subst htype
  cases h
  rfl

namespace Pass

variable (b : Builder) (now : Instant) (s : Pass) (c : Constraint)

/-- The walk over one constraint. -/
def run (s : Pass) (c : Constraint) : Pass := c.events.foldl (step b now) s

/-- An unknown selector adds its error and nothing else, and its comparison is passed over. -/
theorem run_unknown (h : b.catalog.resolve? c.selector = none) :
    run b now s c =
      { s with errors := s.errors.push (.invalidSelector c.selector), pending := none } := by
  have hselect : ∀ unary, s.onSelector b c.selector unary =
      { s with errors := s.errors.push (.invalidSelector c.selector), pending := none } := by
    intro unary
    unfold onSelector
    rw [h]
  unfold run Constraint.events
  cases c.comparison with
  | none => exact hselect true
  | some ca => exact congrArg (fun s => (s.onComparison ca.1).onArgument b now ca.2) (hselect false)

/-- A selector that stands alone adds its column and the test that the column is not empty. -/
theorem run_present {f : Field} (h : b.catalog.resolve? c.selector = some f)
    (hc : c.comparison = none) :
    run b now s c =
      { s with sql := s.sql ++ b.column f ++ Test.presence, pending := none } := by
  unfold run Constraint.events
  rw [hc]
  show s.onSelector b c.selector true = _
  unfold onSelector
  rw [h]
  rfl

/-- The walk over a comparison, up to its argument: the column and the operator are written, and
the selector waits with its mark of a pattern match. -/
theorem onComparison_onSelector {f : Field} (h : b.catalog.resolve? c.selector = some f)
    (comparison : Comparison) :
    (s.onSelector b c.selector false).onComparison comparison =
      { s with
        sql := s.sql ++ b.column f ++ (comparison.operator f.type).print
        pending := some ⟨f, c.selector, comparison.isLike f.type⟩ } := by
  unfold onSelector
  rw [h, Comparison.print_operator]
  rfl

/-- An argument that does not fit adds its error; its text stays half written. -/
theorem run_misfit {f : Field} {comparison : Comparison} {a : Argument} {e : Error}
    (h : b.catalog.resolve? c.selector = some f) (hc : c.comparison = some (comparison, a))
    (hn : negotiate now c.selector f.type a = .error e) :
    run b now s c =
      { s with
        sql := s.sql ++ b.column f ++ (comparison.operator f.type).print
        errors := s.errors.push e
        pending := none } := by
  unfold run Constraint.events
  rw [hc]
  show ((s.onSelector b c.selector false).onComparison comparison).onArgument b now a = _
  rw [onComparison_onSelector b s c h]
  unfold onArgument
  simp only [hn]

/-- An argument that fits adds its value and the whole text of its comparison. -/
theorem run_compared {f : Field} {comparison : Comparison} {a : Argument} {n : Negotiated}
    (h : b.catalog.resolve? c.selector = some f) (hc : c.comparison = some (comparison, a))
    (hn : negotiate now c.selector f.type a = .ok n) :
    run b now s c =
      { s with
        sql := s.sql ++ b.column f ++ (c.test f.type).print b.profile (s.params.length + 1)
        params := s.params ++ [n.value]
        pending := none } := by
  have hwild : ∀ flag, (n.asText && comparison.isLike f.type && flag) =
      (comparison.isLike f.type && flag) := by
    intro flag
    cases hlike : comparison.isLike f.type with
    | false => simp
    | true => simp [asText_of_isLike hn hlike]
  unfold run Constraint.events Constraint.test
  rw [hc]
  show ((s.onSelector b c.selector false).onComparison comparison).onArgument b now a = _
  rw [onComparison_onSelector b s c h]
  unfold onArgument
  simp only [hn, hwild, write, Test.print, List.length_append, List.length_singleton,
    List.append_assoc]

namespace Adds

variable {b : Builder} {now : Instant} {c : Constraint} {s t : Pass}

/-- What is added over a constraint that binds its values. -/
theorem of_ok {vs : List SqlValue} (hbind : b.bind now c = .ok vs)
    (hparams : t.params = s.params ++ vs) (herrors : t.errors = s.errors)
    (hsql : t.sql = s.sql ++ b.text (s.params.length + 1) c) :
    Adds b now [c] (fun n => b.text n c) s t where
  params := by simp [hparams, Builder.values_of_bind hbind]
  errors := by simp [herrors, Builder.fault?_eq_none_iff.2 ⟨vs, hbind⟩]
  sql _ := hsql

/-- What is added over a constraint that has an error. -/
theorem of_error {e : Error} (hbind : b.bind now c = .error e) (hparams : t.params = s.params)
    (herrors : t.errors = s.errors.push e) : Adds b now [c] (fun n => b.text n c) s t where
  params := by simp [hparams, Builder.values, hbind]
  errors := by simp [herrors, ErrorList.push, Builder.fault?, hbind]
  sql hok := by
    obtain ⟨vs, hvs⟩ := Builder.fault?_eq_none_iff.1 (hok c (List.mem_singleton_self c))
    rw [hbind] at hvs
    exact absurd hvs (by simp)

end Adds

/-- The walk over one constraint adds what it binds, or its error.  What waited before does not
matter, because a constraint begins with a selector. -/
theorem adds_run (b : Builder) (now : Instant) (s : Pass) (c : Constraint) :
    Adds b now [c] (fun n => b.text n c) s (run b now s c) := by
  cases h : b.catalog.resolve? c.selector with
  | none =>
      rw [run_unknown b now s c h]
      exact Adds.of_error (by rw [Builder.bind, h]) rfl rfl
  | some f =>
      cases hc : c.comparison with
      | none =>
          rw [run_present b now s c h hc]
          have hbind : b.bind now c = .ok [] := by simp only [Builder.bind, h, hc]
          refine Adds.of_ok hbind (by simp) rfl ?_
          rw [Builder.text_eq h, Constraint.test, hc, List.append_assoc]
          rfl
      | some ca =>
          cases hn : negotiate now c.selector f.type ca.2 with
          | error e =>
              rw [run_misfit b now s c h hc hn]
              exact Adds.of_error (by simp only [Builder.bind, h, hc, hn, Except.map]) rfl rfl
          | ok n =>
              rw [run_compared b now s c h hc hn]
              refine Adds.of_ok (by simp only [Builder.bind, h, hc, hn, Except.map]) rfl rfl ?_
              rw [Builder.text_eq h, List.append_assoc]

end Pass

/-! ## The walk over a filter -/

namespace Expression

/-- A filter as a group: a constraint that is the whole filter gets a group of its own. -/
def grouped : Expression → Expression
  | constraint c => group (.constraint c) []
  | e => e

theorem groupEvents_eq (e : Expression) : e.groupEvents = e.grouped.events := by
  cases e with
  | constraint c => simp [groupEvents, grouped, events, restEvents]
  | group first rest => rfl

theorem constraints_grouped (e : Expression) : e.grouped.constraints = e.constraints := by
  cases e with
  | constraint c => simp [grouped, constraints, restConstraints]
  | group first rest => rfl

theorem tree_grouped (e : Expression) : e.grouped.tree = e.tree.grouped := by
  cases e with
  | constraint c => simp [grouped, tree, restTree, Tree.grouped]
  | group first rest => simp [grouped, tree, Tree.grouped]

end Expression

namespace Builder

variable (b : Builder) (now : Instant)

/-- The placeholders of a filter are as many as its values. -/
theorem slots_tree (e : Expression) :
    e.tree.slots (b.width now) = (e.constraints.flatMap (b.values now)).length := by
  rw [← Tree.widthAll_pieces, ← e.leaves_tree, ← Tree.values_pieces]
  exact Piece.widthAll_eq_length (b.values now) _

mutual

/-- The walk over a filter adds the values, the errors and the text of its tree. -/
theorem adds_events : ∀ (e : Expression) (s : Pass),
    Pass.Adds b now e.constraints (fun n => e.tree.write b.text (b.width now) n) s
      (e.events.foldl (Pass.step b now) s)
  | .constraint c, s => by
      rw [Expression.constraints, Expression.events]
      exact (Pass.adds_run b now s c).congr fun n => by rw [Expression.tree, Tree.write]
  | .group first rest, s => by
      rw [Expression.constraints, Expression.events, List.foldl_append, List.foldl_append,
        List.foldl_cons]
      have hopen := Pass.Adds.write b now s ['(']
      have hfirst := hopen.trans (adds_events first _)
      have hrest := hfirst.trans (adds_restEvents rest _)
      have hall := hrest.trans (Pass.Adds.write b now _ [')'])
      rw [List.nil_append, List.append_nil] at hall
      refine hall.congr fun n => ?_
      rw [Expression.tree, Tree.write, slots_tree]
      simp

theorem adds_restEvents : ∀ (rest : List (Joiner × Expression)) (s : Pass),
    Pass.Adds b now (Expression.restConstraints rest)
      (fun n => Tree.restWrite b.text (b.width now) n (Expression.restTree rest)) s
      ((Expression.restEvents rest).foldl (Pass.step b now) s)
  | [], s => by
      rw [Expression.restConstraints, Expression.restEvents, List.foldl_nil]
      refine (⟨by simp, by simp, fun _ => by simp⟩ : Pass.Adds b now [] (fun _ => []) s s).congr
        fun n => ?_
      rw [Expression.restTree, Tree.restWrite]
  | (joiner, operand) :: rest, s => by
      rw [Expression.restConstraints, Expression.restEvents, List.foldl_append, List.foldl_cons]
      have hjoin := Pass.Adds.write b now s joiner.keyword
      have hoperand := hjoin.trans (adds_events operand _)
      have hrest := hoperand.trans (adds_restEvents rest _)
      rw [List.nil_append] at hrest
      refine hrest.congr fun n => ?_
      rw [Expression.restTree, Tree.restWrite, slots_tree]
      simp

end

/-- Errors decide whether there is a value, and the value counts only without them. -/
theorem finish_congr {α : Type} {l l' : ErrorList} {v v' : α} (hl : l.errors = l'.errors)
    (hv : l'.errors = [] → v = v') : l.finish v = l'.finish v' := by
  unfold ErrorList.finish
  rw [hl]
  cases h : l'.errors with
  | nil => rw [hv h]
  | cons e es => rfl

/-- **The outcome of a build.**  The errors of all constraints in their order; without errors, the
values of all constraints in their order and the text of the tree. -/
theorem build_eq (e : Expression) :
    b.build now e =
      (ErrorList.mk (e.constraints.filterMap (b.fault? now))).finish
        ⟨e.tree.grouped.write b.text (b.width now) 1, e.constraints.flatMap (b.values now)⟩ := by
  have hadds := adds_events b now e.grouped {}
  rw [Expression.constraints_grouped, Expression.tree_grouped, ← Expression.groupEvents_eq] at hadds
  refine finish_congr (by simpa using hadds.errors) fun hnone => ?_
  have hsql := hadds.sql (List.filterMap_eq_nil_iff.1 hnone)
  have hparams := hadds.params
  simp only [List.nil_append, List.length_nil, Nat.zero_add] at hsql hparams
  rw [hsql, hparams]

/-- A filter is accepted exactly when no constraint has an error, and this is its predicate. -/
theorem build_eq_ok_iff (e : Expression) (p : Predicate) :
    b.build now e = .ok p ↔
      (∀ c ∈ e.constraints, b.fault? now c = none) ∧
        p = ⟨e.tree.grouped.write b.text (b.width now) 1,
          e.constraints.flatMap (b.values now)⟩ := by
  rw [build_eq, ← List.filterMap_eq_nil_iff]
  unfold ErrorList.finish
  cases e.constraints.filterMap (b.fault? now) with
  | nil => simp [eq_comm]
  | cons x xs => simp

/-- A filter is rejected exactly when some constraint has an error, with the errors of all. -/
theorem build_eq_error_iff (e : Expression) (x : Error) :
    b.build now e = .error x ↔
      (∃ c ∈ e.constraints, b.fault? now c ≠ none) ∧
        x = .rejected (e.constraints.filterMap (b.fault? now)) := by
  have hsome : (∃ c ∈ e.constraints, b.fault? now c ≠ none) ↔
      e.constraints.filterMap (b.fault? now) ≠ [] := by
    rw [ne_eq, List.filterMap_eq_nil_iff]
    simp
  rw [build_eq, hsome]
  unfold ErrorList.finish
  cases e.constraints.filterMap (b.fault? now) with
  | nil => simp
  | cons y ys => simp [eq_comm]

/-- A constraint that is the whole filter is accepted exactly when it has no error. -/
theorem build_constraint_eq_ok_iff (c : Constraint) (p : Predicate) :
    b.build now (.constraint c) = .ok p ↔
      b.fault? now c = none ∧ p = ⟨'(' :: b.text 1 c ++ [')'], b.values now c⟩ := by
  rw [build_eq_ok_iff]
  simp [Expression.constraints, Expression.tree, Tree.grouped, Tree.write, Tree.restWrite]

/-- The predicate of a constraint that is the whole filter, by what the constraint binds. -/
theorem build_constraint_of_bind {b : Builder} {now : Instant} {c : Constraint} {f : Field}
    {vs : List SqlValue} (hf : b.catalog.resolve? c.selector = some f)
    (hbind : b.bind now c = .ok vs) :
    b.build now (.constraint c) =
      .ok ⟨'(' :: (b.column f ++ (c.test f.type).print b.profile 1) ++ [')'], vs⟩ := by
  rw [build_constraint_eq_ok_iff, fault?_eq_none_iff, values_of_bind hbind, text_eq hf]
  exact ⟨⟨vs, hbind⟩, rfl⟩

/-- A constraint that is the whole filter is rejected with its error. -/
theorem build_constraint_eq_error_iff (c : Constraint) (x : Error) :
    b.build now (.constraint c) = .error x ↔
      ∃ fault, b.fault? now c = some fault ∧ x = .rejected [fault] := by
  rw [build_eq_error_iff]
  cases h : b.fault? now c <;> simp [Expression.constraints, h]

/-! ## The skeleton of a filter -/

variable {b now}

/-- A constraint without an error has a condition with as many placeholders as it binds values. -/
theorem exists_condition {c : Constraint} (h : b.fault? now c = none) :
    ∃ k, b.condition? c = some k ∧ b.width now c = k.width := by
  obtain ⟨vs, hvs⟩ := fault?_eq_none_iff.1 h
  rw [width, values_of_bind hvs]
  unfold bind at hvs
  cases hf : b.catalog.resolve? c.selector with
  | none =>
      rw [hf] at hvs
      exact absurd hvs (by simp)
  | some f =>
      refine ⟨_, by rw [condition?, hf, Option.map_some], ?_⟩
      rw [Condition.width, Constraint.width_test, Constraint.isUnary]
      simp only [hf] at hvs
      cases hc : c.comparison with
      | none =>
          simp only [hc] at hvs
          cases hvs
          rfl
      | some ca =>
          simp only [hc] at hvs
          cases hn : negotiate now c.selector f.type ca.2 with
          | error e =>
              rw [hn] at hvs
              exact absurd hvs (by simp [Except.map])
          | ok n =>
              rw [hn] at hvs
              cases hvs
              rfl

/-- A constraint without an error binds one value, unless it is unary. -/
theorem width_eq {c : Constraint} (h : b.fault? now c = none) :
    b.width now c = if c.isUnary then 0 else 1 := by
  obtain ⟨k, hk, hwidth⟩ := exists_condition h
  obtain ⟨f, -, rfl⟩ := Option.map_eq_some_iff.1 hk
  rw [hwidth, Condition.width, Constraint.width_test]

/-- What an accepted filter is translated to depends only on the conditions of its constraints. -/
theorem build_eq_of_conditions {e : Expression} {p : Predicate} (h : b.build now e = .ok p) :
    p.sql = (e.tree.map b.condition?).grouped.write
        (fun n o => o.elim [] (Condition.print b.profile n)) (fun o => o.elim 0 Condition.width) 1 ∧
      p.params.length = (e.tree.map b.condition?).slots fun o => o.elim 0 Condition.width := by
  obtain ⟨hok, rfl⟩ := (b.build_eq_ok_iff now e p).1 h
  have hwidth : ∀ c ∈ e.constraints, b.width now c = (b.condition? c).elim 0 Condition.width := by
    intro c hc
    obtain ⟨k, hk, hw⟩ := exists_condition (hok c hc)
    rw [hk, hw, Option.elim_some]
  have htext : ∀ c n, b.text n c = (b.condition? c).elim [] (Condition.print b.profile n) := by
    intro c n
    unfold text
    cases b.condition? c <;> rfl
  refine ⟨?_, ?_⟩
  · rw [Tree.grouped_map, Tree.write_map]
    refine Tree.write_congr _ _ (fun c hc => hwidth c ?_) fun c _ n => htext c n
    rwa [Expression.leaves_tree_grouped] at hc
  · rw [Tree.slots_map, ← slots_tree]
    exact Tree.slots_congr _ fun c hc => hwidth c (e.leaves_tree ▸ hc)

/-- **The text of a predicate is that of its skeleton**, the tree of the conditions of its
constraints. -/
theorem exists_skeleton {e : Expression} {p : Predicate} (h : b.build now e = .ok p) :
    ∃ k : Tree Condition, e.tree.grouped.map b.condition? = k.map some ∧
      p.sql = k.write (Condition.print b.profile) Condition.width 1 := by
  have hok := ((b.build_eq_ok_iff now e p).1 h).1
  obtain ⟨k, hk⟩ := e.tree.grouped.exists_map_some fun c hc => by
    rw [Expression.leaves_tree_grouped] at hc
    obtain ⟨k, hk, -⟩ := exists_condition (hok c hc)
    exact ⟨k, hk⟩
  refine ⟨k, hk, ?_⟩
  rw [(build_eq_of_conditions h).1, Tree.grouped_map, hk, Tree.write_map]
  rfl

end Builder

/-! ## A small shop -/

/-- A builder for the goods of a shop, with quotes and brackets in the name of a column. -/
def Builder.shop (p : Profile) : Builder where
  catalog := Catalog.ofList
    [{ column := "ti\"t]le".toList, aliasName := ['T'], type := .text,
       qualifier := some "shop.items".toList },
     { column := "price".toList, aliasName := ['p'], type := .integer }]
  profile := p
  table := some "stock".toList

/-- Priced goods that are lamps or cheap. -/
def Expression.lamps : Expression :=
  .group (.constraint ⟨['p'], none⟩)
    [(.and, .group (.constraint ⟨['t'], some (.equal, ⟨"lamp".toList, .text, true, true⟩)⟩)
      [(.or, .constraint ⟨['P'], some (.less, ⟨"30".toList, .number, false, false⟩)⟩)])]

theorem Expression.constraints_lamps : lamps.constraints = [⟨['p'], none⟩,
    ⟨['t'], some (.equal, ⟨"lamp".toList, .text, true, true⟩)⟩,
    ⟨['P'], some (.less, ⟨"30".toList, .number, false, false⟩)⟩] := rfl

end SqlFilter
