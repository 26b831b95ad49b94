import SqlFilter.Expression.Event
import SqlFilter.Proofs.Parentheses

/-!
# Walks over filters

A walk tells the filter that it goes over: the filter can be built again from the events alone.
Reading begins at the end of a walk.  At each place an expression either begins or has just ended,
and for each group that is open there the operands are known that are still to come.

* `Place` is such a place in a walk, `Place.events` are the events from there on, and
  `Place.ofEvents?` reads them;
* `Expression.ofEvents?` builds a filter from events; `Expression.ofEvents?_eq_some_iff` says that
  it does so exactly for the walk over the filter;
* `Event.Paired` says that a comparison with its argument stands behind each selector that is not
  unary, and nowhere else;
* `Event.constraints` lists the selectors of a walk, each with what follows it.

The main statement is `Expression.walk_faithful`.
-/

namespace SqlFilter

/-! ## What walks consist of -/

namespace Expression

theorem events_group_append (first : Expression) (rest : List (Joiner × Expression))
    (s : List Event) : (group first rest).events ++ s =
      .enter :: (first.events ++ (restEvents rest ++ .leave :: s)) := by
  simp [events]

theorem restEvents_cons_append (joiner : Joiner) (operand : Expression)
    (rest : List (Joiner × Expression)) (s : List Event) :
    restEvents ((joiner, operand) :: rest) ++ s =
      .join joiner :: (operand.events ++ (restEvents rest ++ s)) := by
  simp [restEvents]

/-- A property of events that the walk over each constraint and each joiner has, and that is kept
when events are put one behind the other and when they are put in a group. -/
structure Closed (P : List Event → Prop) : Prop where
  /-- It holds of no events. -/
  nil : P []
  /-- It holds of the walk over a constraint. -/
  constraint : ∀ c : Constraint, P c.events
  /-- It holds of a joiner. -/
  join : ∀ joiner, P [.join joiner]
  /-- It is kept when events are put one behind the other. -/
  append : ∀ x y, P x → P y → P (x ++ y)
  /-- It is kept when events are put in a group. -/
  group : ∀ s, P s → P (.enter :: s ++ [.leave])

namespace Closed

variable {P : List Event → Prop}

mutual

/-- Such a property holds of all walks. -/
theorem events (h : Closed P) : ∀ e : Expression, P e.events
  | .constraint c => by
      rw [Expression.events]
      exact h.constraint c
  | .group first rest => by
      rw [Expression.events]
      exact h.group _ (h.append _ _ (events h first) (restEvents h rest))

theorem restEvents (h : Closed P) :
    ∀ rest : List (Joiner × Expression), P (Expression.restEvents rest)
  | [] => h.nil
  | (joiner, operand) :: rest => by
      rw [Expression.restEvents]
      exact h.append _ _ (h.append _ _ (h.join joiner) (events h operand)) (restEvents h rest)

end

end Closed
end Expression

/-! ## Places in walks -/

/-- A place in a walk.  The groups that are open there come innermost first, each with the operands
that are still to come. -/
inductive Place where
  /-- The place in front of an expression. -/
  | before (e : Expression) (groups : List (List (Joiner × Expression)))
  /-- The place behind an expression. -/
  | behind (groups : List (List (Joiner × Expression)))

namespace Place

/-- The events of the operands to come and of the ends of the groups. -/
def closingEvents : List (List (Joiner × Expression)) → List Event
  | [] => []
  | rest :: groups => Expression.restEvents rest ++ .leave :: closingEvents groups

/-- The events from a place on. -/
def events : Place → List Event
  | before e groups => e.events ++ closingEvents groups
  | behind groups => closingEvents groups

/-- The place in front of a constraint. -/
def constraint? (c : Constraint) : Place → Option Place
  | behind groups => some (before (.constraint c) groups)
  | before _ _ => none

/-- The place in front of a group whose first operand begins here. -/
def enter? : Place → Option Place
  | before first (rest :: groups) => some (before (.group first rest) groups)
  | _ => none

/-- The place in front of the end of a group. -/
def leave? : Place → Option Place
  | behind groups => some (behind ([] :: groups))
  | before _ _ => none

/-- The place in front of a joiner whose operand begins here. -/
def join? (joiner : Joiner) : Place → Option Place
  | before e (rest :: groups) => some (behind (((joiner, e) :: rest) :: groups))
  | _ => none

/-- Reads the place at which some events begin, which go on to the end of a walk. -/
def ofEvents? : List Event → Option Place
  | [] => some (behind [])
  | .enter :: s => (ofEvents? s).bind enter?
  | .leave :: s => (ofEvents? s).bind leave?
  | .join joiner :: s => (ofEvents? s).bind (join? joiner)
  | .select name true :: s => (ofEvents? s).bind (constraint? ⟨name, none⟩)
  | .select name false :: .compare comparison :: .operand a :: s =>
    (ofEvents? s).bind (constraint? ⟨name, some (comparison, a)⟩)
  | _ => none

/-! ## What is read was there -/

variable {p q : Place}

theorem events_constraint? {c : Constraint} (h : p.constraint? c = some q) :
    q.events = c.events ++ p.events := by
  cases p with
  | behind groups =>
      cases h
      rw [events, Expression.events, events]
  | before e groups => cases h

theorem events_enter? (h : p.enter? = some q) : q.events = .enter :: p.events := by
  unfold enter? at h
  split at h
  · cases h
    simp [events, closingEvents, Expression.events]
  · cases h

theorem events_leave? (h : p.leave? = some q) : q.events = .leave :: p.events := by
  cases p with
  | behind groups =>
      cases h
      rw [events, closingEvents, Expression.restEvents, List.nil_append, events]
  | before e groups => cases h

theorem events_join? {joiner : Joiner} (h : p.join? joiner = some q) :
    q.events = .join joiner :: p.events := by
  unfold join? at h
  split at h
  · cases h
    simp [events, closingEvents, Expression.restEvents]
  · cases h

/-- Events that are read are those from the place on. -/
theorem events_of_ofEvents? {s : List Event} (h : ofEvents? s = some p) : p.events = s := by
  induction s using ofEvents?.induct generalizing p with
  | case1 =>
      cases h
      rfl
  | case2 s ih =>
      obtain ⟨q, hq, hp⟩ := Option.bind_eq_some_iff.1 h
      rw [events_enter? hp, ih hq]
  | case3 s ih =>
      obtain ⟨q, hq, hp⟩ := Option.bind_eq_some_iff.1 h
      rw [events_leave? hp, ih hq]
  | case4 s joiner ih =>
      obtain ⟨q, hq, hp⟩ := Option.bind_eq_some_iff.1 h
      rw [events_join? hp, ih hq]
  | case5 s name ih =>
      obtain ⟨q, hq, hp⟩ := Option.bind_eq_some_iff.1 h
      rw [events_constraint? hp, ih hq]
      rfl
  | case6 s name comparison a ih =>
      obtain ⟨q, hq, hp⟩ := Option.bind_eq_some_iff.1 h
      rw [events_constraint? hp, ih hq]
      rfl
  | case7 s => simp_all [ofEvents?]

/-! ## What is there is read -/

theorem ofEvents?_constraint (c : Constraint) {s : List Event}
    {groups : List (List (Joiner × Expression))} (h : ofEvents? s = some (behind groups)) :
    ofEvents? (c.events ++ s) = some (before (.constraint c) groups) := by
  obtain ⟨selector, _ | ⟨comparison, a⟩⟩ := c
  · show (ofEvents? s).bind _ = _
    rw [h]
    rfl
  · show (ofEvents? s).bind _ = _
    rw [h]
    rfl

mutual

/-- In front of the walk over an expression the place is the one where it begins. -/
theorem ofEvents?_events : ∀ (e : Expression) {s : List Event}
    {groups : List (List (Joiner × Expression))}, ofEvents? s = some (behind groups) →
      ofEvents? (e.events ++ s) = some (before e groups)
  | .constraint c, s, groups, h => by
      rw [Expression.events]
      exact ofEvents?_constraint c h
  | .group first rest, s, groups, h => by
      have hend : ofEvents? (.leave :: s) = some (behind ([] :: groups)) := by
        rw [ofEvents?, h]
        rfl
      have hfirst := ofEvents?_events first (ofEvents?_restEvents rest hend)
      rw [Expression.events_group_append, ofEvents?, hfirst, List.append_nil]
      rfl

/-- In front of the walk over the operands of a group these are still to come. -/
theorem ofEvents?_restEvents : ∀ (rest : List (Joiner × Expression)) {s : List Event}
    {more : List (Joiner × Expression)} {groups : List (List (Joiner × Expression))},
      ofEvents? s = some (behind (more :: groups)) →
        ofEvents? (Expression.restEvents rest ++ s) = some (behind ((rest ++ more) :: groups))
  | [], s, more, groups, h => h
  | (joiner, operand) :: rest, s, more, groups, h => by
      have hoperand := ofEvents?_events operand (ofEvents?_restEvents rest h)
      rw [Expression.restEvents_cons_append, ofEvents?, hoperand]
      rfl

end

theorem ofEvents?_closingEvents (groups : List (List (Joiner × Expression))) :
    ofEvents? (closingEvents groups) = some (behind groups) := by
  induction groups with
  | nil => rfl
  | cons rest groups ih =>
      have hend : ofEvents? (.leave :: closingEvents groups) = some (behind ([] :: groups)) := by
        rw [ofEvents?, ih]
        rfl
      rw [closingEvents, ofEvents?_restEvents rest hend, List.append_nil]

/-- Events are read as a place exactly if they are the events from there on. -/
theorem ofEvents?_eq_some_iff {s : List Event} : ofEvents? s = some p ↔ p.events = s := by
  refine ⟨events_of_ofEvents?, ?_⟩
  rintro rfl
  cases p with
  | before e groups => exact ofEvents?_events e (ofEvents?_closingEvents groups)
  | behind groups => exact ofEvents?_closingEvents groups

end Place

namespace Expression

/-- Builds a filter from the events of the walk over it. -/
def ofEvents? (s : List Event) : Option Expression :=
  match Place.ofEvents? s with
  | some (.before e []) => some e
  | _ => none

/-- A filter is built from the walk over it and from no other events. -/
theorem ofEvents?_eq_some_iff {s : List Event} {e : Expression} :
    ofEvents? s = some e ↔ e.events = s := by
  have hplace : ofEvents? s = some e ↔ Place.ofEvents? s = some (.before e []) := by
    unfold ofEvents?
    split
    · rename_i h
      rw [h]
      simp
    · rename_i hother
      simp only [reduceCtorEq, false_iff]
      exact hother e
  rw [hplace, Place.ofEvents?_eq_some_iff, Place.events, Place.closingEvents, List.append_nil]

end Expression

/-! ## Groups in walks -/

namespace Event

/-- The parenthesis that stands for the beginning or the end of a group, and a blank for all other
events. -/
def bracket : Event → Char
  | .enter => '('
  | .leave => ')'
  | _ => ' '

theorem depth_map_bracket (s : List Event) :
    Text.depth (s.map bracket) = (s.count .enter : Int) - s.count .leave := by
  induction s with
  | nil => rfl
  | cons e s ih =>
      unfold Text.depth at ih ⊢
      cases e <;> simp [bracket] at ih ⊢ <;> omega

theorem closed_balanced : Expression.Closed fun s => Text.Balanced (s.map bracket) where
  nil := .of_any rfl
  constraint := by
    rintro ⟨selector, _ | ⟨comparison, a⟩⟩
    · exact .of_any rfl
    · exact .of_any rfl
  join _ := .of_any rfl
  append x y hx hy := by
    rw [List.map_append]
    exact hx.append hy
  group s hs := by
    rw [List.map_append, List.map_cons]
    exact hs.enclose

/-! ## Comparisons in walks -/

/-- Each selector that is not unary is followed by a comparison and then by an argument, each
comparison follows such a selector, and each argument follows such a comparison. -/
structure Paired (s : List Event) : Prop where
  /-- Behind a selector that is not unary. -/
  select : ∀ before name after, s = before ++ .select name false :: after →
    ∃ comparison a rest, after = .compare comparison :: .operand a :: rest
  /-- In front of a comparison. -/
  compare : ∀ before comparison after, s = before ++ .compare comparison :: after →
    ∃ front name, before = front ++ [.select name false]
  /-- In front of an argument. -/
  operand : ∀ before a after, s = before ++ .operand a :: after →
    ∃ front name comparison, before = front ++ [.select name false, .compare comparison]

namespace Paired

/-- An event of two sequences, one behind the other, is one of the first or one of the second. -/
theorem cut_append {x y before after : List Event} {e : Event} (h : x ++ y = before ++ e :: after) :
    (∃ rest, x = before ++ e :: rest ∧ after = rest ++ y) ∨
      ∃ front, y = front ++ e :: after ∧ before = x ++ front := by
  rcases List.append_eq_append_iff.1 h with ⟨front, rfl, rfl⟩ | ⟨rest, rfl, hrest⟩
  · exact .inr ⟨front, rfl, rfl⟩
  · cases rest with
    | nil =>
        rw [List.nil_append] at hrest
        exact .inr ⟨[], hrest.symm, by rw [List.append_nil, List.append_nil]⟩
    | cons e rest =>
        rw [List.cons_append, List.cons.injEq] at hrest
        obtain ⟨rfl, rfl⟩ := hrest
        exact .inl ⟨rest, rfl, rfl⟩

theorem append {x y : List Event} (hx : Paired x) (hy : Paired y) : Paired (x ++ y) where
  select before name after h := by
    rcases cut_append h with ⟨rest, hxs, rfl⟩ | ⟨front, hys, rfl⟩
    · obtain ⟨comparison, a, more, rfl⟩ := hx.select _ _ _ hxs
      exact ⟨comparison, a, more ++ y, rfl⟩
    · exact hy.select _ _ _ hys
  compare before comparison after h := by
    rcases cut_append h with ⟨rest, hxs, -⟩ | ⟨front, hys, rfl⟩
    · exact hx.compare _ _ _ hxs
    · obtain ⟨front, name, rfl⟩ := hy.compare _ _ _ hys
      exact ⟨x ++ front, name, (List.append_assoc ..).symm⟩
  operand before a after h := by
    rcases cut_append h with ⟨rest, hxs, -⟩ | ⟨front, hys, rfl⟩
    · exact hx.operand _ _ _ hxs
    · obtain ⟨front, name, comparison, rfl⟩ := hy.operand _ _ _ hys
      exact ⟨x ++ front, name, comparison, (List.append_assoc ..).symm⟩

/-- Events among which there is no comparison, no argument and no selector but unary ones. -/
theorem of_forall {s : List Event} (h : ∀ e ∈ s, (∀ name, e ≠ .select name false) ∧
    (∀ comparison, e ≠ .compare comparison) ∧ ∀ a, e ≠ .operand a) : Paired s where
  select before name after hs := absurd rfl ((h (.select name false) (by simp [hs])).1 name)
  compare before comparison after hs :=
    absurd rfl ((h (.compare comparison) (by simp [hs])).2.1 comparison)
  operand before a after hs := absurd rfl ((h (.operand a) (by simp [hs])).2.2 a)

/-- One of three events, with those in front of it and those behind it. -/
theorem cut_three {x y z e : Event} {before after : List Event}
    (h : [x, y, z] = before ++ e :: after) :
    (before = [] ∧ e = x ∧ after = [y, z]) ∨ (before = [x] ∧ e = y ∧ after = [z]) ∨
      (before = [x, y] ∧ e = z ∧ after = []) := by
  match before with
  | [] =>
      cases h
      exact .inl ⟨rfl, rfl, rfl⟩
  | [_] =>
      cases h
      exact .inr (.inl ⟨rfl, rfl, rfl⟩)
  | [_, _] =>
      cases h
      exact .inr (.inr ⟨rfl, rfl, rfl⟩)
  | _ :: _ :: _ :: before => simp at h

/-- A selector with its comparison and its argument. -/
theorem compared (name : Text) (comparison : Comparison) (a : Argument) :
    Paired [.select name false, .compare comparison, .operand a] where
  select before n after h := by
    rcases cut_three h with ⟨-, -, rfl⟩ | ⟨-, he, -⟩ | ⟨-, he, -⟩
    · exact ⟨comparison, a, [], rfl⟩
    · cases he
    · cases he
  compare before c after h := by
    rcases cut_three h with ⟨-, he, -⟩ | ⟨rfl, -, -⟩ | ⟨-, he, -⟩
    · cases he
    · exact ⟨[], name, rfl⟩
    · cases he
  operand before b after h := by
    rcases cut_three h with ⟨-, he, -⟩ | ⟨-, he, -⟩ | ⟨rfl, -, -⟩
    · cases he
    · cases he
    · exact ⟨[], name, comparison, rfl⟩

theorem constraint (c : Constraint) : Paired c.events := by
  obtain ⟨selector, _ | ⟨comparison, a⟩⟩ := c
  · exact of_forall (by simp [Constraint.events])
  · exact compared selector comparison a

theorem closed : Expression.Closed Paired where
  nil := of_forall (by simp)
  constraint := constraint
  join _ := of_forall (by simp)
  append _ _ := append
  group s hs := by
    have henter : Paired [.enter] := of_forall (by simp)
    have hleave : Paired [.leave] := of_forall (by simp)
    exact (henter.append hs).append hleave

end Paired

/-! ## Constraints in walks -/

/-- The comparison with its argument with which events begin. -/
def following? : List Event → Option (Comparison × Argument)
  | .compare comparison :: .operand a :: _ => some (comparison, a)
  | _ => none

/-- The selectors among events, each as a constraint with the comparison and the argument behind it
unless it is unary. -/
def constraints : List Event → List Constraint
  | [] => []
  | .select name unary :: s => ⟨name, if unary then none else following? s⟩ :: constraints s
  | _ :: s => constraints s

theorem constraints_constraint (c : Constraint) (s : List Event) :
    constraints (c.events ++ s) = c :: constraints s := by
  obtain ⟨selector, _ | ⟨comparison, a⟩⟩ := c <;> rfl

mutual

/-- The selectors of a walk with what follows them are the constraints. -/
theorem constraints_events : ∀ (e : Expression) (s : List Event),
    constraints (e.events ++ s) = e.constraints ++ constraints s
  | .constraint c, s => by
      rw [Expression.events, Expression.constraints]
      exact constraints_constraint c s
  | .group first rest, s => by
      rw [Expression.events_group_append, Expression.constraints, List.append_assoc]
      show constraints (first.events ++ (Expression.restEvents rest ++ .leave :: s)) = _
      rw [constraints_events first, constraints_restEvents rest]
      rfl

theorem constraints_restEvents : ∀ (rest : List (Joiner × Expression)) (s : List Event),
    constraints (Expression.restEvents rest ++ s) =
      Expression.restConstraints rest ++ constraints s
  | [], s => rfl
  | (joiner, e) :: rest, s => by
      rw [Expression.restEvents_cons_append, Expression.restConstraints, List.append_assoc]
      show constraints (e.events ++ (Expression.restEvents rest ++ s)) = _
      rw [constraints_events e, constraints_restEvents rest]

end

end Event

namespace Expression

/-- **A walk tells its filter.**  Filters with the same walk are the same.  In every walk the
beginnings and ends of groups balance, comparisons and arguments stand behind the selectors that
are not unary and nowhere else, and the selectors with what follows them are the constraints in
their order. -/
theorem walk_faithful :
    (∀ e e' : Expression, e.events = e'.events → e = e') ∧
      ∀ e : Expression,
        (e.events.count .enter = e.events.count .leave ∧
          ∀ s : List Event, s <+: e.events → s.count .leave ≤ s.count .enter) ∧
        Event.Paired e.events ∧ Event.constraints e.events = e.constraints := by
  refine ⟨?_, ?_⟩
  · intro e e' h
    have he : ofEvents? e'.events = some e := ofEvents?_eq_some_iff.2 h
    rw [ofEvents?_eq_some_iff.2 rfl, Option.some.injEq] at he
    exact he.symm
  · intro e
    have hbalanced := Event.closed_balanced.events e
    refine ⟨⟨?_, ?_⟩, Event.Paired.closed.events e, ?_⟩
    · have hlevel := hbalanced.level
      rw [Event.depth_map_bracket] at hlevel
      omega
    · intro s hs
      have habove := hbalanced.above _ (hs.map Event.bracket)
      rw [Event.depth_map_bracket] at habove
      omega
    · simpa [Event.constraints] using Event.constraints_events e []

/-- A group of one operand has the same walk however it is made; in this walk a selector is compared
behind another that is not, and three events from its beginning no group has ended. -/
theorem walk_faithful_single :
    let shelf : Constraint := ⟨['s'], none⟩
    let lamp : Argument := { literal := "lamp".toList, kind := .text }
    let title : Constraint := ⟨['t'], some (.equal, lamp)⟩
    let e : Expression := .group (.constraint shelf) [(.or, .single (.constraint title))]
    let e' : Expression := .group (.constraint shelf) [(.or, .group (.constraint title) [])]
    let opening : List Event := [.enter, .select ['s'] true, .join .or]
    e.events = e'.events ∧ e = e' ∧ opening <+: e.events ∧
      opening.count .leave ≤ opening.count .enter ∧
      e.events = (opening ++ [.enter]) ++
        .select ['t'] false :: [.compare .equal, .operand lamp, .leave, .leave] ∧
      (∃ comparison a rest, [.compare .equal, .operand lamp, .leave, .leave] =
        Event.compare comparison :: .operand a :: rest) ∧
      Event.constraints e.events = [shelf, title] := by
  intro shelf lamp title e e' opening
  have hsame : e.events = e'.events := rfl
  have hopening : opening <+: e.events := by
    exact ⟨_, rfl⟩
  obtain ⟨⟨-, habove⟩, hpaired, hconstraints⟩ := walk_faithful.2 e
  exact ⟨hsame, walk_faithful.1 e e' hsame, hopening, habove opening hopening, rfl,
    hpaired.select (opening ++ [.enter]) ['t'] _ rfl, hconstraints⟩

end Expression
end SqlFilter
