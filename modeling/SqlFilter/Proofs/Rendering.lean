import SqlFilter.Expression.Event

/-!
# Trees and their texts

The texts of this library follow the shape of a filter.  A `Tree` is that shape with any values in
the places of the constraints, and `Tree.write` is its text: a group stands in parentheses, its
operands in order with the keyword of the joiner between them, and each value is written by itself
once the number of its first placeholder is known.

* `Expression.tree` is the tree of a filter, with the constraints themselves as values;
* `Tree.map` puts other values in their places, and `Tree.leaves` lists the values;
* `Tree.slots` counts the placeholders of a tree when each value says how many it has;
* `Tree.grouped` puts a tree that is a single value into a group of its own.

The laws say that the text depends on the values only through what is written for them:
`write_map` and `write_congr`.
-/

namespace SqlFilter

/-- Groups of values: a filter with other values in the places of its constraints. -/
inductive Tree (α : Type) where
  /-- A single value. -/
  | leaf (a : α)
  /-- Operands in parentheses, each but the first with what joins it to those before. -/
  | group (first : Tree α) (rest : List (Joiner × Tree α))

namespace Tree

variable {α β : Type}

mutual

/-- The tree with another value in the place of each. -/
def map (f : α → β) : Tree α → Tree β
  | leaf a => leaf (f a)
  | group first rest => group (map f first) (restMap f rest)

/-- The operands after the first with other values. -/
def restMap (f : α → β) : List (Joiner × Tree α) → List (Joiner × Tree β)
  | [] => []
  | (joiner, operand) :: rest => (joiner, map f operand) :: restMap f rest

end

mutual

/-- The values from left to right. -/
def leaves : Tree α → List α
  | leaf a => [a]
  | group first rest => leaves first ++ restLeaves rest

/-- The values of the operands after the first. -/
def restLeaves : List (Joiner × Tree α) → List α
  | [] => []
  | (_, operand) :: rest => leaves operand ++ restLeaves rest

end

mutual

/-- The number of placeholders of a tree. -/
def slots (width : α → Nat) : Tree α → Nat
  | leaf a => width a
  | group first rest => slots width first + restSlots width rest

/-- The number of placeholders of the operands after the first. -/
def restSlots (width : α → Nat) : List (Joiner × Tree α) → Nat
  | [] => 0
  | (_, operand) :: rest => slots width operand + restSlots width rest

end

mutual

/-- The text of a tree, where `text n a` is what is written for `a` when its first placeholder has
the number `n`.  The first placeholder of the tree has the number `next`. -/
def write (text : Nat → α → Text) (width : α → Nat) (next : Nat) : Tree α → Text
  | leaf a => text next a
  | group first rest =>
    '(' :: write text width next first ++ restWrite text width (next + slots width first) rest ++
      [')']

/-- The text of the operands after the first, each behind its joiner. -/
def restWrite (text : Nat → α → Text) (width : α → Nat) (next : Nat) :
    List (Joiner × Tree α) → Text
  | [] => []
  | (joiner, operand) :: rest =>
    joiner.keyword ++ write text width next operand ++
      restWrite text width (next + slots width operand) rest

end

/-- The tree as a group: a single value gets a group of its own. -/
def grouped : Tree α → Tree α
  | leaf a => group (leaf a) []
  | t => t

/-! ## Laws of a change of values -/

mutual

/-- Two changes of the values, one after the other, are one. -/
theorem map_map {γ : Type} (f : α → β) (g : β → γ) :
    ∀ t : Tree α, (t.map f).map g = t.map fun a => g (f a)
  | leaf a => rfl
  | group first rest => by
      rw [map, map, map_map f g first, restMap_restMap f g rest, map]

theorem restMap_restMap {γ : Type} (f : α → β) (g : β → γ) :
    ∀ rest : List (Joiner × Tree α), restMap g (restMap f rest) = restMap (fun a => g (f a)) rest
  | [] => rfl
  | (joiner, operand) :: rest => by
      rw [restMap, restMap, map_map f g operand, restMap_restMap f g rest, restMap]

end

mutual

theorem slots_map (f : α → β) (width : β → Nat) :
    ∀ t : Tree α, (t.map f).slots width = t.slots fun a => width (f a)
  | leaf a => rfl
  | group first rest => by
      rw [map, slots, slots_map f width first, restSlots_map f width rest, slots]

theorem restSlots_map (f : α → β) (width : β → Nat) :
    ∀ rest : List (Joiner × Tree α),
      restSlots width (restMap f rest) = restSlots (fun a => width (f a)) rest
  | [] => rfl
  | (joiner, operand) :: rest => by
      rw [restMap, restSlots, slots_map f width operand, restSlots_map f width rest, restSlots]

end

mutual

/-- Changing the values and then writing them is the same as writing what they are changed to. -/
theorem write_map (f : α → β) (text : Nat → β → Text) (width : β → Nat) :
    ∀ (t : Tree α) (next : Nat), (t.map f).write text width next =
      t.write (fun n a => text n (f a)) (fun a => width (f a)) next
  | leaf a, _ => rfl
  | group first rest, next => by
      rw [map, write, write_map f text width first, restWrite_map f text width rest,
        slots_map, write]

theorem restWrite_map (f : α → β) (text : Nat → β → Text) (width : β → Nat) :
    ∀ (rest : List (Joiner × Tree α)) (next : Nat),
      restWrite text width next (restMap f rest) =
        restWrite (fun n a => text n (f a)) (fun a => width (f a)) next rest
  | [], _ => rfl
  | (joiner, operand) :: rest, next => by
      rw [restMap, restWrite, write_map f text width operand, restWrite_map f text width rest,
        slots_map, restWrite]

end

/-! ## Facts about all values -/

section Values

variable {P : α → Prop}

theorem mem_leaf (a : α) : a ∈ (leaf a).leaves := List.mem_singleton_self a

theorem of_forall_group {first : Tree α} {rest : List (Joiner × Tree α)}
    (h : ∀ a ∈ (group first rest).leaves, P a) :
    (∀ a ∈ first.leaves, P a) ∧ ∀ a ∈ restLeaves rest, P a := by
  rw [leaves] at h
  exact List.forall_mem_append.1 h

theorem of_forall_rest {joiner : Joiner} {operand : Tree α} {rest : List (Joiner × Tree α)}
    (h : ∀ a ∈ restLeaves ((joiner, operand) :: rest), P a) :
    (∀ a ∈ operand.leaves, P a) ∧ ∀ a ∈ restLeaves rest, P a := by
  rw [restLeaves] at h
  exact List.forall_mem_append.1 h

end Values

/-! ## Laws of equal texts -/

section Congruence

variable {text text' : Nat → α → Text} {width width' : α → Nat}

mutual

theorem slots_congr :
    ∀ t : Tree α, (∀ a ∈ t.leaves, width a = width' a) → t.slots width = t.slots width'
  | leaf a, h => h a (mem_leaf a)
  | group first rest, h => by
      obtain ⟨hfirst, hrest⟩ := of_forall_group h
      rw [slots, slots_congr first hfirst, restSlots_congr rest hrest, slots]

theorem restSlots_congr :
    ∀ rest : List (Joiner × Tree α), (∀ a ∈ restLeaves rest, width a = width' a) →
      restSlots width rest = restSlots width' rest
  | [], _ => rfl
  | (joiner, operand) :: rest, h => by
      obtain ⟨hoperand, hrest⟩ := of_forall_rest h
      rw [restSlots, slots_congr operand hoperand, restSlots_congr rest hrest, restSlots]

end

mutual

/-- Two ways of writing that agree on the values of a tree give it the same text. -/
theorem write_congr :
    ∀ (t : Tree α) (next : Nat), (∀ a ∈ t.leaves, width a = width' a) →
      (∀ a ∈ t.leaves, ∀ n, text n a = text' n a) →
      t.write text width next = t.write text' width' next
  | leaf a, next, _, ht => ht a (mem_leaf a) next
  | group first rest, next, hw, ht => by
      obtain ⟨hwfirst, hwrest⟩ := of_forall_group hw
      obtain ⟨htfirst, htrest⟩ := of_forall_group ht
      rw [write, slots_congr first hwfirst, write_congr first next hwfirst htfirst,
        restWrite_congr rest _ hwrest htrest, write]

theorem restWrite_congr :
    ∀ (rest : List (Joiner × Tree α)) (next : Nat), (∀ a ∈ restLeaves rest, width a = width' a) →
      (∀ a ∈ restLeaves rest, ∀ n, text n a = text' n a) →
      restWrite text width next rest = restWrite text' width' next rest
  | [], _, _, _ => rfl
  | (joiner, operand) :: rest, next, hw, ht => by
      obtain ⟨hwoperand, hwrest⟩ := of_forall_rest hw
      obtain ⟨htoperand, htrest⟩ := of_forall_rest ht
      rw [restWrite, slots_congr operand hwoperand, write_congr operand next hwoperand htoperand,
        restWrite_congr rest _ hwrest htrest, restWrite]

end

end Congruence

/-! ## Values that all exist -/

mutual

/-- Where every value of a tree has an image, the images make up a tree. -/
theorem exists_map_some {f : α → Option β} :
    ∀ t : Tree α, (∀ a ∈ t.leaves, ∃ k, f a = some k) → ∃ u : Tree β, t.map f = u.map some
  | leaf a, h => by
      obtain ⟨k, hk⟩ := h a (mem_leaf a)
      exact ⟨leaf k, by rw [map, map, hk]⟩
  | group first rest, h => by
      obtain ⟨hfirst, hrest⟩ := of_forall_group h
      obtain ⟨u, hu⟩ := exists_map_some first hfirst
      obtain ⟨us, hus⟩ := exists_restMap_some rest hrest
      exact ⟨group u us, by rw [map, hu, hus, map]⟩

theorem exists_restMap_some {f : α → Option β} :
    ∀ rest : List (Joiner × Tree α), (∀ a ∈ restLeaves rest, ∃ k, f a = some k) →
      ∃ us : List (Joiner × Tree β), restMap f rest = restMap some us
  | [], _ => ⟨[], rfl⟩
  | (joiner, operand) :: rest, h => by
      obtain ⟨hoperand, hrest⟩ := of_forall_rest h
      obtain ⟨u, hu⟩ := exists_map_some operand hoperand
      obtain ⟨us, hus⟩ := exists_restMap_some rest hrest
      exact ⟨(joiner, u) :: us, by rw [restMap, hu, hus, restMap]⟩

end

/-! ## Laws of grouping -/

theorem grouped_map (f : α → β) (t : Tree α) : (t.map f).grouped = t.grouped.map f := by
  cases t <;> rfl

theorem exists_grouped (t : Tree α) : ∃ first rest, t.grouped = group first rest := by
  cases t <;> exact ⟨_, _, rfl⟩

theorem leaves_grouped (t : Tree α) : t.grouped.leaves = t.leaves := by
  cases t with
  | leaf a => rfl
  | group first rest => rfl

end Tree

/-! ## The tree of a filter -/

namespace Expression

mutual

/-- The tree of a filter. -/
def tree : Expression → Tree Constraint
  | constraint c => .leaf c
  | group first rest => .group (tree first) (restTree rest)

/-- The trees of the operands after the first. -/
def restTree : List (Joiner × Expression) → List (Joiner × Tree Constraint)
  | [] => []
  | (joiner, operand) :: rest => (joiner, tree operand) :: restTree rest

end

mutual

theorem leaves_tree : ∀ e : Expression, e.tree.leaves = e.constraints
  | constraint c => by rw [tree, Tree.leaves, constraints]
  | group first rest => by
      rw [tree, Tree.leaves, leaves_tree first, restLeaves_restTree rest, constraints]

theorem restLeaves_restTree :
    ∀ rest : List (Joiner × Expression), Tree.restLeaves (restTree rest) = restConstraints rest
  | [] => by rw [restTree, Tree.restLeaves, restConstraints]
  | (joiner, operand) :: rest => by
      rw [restTree, Tree.restLeaves, leaves_tree operand, restLeaves_restTree rest,
        restConstraints]

end

/-- The values of a filter as a group are its constraints. -/
theorem leaves_tree_grouped (e : Expression) : e.tree.grouped.leaves = e.constraints := by
  rw [Tree.leaves_grouped, leaves_tree]

end Expression

end SqlFilter
