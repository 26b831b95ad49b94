import SqlFilter.Record.TypeExpr

/-!
# Layers of types

Inference of a field type looks through references, brackets, pointers and `Option`, however many
there are and in whatever order they stand.

* `TypeExpr.Layer` is one of them, with the module path and the arguments that it may have;
* `TypeExpr.stack` puts layers around a type.

The main statement is `TypeExpr.infer_stack`.
-/

namespace SqlFilter.TypeExpr

/-! ## Layers -/

/-- The types with an argument that is looked through. -/
inductive Owner where
  /-- A value that may be missing. -/
  | option
  /-- A pointer with one owner. -/
  | box
  /-- A counted pointer that threads can share. -/
  | arc
  /-- A counted pointer. -/
  | rc
  deriving Repr, DecidableEq

/-- The name of such a type. -/
def Owner.name : Owner → Text
  | .option => "Option".toList
  | .box => "Box".toList
  | .arc => "Arc".toList
  | .rc => "Rc".toList

/-- What can stand around a type without changing what is inferred of it, but for the mark of a
value that may be missing. -/
inductive Layer where
  /-- A reference. -/
  | reference
  /-- Parentheses. -/
  | parentheses
  /-- A group without brackets. -/
  | group
  /-- A path with the modules in front of its last segment and the arguments behind it.  Before the
  type that it is put around it can have arguments that are no types, such as lifetimes, and behind
  it any. -/
  | path (modules : List Text) (owner : Owner) (lifetimes : Nat) (more : List TypeArgument)

namespace Layer

/-- A type with a layer around it. -/
def around : Layer → TypeExpr → TypeExpr
  | reference, t => .reference t
  | parentheses, t => .parenthesized t
  | group, t => .grouped t
  | path modules owner lifetimes more, t =>
    .path (modules.flatMap (· ++ "::".toList) ++ owner.name)
      (List.replicate lifetimes .other ++ .type t :: more)

/-- Whether a layer says that a value may be missing. -/
def isOption : Layer → Bool
  | path _ owner _ _ => owner = .option
  | _ => false

end Layer

/-- A type with layers around it, the first outermost. -/
def stack (layers : List Layer) (t : TypeExpr) : TypeExpr := layers.foldr Layer.around t

/-! ## Inference through layers -/

/-- Modules in front of a segment do not count. -/
theorem lastSegment_flatMap {segment : Text} (h : ':' ∉ segment) (modules : List Text) :
    lastSegment (modules.flatMap (· ++ "::".toList) ++ segment) = segment := by
  rcases List.eq_nil_or_concat modules with rfl | ⟨outer, inner, rfl⟩
  · rw [List.flatMap_nil, List.nil_append, lastSegment, Text.cutLast_of_not_mem h]
  · have hpath : (outer ++ [inner]).flatMap (· ++ "::".toList) ++ segment =
        (outer.flatMap (· ++ "::".toList) ++ inner ++ [':']) ++ ':' :: segment := by
      simp
    rw [List.concat_eq_append, hpath, lastSegment, Text.cutLast_append h]

/-- Arguments in front of the first type do not count, and neither do those behind it. -/
theorem inferFirst_replicate (lifetimes : Nat) (t : TypeExpr) (more : List TypeArgument) :
    inferFirst (List.replicate lifetimes .other ++ .type t :: more) = some t.infer := by
  induction lifetimes with
  | zero => rw [List.replicate_zero, List.nil_append, inferFirst]
  | succ n ih => rw [List.replicate_succ, List.cons_append, inferFirst, ih]

/-- A layer keeps the field type, and adds that a value may be missing if it is an `Option`. -/
theorem infer_around (layer : Layer) (t : TypeExpr) :
    (layer.around t).infer =
      { type := t.infer.type, nullable := layer.isOption || t.infer.nullable } := by
  cases layer with
  | reference => rw [Layer.around, infer]; rfl
  | parentheses => rw [Layer.around, infer]; rfl
  | group => rw [Layer.around, infer]; rfl
  | path modules owner lifetimes more =>
      have hname : ':' ∉ owner.name := by cases owner <;> decide
      rw [Layer.around, infer, inferFirst_replicate, lastSegment_flatMap hname]
      cases owner <;> rfl

theorem infer_stack_eq (layers : List Layer) (t : TypeExpr) :
    (stack layers t).infer =
      { type := t.infer.type, nullable := layers.any Layer.isOption || t.infer.nullable } := by
  induction layers with
  | nil => rfl
  | cons layer layers ih =>
      show (layer.around (stack layers t)).infer = _
      rw [infer_around, ih, List.any_cons, Bool.or_assoc]

/-- **Layers are looked through.**  With any layers around it a type keeps its field type, also if
it has none.  A value may be missing exactly if that holds of the type or if one of the layers is an
`Option`, wherever it stands. -/
theorem infer_stack (layers : List Layer) (t : TypeExpr) :
    (stack layers t).infer.type = t.infer.type ∧
      ((stack layers t).infer.nullable = true ↔
        (∃ layer ∈ layers, layer.isOption = true) ∨ t.infer.nullable = true) ∧
      ∀ layers' : List Layer, layers'.Perm layers →
        (stack layers' t).infer = (stack layers t).infer := by
  refine ⟨?_, ?_, ?_⟩
  · rw [infer_stack_eq]
  · rw [infer_stack_eq, Bool.or_eq_true, List.any_eq_true]
  · intro layers' hperm
    have hany : layers'.any Layer.isOption = layers.any Layer.isOption := by
      rw [Bool.eq_iff_iff, List.any_eq_true, List.any_eq_true]
      simp only [hperm.mem_iff]
    rw [infer_stack_eq, infer_stack_eq, hany]

/-- A reference to a boxed `Option` of a shared whole number, with the layers in either order. -/
theorem infer_stack_shared :
    let layers : List Layer :=
      [.reference, .path ["std".toList, "boxed".toList] .box 1 [], .path [] .option 0 [],
        .parentheses, .path ["".toList, "std".toList, "sync".toList] .arc 0 [.other]]
    let t : TypeExpr := .path "i32".toList []
    layers.reverse.Perm layers ∧ (stack layers t).infer = ⟨some .integer, true⟩ ∧
      (stack layers.reverse t).infer = ⟨some .integer, true⟩ := by
  intro layers t
  have hperm : layers.reverse.Perm layers := List.reverse_perm layers
  have hinfer : (stack layers t).infer = ⟨some .integer, true⟩ := by rfl
  exact ⟨hperm, hinfer, ((infer_stack layers t).2.2 _ hperm).trans hinfer⟩

end SqlFilter.TypeExpr
