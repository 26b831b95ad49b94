import SqlFilter.Catalog.FieldType

/-!
# Types of record fields

The type that a record gives to a field says which field type its values have.

* `TypeExpr` is a type as it is written; only what inference looks at is kept of it;
* `TypeExpr.infer` finds the field type and whether the field may be empty.

Inference looks through references, parentheses and owning pointers; an `Option` makes the field one
that may be empty.  Paths count by their last segment.
-/

namespace SqlFilter

mutual

/-- A type as it is written. -/
inductive TypeExpr where
  /-- A path, with the arguments that its last segment has in angle brackets. -/
  | path (name : Text) (arguments : List TypeArgument)
  /-- A reference to a value of a type. -/
  | reference (target : TypeExpr)
  /-- A type in parentheses. -/
  | parenthesized (inner : TypeExpr)
  /-- A type in a group without brackets. -/
  | grouped (inner : TypeExpr)
  /-- A tuple, a slice, an array, a raw pointer, a trait object or the empty type. -/
  | other

/-- An argument of a path. -/
inductive TypeArgument where
  /-- A type. -/
  | type (type : TypeExpr)
  /-- A lifetime, a constant or an associated type. -/
  | other

end

/-- What is known of the values of a field. -/
structure InferredType where
  /-- The field type, if it can be inferred. -/
  type : Option FieldType := none
  /-- Whether the field may be empty. -/
  nullable : Bool := false
  deriving Repr, DecidableEq

namespace TypeExpr

/-- The last segment of a path. -/
def lastSegment (path : Text) : Text :=
  match Text.cutLast ':' path with
  | some (_, segment) => segment
  | none => path

/-- The pointers that are looked through. -/
def pointers : List Text := ["Box".toList, "Arc".toList, "Rc".toList]

/-- The names of the types that have a field type. -/
def scalarNames : FieldType → List Text
  | .text => ["String", "str", "Cow", "SmolStr", "char"].map String.toList
  | .integer =>
    ["i8", "i16", "i32", "i64", "i128", "isize", "u8", "u16", "u32", "u64", "u128",
     "usize"].map String.toList
  | .float => ["f32", "f64", "Decimal"].map String.toList
  | .dateTime =>
    ["DateTime", "NaiveDateTime", "NaiveDate", "SystemTime", "OffsetDateTime",
     "PrimitiveDateTime"].map String.toList
  | .span => ["Duration", "TimeDelta"].map String.toList

/-- The field type of the type with a given name. -/
def scalar? (name : Text) : Option FieldType :=
  FieldType.all.find? fun type => name ∈ scalarNames type

mutual

/-- The field type of a type, and whether a field of that type may be empty. -/
def infer : TypeExpr → InferredType
  | path name arguments =>
    let last := lastSegment name
    if last = "Option".toList then
      match inferFirst arguments with
      | some inner => { inner with nullable := true }
      | none => {}
    else if last ∈ pointers then (inferFirst arguments).getD {}
    else { type := scalar? last }
  | reference target => infer target
  | parenthesized inner => infer inner
  | grouped inner => infer inner
  | other => {}

/-- What is inferred from the first type among arguments. -/
def inferFirst : List TypeArgument → Option InferredType
  | [] => none
  | .type t :: _ => some (infer t)
  | .other :: rest => inferFirst rest

end

end TypeExpr
end SqlFilter
