import SqlFilter.Catalog.Label
import SqlFilter.Record.Attribute
import SqlFilter.Record.TypeExpr

/-!
# Records

A record with named fields describes a catalog: a field with a label is registered under the
label's alias, with the field type that its attributes name or its type shows.

* `Record` is a record as it is declared;
* `RecordField.field?` is what one field registers;
* `Record.registered` lists what the record registers, and `Record.catalog` is the catalog.

Fields are gone through in order and the first fault is the failure.  Two fields whose aliases
differ in letter case alone are a fault.
-/

namespace SqlFilter

/-! ## Declarations -/

/-- A field of a record. -/
structure RecordField where
  /-- The name, possibly marked as raw by `r#` in front. -/
  name : Text
  /-- The type. -/
  type : TypeExpr
  /-- The attributes in order. -/
  attributes : List Attribute := []

/-- What is declared. -/
inductive RecordShape where
  /-- A record with named fields. -/
  | named
  /-- A record whose fields have no names. -/
  | tuple
  /-- A record without fields. -/
  | unit
  /-- A union. -/
  | union
  /-- An enumeration. -/
  | enumeration
  deriving Repr, DecidableEq

/-- A parameter of a record. -/
inductive GenericParameter where
  /-- A lifetime. -/
  | lifetime (name : Text)
  /-- A type with its bounds, and perhaps with the type that it is if it is not given. -/
  | type (name : Text) (bounds : List Text) (standard : Option Text)
  /-- A constant number. -/
  | constant (name : Text)
  deriving Repr, DecidableEq

/-- A condition on the parameters of a record. -/
structure WhereClause where
  /-- The type that is bounded. -/
  type : Text
  /-- The bounds. -/
  bounds : List Text
  deriving Repr, DecidableEq

/-- A record as it is declared. -/
structure Record where
  /-- What is declared. -/
  shape : RecordShape
  /-- The name. -/
  name : Text
  /-- The fields in order. -/
  fields : List RecordField
  /-- The parameters in order. -/
  parameters : List GenericParameter := []
  /-- The conditions in order. -/
  conditions : List WhereClause := []

/-! ## Faults -/

/-- Why no catalog can be made of a record. -/
inductive RecordFault where
  /-- The fields have no names. -/
  | unnamedFields
  /-- It is no record. -/
  | notRecord
  /-- An attribute is malformed. -/
  | malformed (fault : AttributeFault)
  /-- A field has a kind, but no label. -/
  | kindWithoutLabel
  /-- A label or the name of a kind is malformed. -/
  | invalid (error : Error)
  /-- A field has a type without a field type. -/
  | unknownType (field : Text)
  /-- An alias is taken. -/
  | duplicateAlias (aliasName : Text)

/-- The wording of a fault. -/
def RecordFault.message : RecordFault → Text
  | unnamedFields => "Filterable derive only supports structs with named fields".toList
  | notRecord => "Filterable derive only supports structs".toList
  | malformed fault => fault.message
  | kindWithoutLabel => "`kind` requires an annotation string".toList
  | invalid error => error.message
  | unknownType field =>
    "cannot infer a filter type for field ".toList ++ Error.quoted field ++
      "; add #[fiql(kind = \"...\")]".toList
  | duplicateAlias aliasName => "duplicate filter alias ".toList ++ Error.quoted aliasName

/-! ## Fields -/

namespace RecordField

/-- The name of the column that a field stands for unless its label names another. -/
def columnName (f : RecordField) : Text := (Text.strip? "r#".toList f.name).getD f.name

/-- The field type of a field: that of the kind that is given, and else that of its type. -/
def fieldType (f : RecordField) (kind : Option Text) : Except RecordFault FieldType :=
  match kind with
  | some name => (FieldType.named name).mapError .invalid
  | none =>
    match f.type.infer.type with
    | some type => .ok type
    | none => .error (.unknownType f.columnName)

/-- What a field with the given options registers, if anything. -/
def register? (f : RecordField) (o : FieldOptions) : Except RecordFault (Option Field) := do
  if o.skip then return none
  match o.label with
  | none => if o.kind.isSome then throw .kindWithoutLabel else return none
  | some value =>
    match ← (Label.parse f.columnName value).mapError RecordFault.invalid with
    | none => return none
    | some label =>
      let type ← f.fieldType o.kind
      return some (label.toField f.columnName type f.type.infer.nullable)

/-- What a field registers, if anything. -/
def field? (f : RecordField) : Except RecordFault (Option Field) := do
  f.register? (← (FieldOptions.ofAttributes f.attributes).mapError .malformed)

end RecordField

namespace Record

/-- Takes in one more field behind those that are registered. -/
def addField (registered : List Field) (f : RecordField) : Except RecordFault (List Field) := do
  match ← f.field? with
  | none => return registered
  | some field =>
    if field.key ∈ registered.map Field.key then throw (.duplicateAlias field.aliasName)
    else return registered ++ [field]

/-- The fields that a record registers, in order. -/
def registered (r : Record) : Except RecordFault (List Field) :=
  match r.shape with
  | .named => r.fields.foldlM addField []
  | .tuple => .error .unnamedFields
  | .unit => .error .unnamedFields
  | .union => .error .notRecord
  | .enumeration => .error .notRecord

/-- The catalog of a record. -/
def catalog (r : Record) : Except RecordFault Catalog := r.registered.map Catalog.ofList

end Record
end SqlFilter
