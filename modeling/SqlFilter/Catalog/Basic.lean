import SqlFilter.Catalog.FieldType
import SqlFilter.Text.Keyed
import SqlFilter.Text.Lowercase

/-!
# Catalogs

A catalog maps the aliases that clients use to the columns behind them.

* `Field` is one column that can be filtered and sorted;
* `Catalog` holds fields under their lower-cased aliases, in the order in which these were first
  registered; registering an alias again replaces its field and keeps its place;
* `Catalog.ofList` collects fields and `Catalog.built` registers them call by call;
* `Catalog.resolve?` looks an alias up in letters of any case.
-/

namespace SqlFilter

/-- A column that can be filtered and sorted. -/
structure Field where
  /-- The name of the column. -/
  column : Text
  /-- The alias that clients use, as declared. -/
  aliasName : Text
  /-- The declared type of the values. -/
  type : FieldType
  /-- Whether the column may be empty; no clause depends on it. -/
  nullable : Bool := false
  /-- The table, or schema and table, that the column is in. -/
  qualifier : Option Text := none
  deriving Repr, DecidableEq

/-- The key under which a field is registered. -/
def Field.key (f : Field) : Text := Text.lowercase f.aliasName

/-- A call that registers a field. -/
inductive Registration where
  /-- A field with all that is known of it. -/
  | field (f : Field)
  /-- A column with values of a type, in no particular table, under an alias. -/
  | column (type : FieldType) (name aliasName : Text)
  deriving Repr, DecidableEq

/-- The field that a call registers. -/
def Registration.toField : Registration → Field
  | field f => f
  | column type name aliasName => { column := name, aliasName, type }

/-- Fields under their keys, in order of registration. -/
structure Catalog where
  /-- The keys with their fields. -/
  entries : List (Text × Field) := []
  deriving Repr, DecidableEq

namespace Catalog

/-- The catalog without fields. -/
def empty : Catalog := {}

/-- The catalog with one more field registered. -/
def insert (c : Catalog) (f : Field) : Catalog := ⟨Keyed.put f.key f c.entries⟩

/-- The catalog of fields registered in the given order. -/
def ofList (fields : List Field) : Catalog := fields.foldl insert empty

/-- The catalog after a call. -/
def register (c : Catalog) (r : Registration) : Catalog := c.insert r.toField

/-- The catalog that calls build, one after another. -/
def built (calls : List Registration) : Catalog := calls.foldl register empty

/-- The field of an alias in letters of any case. -/
def resolve? (c : Catalog) (aliasName : Text) : Option Field :=
  c.entries.lookup (Text.lowercase aliasName)

/-- Whether an alias is registered. -/
def contains (c : Catalog) (aliasName : Text) : Bool := (c.resolve? aliasName).isSome

/-- The number of fields. -/
def size (c : Catalog) : Nat := c.entries.length

/-- Whether there is no field. -/
def isEmpty (c : Catalog) : Bool := c.entries.isEmpty

/-- The fields in order of registration. -/
def toList (c : Catalog) : List Field := c.entries.map (·.2)

/-- The keys in order of registration. -/
def keys (c : Catalog) : List Text := c.entries.map (·.1)

/-- Whether two catalogs have the same fields under the same keys, in any order. -/
def sameFields (c d : Catalog) : Bool :=
  c.size == d.size && c.entries.all fun (key, f) => d.entries.lookup key == some f

end Catalog
end SqlFilter
