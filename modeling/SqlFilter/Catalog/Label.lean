import SqlFilter.Catalog.Basic
import SqlFilter.Error
import SqlFilter.Text.Blank

/-!
# Field labels

A label says under which alias a field is registered and, if need be, which column it stands
for: `alias`, `alias,db:column` or `alias,db:table.column`.  The alias `-` keeps the field out of
the catalog.

* `Label.parse` reads a label, `Label.toField` builds the field from it;
* `Declaration` is a row of a registration table and `Catalog.ofDeclarations` the catalog of such
  a table.

Blanks around the pieces between commas do not count.  Of several column options the last one that
names a column or a qualifier wins, each of the two on its own.
-/

namespace SqlFilter

/-! ## Labels -/

/-- What a label says about a field. -/
structure Label where
  /-- The alias of the field. -/
  aliasName : Text
  /-- The column, where it is not called like the field. -/
  column : Option Text := none
  /-- The table, or schema and table, of the column. -/
  qualifier : Option Text := none
  deriving Repr, DecidableEq

/-- What is wrong with a label. -/
inductive LabelFault where
  /-- There is no alias. -/
  | emptyAlias
  /-- A piece behind the alias is no column option. -/
  | unknownOption (piece : Text)
  /-- A column option has an empty part. -/
  | emptyPart
  /-- A column option names no column. -/
  | missingColumn
  deriving Repr, DecidableEq

/-- The wording of a fault. -/
def LabelFault.message : LabelFault → Text
  | emptyAlias => "alias must not be empty".toList
  | unknownOption piece => "unknown option ".toList ++ Error.quoted piece
  | emptyPart => "`db:` has an empty qualifier or column".toList
  | missingColumn => "`db:` needs a column name".toList

namespace Label

/-- The label with the column option `target` taken in.  The part behind the last dot is the
column and the part before it the qualifier. -/
def withTarget (a : Label) (target : Text) : Except LabelFault Label :=
  match Text.cutLast '.' target with
  | some (qualifier, column) =>
    if column = [] ∨ [] ∈ Text.splitOn '.' qualifier then .error .emptyPart
    else .ok { a with qualifier := some qualifier, column := some column }
  | none =>
    if target = [] then .error .missingColumn else .ok { a with column := some target }

/-- The label with the piece behind a comma taken in. -/
def withPiece (a : Label) (piece : Text) : Except LabelFault Label :=
  match Text.strip? "db:".toList (Text.trim piece) with
  | none => .error (.unknownOption (Text.trim piece))
  | some target => a.withTarget target

/-- Reads a label; there is none for a field that is kept out. -/
def read (value : Text) : Except LabelFault (Option Label) :=
  match Text.splitOn ',' value with
  | [] => .error .emptyAlias
  | first :: pieces =>
    let aliasName := Text.trim first
    if aliasName = ['-'] then .ok none
    else if aliasName = [] then .error .emptyAlias
    else (pieces.foldlM withPiece { aliasName }).map some

/-- Reads the label of a field. -/
def parse (field value : Text) : Except Error (Option Label) :=
  (read value).mapError fun fault => .invalidLabel field value fault.message

/-- The field that a label describes. -/
def toField (a : Label) (name : Text) (type : FieldType) (nullable : Bool) : Field :=
  { column := a.column.getD name, aliasName := a.aliasName, type, nullable
    qualifier := a.qualifier }

end Label

/-! ## Registration tables -/

/-- A row of a registration table. -/
structure Declaration where
  /-- The name of the field. -/
  name : Text
  /-- The declared type of its values. -/
  type : FieldType
  /-- Whether it may be empty. -/
  nullable : Bool := false
  /-- The label; without one the field is kept out of the catalog. -/
  label : Option Text := none
  deriving Repr, DecidableEq

/-- The field that a row registers, if it registers one. -/
def Declaration.field? (d : Declaration) : Except Error (Option Field) :=
  match d.label with
  | none => .ok none
  | some value =>
    (Label.parse d.name value).map fun a => a.map fun a => a.toField d.name d.type d.nullable

/-- The catalog of a registration table; the first row with a malformed label is the
failure. -/
def Catalog.ofDeclarations (rows : List Declaration) : Except Error Catalog :=
  rows.foldlM (fun c row => do
    match ← row.field? with
    | none => return c
    | some f => return c.insert f) Catalog.empty

end SqlFilter
