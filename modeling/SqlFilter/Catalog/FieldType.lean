import SqlFilter.Text.Basic

/-!
# Field types

The declared type of a field's values.  `FieldType.name` is its name in messages, and
`FieldType.ofName?` reads it from one of its accepted names, letters of either case.  In stored data
a field type goes by its `FieldType.storedName` alone.
-/

namespace SqlFilter

/-- The declared type of a field's values. -/
inductive FieldType where
  /-- Text. -/
  | text
  /-- Whole numbers. -/
  | integer
  /-- Decimal or floating-point numbers. -/
  | float
  /-- Points in time. -/
  | dateTime
  /-- Spans of time. -/
  | span
  deriving Repr, DecidableEq

namespace FieldType

/-- The name of a field type. -/
def name : FieldType → Text
  | .text => "string".toList
  | .integer => "integer".toList
  | .float => "float".toList
  | .dateTime => "datetime".toList
  | .span => "duration".toList

/-- The name of a field type in stored data. -/
def storedName : FieldType → Text
  | .dateTime => "date_time".toList
  | type => type.name

/-- All field types. -/
def all : List FieldType := [.text, .integer, .float, .dateTime, .span]

/-- Every name that a field type goes by. -/
def names : List (Text × FieldType) :=
  [("string".toList, .text), ("str".toList, .text), ("text".toList, .text),
   ("integer".toList, .integer), ("int".toList, .integer),
   ("float".toList, .float), ("decimal".toList, .float),
   ("datetime".toList, .dateTime), ("date_time".toList, .dateTime),
   ("timestamp".toList, .dateTime), ("duration".toList, .span)]

/-- The field type of a name in letters of either case. -/
def ofName? (t : Text) : Option FieldType := names.lookup (Text.asciiLower t)

/-- The field type of a name in stored data. -/
def ofStoredName? (t : Text) : Option FieldType := all.find? fun type => type.storedName = t

end FieldType
end SqlFilter
