import SqlFilter.Settings.Basic
import SqlFilter.Settings.Reference
import SqlFilter.Toml.Document

/-!
# Reading settings

Settings are written as a TOML document with the tables `adapter` and `environments`.  References to
variables are expanded in the text before anything else.

* `Settings.ofEntries?` finds the settings that the entries of a document stand for; unknown names
  are refused, and a record may also be an array that gives its items by their places;
* `Settings.read` reads settings from a text and validates them, `Settings.load` from the content of
  a file.
-/

namespace SqlFilter

/-- The dialect that an item names. -/
def Dialect.ofItem? (item : Toml.Item) : Option Dialect := item.text?.bind ofName?

/-- The names of the settings of an adapter. -/
def adapterNames : List Text := ["dialect".toList, "table_name".toList]

/-- The overrides that an item stands for. -/
def AdapterOverride.ofItem? (item : Toml.Item) : Option AdapterOverride := do
  let fields ← item.fields? adapterNames
  let dialect ← (fields.lookup "dialect".toList).mapM Dialect.ofItem?
  let table ← (fields.lookup "table_name".toList).mapM Toml.Item.text?
  return { dialect, table }

/-- The adapter settings that an item stands for. -/
def AdapterSettings.ofItem? (item : Toml.Item) : Option AdapterSettings := do
  let given ← AdapterOverride.ofItem? item
  return { dialect := given.dialect.getD Dialect.standard, table := given.table }

/-- The environment that an item stands for. -/
def Environment.ofItem? (item : Toml.Item) : Option Environment := do
  let fields ← item.fields? ["adapter".toList]
  let adapter ← (fields.lookup "adapter".toList).mapM AdapterOverride.ofItem?
  return { adapter }

/-- The environments that an item stands for, which must be a table. -/
def Environment.listOfItem? : Toml.Item → Option (List (Text × Environment))
  | .table _ entries => entries.mapM fun (name, item) => do return (name, ← ofItem? item)
  | _ => none

namespace Settings

/-- The settings that the entries of a document stand for. -/
def ofEntries? (entries : Toml.Entries) : Option Settings := do
  let fields ← (Toml.Item.table .defined entries).fields?
    ["adapter".toList, "environments".toList]
  let adapter ← (fields.lookup "adapter".toList).mapM AdapterSettings.ofItem?
  let environments ← (fields.lookup "environments".toList).mapM Environment.listOfItem?
  return { adapter := adapter.getD {}, environments := environments.getD [] }

/-- Reads settings from a text, where `valueOf` gives the values of variables. -/
def read (valueOf : Text → Option Text) (t : Text) : Except Error Settings := do
  match (Toml.read? (Reference.expand valueOf t)).bind ofEntries? with
  | none => throw .malformedSettings
  | some s =>
    s.validate
    return s

/-- Reads settings from the content of the file at `path`; there is none when the file cannot be
read. -/
def load (valueOf : Text → Option Text) (path : Text) (content : Option ByteArray) :
    Except Error Settings :=
  match content.bind String.fromUTF8? with
  | none => .error (.unreadable path)
  | some s => read valueOf s.toList

end Settings
end SqlFilter
