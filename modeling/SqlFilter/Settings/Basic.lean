import SqlFilter.Dialect.Preset
import SqlFilter.Text.Blank

/-!
# Settings

The settings choose a dialect and, if need be, a table for columns that have none; an environment,
such as one for tests, can override either.

* `Settings` holds the choice and the environments by name;
* `Settings.validate` refuses a table name with an empty part;
* `Settings.withEnvironment` applies the overrides of one environment and uses it up.
-/

namespace SqlFilter

/-- How predicates are built. -/
structure AdapterSettings where
  /-- The dialect. -/
  dialect : Dialect := Dialect.standard
  /-- The table of columns that have no qualifier of their own. -/
  table : Option Text := none
  deriving Repr, DecidableEq

/-- What an environment changes. -/
structure AdapterOverride where
  /-- The dialect, where it changes. -/
  dialect : Option Dialect := none
  /-- The table, where it changes. -/
  table : Option Text := none
  deriving Repr, DecidableEq

/-- An environment. -/
structure Environment where
  /-- What it changes, if anything. -/
  adapter : Option AdapterOverride := none
  deriving Repr, DecidableEq

/-- The settings. -/
structure Settings where
  /-- The choice that holds where no environment changes it. -/
  adapter : AdapterSettings := {}
  /-- The environments by their names. -/
  environments : List (Text × Environment) := []
  deriving Repr, DecidableEq

/-! ## Validity -/

/-- Whether none of the parts of a table name is empty or blank. -/
def isTableName (table : Text) : Bool :=
  (Text.splitOn '.' table).all fun part => !Text.allBlank part

/-- Refuses a malformed table name in the given section of the settings. -/
def checkTable (place : Text) (table : Option Text) : Except Error Unit :=
  match table with
  | none => .ok ()
  | some table =>
    if isTableName table then .ok ()
    else
      .error (.configuration ('[' :: place ++ "] table_name ".toList ++ Error.quoted table ++
        " has an empty segment".toList))

/-- The table name that an environment sets. -/
def Environment.table? (e : Environment) : Option Text := e.adapter.bind (·.table)

namespace Settings

/-- Refuses settings with a malformed table name: that of the adapter first, then those of the
environments in order. -/
def validate (s : Settings) : Except Error Unit := do
  checkTable "adapter".toList s.adapter.table
  s.environments.forM fun (name, environment) =>
    checkTable ("environments.".toList ++ name ++ ".adapter".toList) environment.table?

/-! ## Environments -/

/-- The settings with the overrides of an environment applied, and without that environment; a name
that no environment has changes nothing. -/
def withEnvironment (s : Settings) (name : Text) : Settings :=
  let environments := s.environments.filter fun (n, _) => n ≠ name
  match (s.environments.lookup name).bind (·.adapter) with
  | none => { s with environments }
  | some change =>
    { adapter :=
        { dialect := change.dialect.getD s.adapter.dialect
          table := change.table.or s.adapter.table }
      environments }

end Settings
end SqlFilter
