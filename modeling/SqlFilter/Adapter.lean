import SqlFilter.Predicate.Order
import SqlFilter.Settings.Basic

/-!
# Adapters

An adapter holds what is needed to build predicates and order clauses for one catalog.

* `Adapter.new` starts with the standard dialect, `Adapter.ofSettings` with the one chosen;
* `Adapter.withDialect`, `Adapter.withProfile` and `Adapter.withTable` change one choice;
* `Adapter.buildPredicate` and `Adapter.buildOrder` build.
-/

namespace SqlFilter

/-- A catalog with the choices that predicates and order clauses are built by. -/
structure Adapter where
  /-- The fields that can be named. -/
  catalog : Catalog
  /-- The dialect whose profile it is, if there is one. -/
  dialect : Option Dialect
  /-- The lexical rules of the engine. -/
  profile : Profile
  /-- The table of columns that have no qualifier of their own. -/
  table : Option Text
  deriving DecidableEq

namespace Adapter

/-- The adapter of a catalog with the standard dialect and no table. -/
def new (catalog : Catalog) : Adapter :=
  { catalog, dialect := some Dialect.standard, profile := Profile.standard, table := none }

/-- The adapter with another dialect. -/
def withDialect (a : Adapter) (dialect : Dialect) : Adapter :=
  { a with dialect := some dialect, profile := dialect.profile }

/-- The adapter with another profile, and the dialect that has this profile, if there is one. -/
def withProfile (a : Adapter) (profile : Profile) : Adapter :=
  { a with dialect := Dialect.withProfile? profile, profile }

/-- The adapter with another table; a blank name is no table. -/
def withTable (a : Adapter) (table : Text) : Adapter :=
  { a with table := if Text.allBlank table then none else some table }

/-- The adapter that the settings ask for. -/
def ofSettings (catalog : Catalog) (settings : AdapterSettings) : Adapter :=
  let a := (new catalog).withDialect settings.dialect
  match settings.table with
  | none => a
  | some table => a.withTable table

/-- The builder of an adapter. -/
def builder (a : Adapter) : Builder :=
  { catalog := a.catalog, profile := a.profile, table := a.table }

/-- Builds the predicate of an expression, spans counting from `now`. -/
def buildPredicate (a : Adapter) (now : Instant) (e : Expression) : Except Error Predicate :=
  a.builder.build now e

/-- Builds the order clause of a sort text. -/
def buildOrder (a : Adapter) (sort : Text) : Except Error OrderClause := a.builder.buildOrder sort

end Adapter
end SqlFilter
