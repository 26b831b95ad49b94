import SqlFilter.Dialect.Profile
import SqlFilter.Error

/-!
# Named dialects

`Dialect` lists the engines that have a profile of their own.  `Dialect.ofName?` reads a dialect
from one of its accepted names, letters of either case, `Dialect.named` with an error for an
unknown name, and `Dialect.withProfile?` finds the dialect that a profile belongs to.
-/

namespace SqlFilter

/-- An engine with a profile of its own. -/
inductive Dialect where
  | postgres
  | mssql
  | mariaDb
  | sqlite
  | sql92
  | sql92NoDelimiter
  deriving Repr, DecidableEq

namespace Dialect

/-- All dialects. -/
def all : List Dialect := [postgres, mssql, mariaDb, sqlite, sql92, sql92NoDelimiter]

/-- The dialect that is used when none is chosen. -/
def standard : Dialect := sql92

/-- The name of a dialect. -/
def name : Dialect → Text
  | postgres => "postgres".toList
  | mssql => "mssql".toList
  | mariaDb => "mariadb".toList
  | sqlite => "sqlite".toList
  | sql92 => "sql92".toList
  | sql92NoDelimiter => "sql92-no-delimiter".toList

/-- The profile of a dialect. -/
def profile : Dialect → Profile
  | postgres => ⟨.doubleQuote, .dollar, .function⟩
  | mssql => ⟨.bracket, .atSign, .function⟩
  | mariaDb => ⟨.backtick, .questionMark, .function⟩
  | sqlite => ⟨.doubleQuote, .questionMark, .operator⟩
  | sql92 => ⟨.doubleQuote, .questionMark, .function⟩
  | sql92NoDelimiter => ⟨.bare, .questionMark, .function⟩

/-- Every name that a dialect goes by. -/
def names : List (Text × Dialect) :=
  [("postgres".toList, postgres), ("postgresql".toList, postgres), ("pg".toList, postgres),
   ("mssql".toList, mssql), ("sqlserver".toList, mssql),
   ("mariadb".toList, mariaDb), ("maria".toList, mariaDb), ("mysql".toList, mariaDb),
   ("sqlite".toList, sqlite), ("sqlite3".toList, sqlite),
   ("sql92".toList, sql92), ("standard".toList, sql92),
   ("sql92-no-delimiter".toList, sql92NoDelimiter),
   ("sql92_no_delimiter".toList, sql92NoDelimiter)]

/-- The dialect of a name in letters of either case. -/
def ofName? (t : Text) : Option Dialect := names.lookup (Text.asciiLower t)

/-- The dialect of a name. -/
def named (t : Text) : Except Error Dialect :=
  match ofName? t with
  | some d => .ok d
  | none =>
    .error (.configuration ("unknown dialect ".toList ++ Error.quoted t ++
      ", expected one of: ".toList ++ Text.joinWith ", ".toList (all.map name)))

/-- The dialect with a given profile. -/
def withProfile? (p : Profile) : Option Dialect := all.find? fun d => d.profile = p

/-! ## Small laws -/

/-- No two dialects have one profile, so each is found by its own. -/
theorem withProfile?_profile (d : Dialect) : withProfile? d.profile = some d := by
  cases d <;> rfl

theorem withProfile?_eq_some_iff {p : Profile} {d : Dialect} :
    withProfile? p = some d ↔ d.profile = p := by
  constructor
  · intro h
    simpa using List.find?_some h
  · rintro rfl
    exact withProfile?_profile d

theorem withProfile?_eq_none_iff {p : Profile} :
    withProfile? p = none ↔ ∀ d : Dialect, d.profile ≠ p := by
  simp [Option.eq_none_iff_forall_ne_some, withProfile?_eq_some_iff]

end Dialect

/-- The profile that is used when none is chosen. -/
def Profile.standard : Profile := Dialect.standard.profile

end SqlFilter
