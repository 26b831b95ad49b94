import SqlFilter.Text.Lowercase

/-!
# Logging switches

Three variables of the environment steer what is logged, each read in letters of any case.

* `LogSwitches.read` reads them; a value that is not understood counts as if it were not set.
-/

namespace SqlFilter

/-- What is logged and how. -/
structure LogSwitches where
  /-- Whether debugging is asked for. -/
  debug : Bool
  /-- The least severe level that is logged. -/
  level : Text
  /-- The format of log lines. -/
  format : Text
  deriving Repr, DecidableEq

namespace LogSwitches

/-- The values that switch debugging on. -/
def debugValues : List Text := ["true".toList, "1".toList, "yes".toList]

/-- The levels from the least to the most severe. -/
def levels : List Text :=
  ["trace".toList, "debug".toList, "info".toList, "warn".toList, "error".toList]

/-- The formats besides the usual one. -/
def formats : List Text := ["pretty".toList, "compact".toList]

/-- The value of a variable in small letters, if it is one of those that are understood. -/
def oneOf (known : List Text) (value : Option Text) : Option Text :=
  (value.map Text.lowercase).filter fun v => v ∈ known

/-- Reads the switches, where `valueOf` gives the values of variables.  Without a level, debugging
logs from the level `debug` on, and else warnings are logged. -/
def read (valueOf : Text → Option Text) : LogSwitches :=
  let debug := (oneOf debugValues (valueOf "FIQL_DEBUG".toList)).isSome
  let usual := if debug then "debug".toList else "warn".toList
  { debug
    level := (oneOf levels (valueOf "FIQL_LOG_LEVEL".toList)).getD usual
    format := (oneOf formats (valueOf "FIQL_LOG_FORMAT".toList)).getD "json".toList }

end LogSwitches
end SqlFilter
