import SqlFilter.Text.Keyed

/-!
# Tables under construction

A TOML document builds a tree of named items, and the order of its lines decides which tables may
still be added to.

* `Item` is a node of the tree; values of no interest here are kept as `Item.literal`;
* `TableState` says how a table came to be;
* `Entries.insertAt` puts a value under a dotted key, `Entries.openTable` and
  `Entries.openElement` begin the table of a header, and `Entries.within` goes down the path of a
  header.

No name is given twice, a table has at most one header, and a dotted key adds to no table that a
header or a value has given.
-/

namespace SqlFilter.Toml

/-- How a table came to be. -/
inductive TableState where
  /-- It was written as a value. -/
  | closed
  /-- It has a header of its own. -/
  | defined
  /-- A header names a table inside it. -/
  | implied
  /-- A dotted key goes through it. -/
  | dotted
  deriving Repr, DecidableEq

/-- A node of the tree that a document builds. -/
inductive Item where
  /-- A string. -/
  | text (s : Text)
  /-- A number, a truth value, a date or a time. -/
  | literal
  /-- Values between brackets. -/
  | array (items : List Item)
  /-- A table. -/
  | table (state : TableState) (entries : List (Text × Item))
  /-- A table for each of several equal headers, the last one kept apart. -/
  | tables (earlier : List (List (Text × Item))) (last : List (Text × Item))

/-- The named items of a table. -/
abbrev Entries := List (Text × Item)

namespace Entries
open Keyed (put)

/-- The entries with a value put under a dotted key.  The last part of the key must be new, the
table that it goes into must be one of dotted keys, unless it is the one that the key is written in,
and on the way there no table is entered that has a header or is a value. -/
def insertAt : List Text → Item → Entries → Option Entries
  | [], _, _ => none
  | [name], value, entries =>
    if (entries.lookup name).isSome then none else some (put name value entries)
  | name :: next :: path, value, entries =>
    match entries.lookup name with
    | none =>
      (insertAt (next :: path) value []).map fun inner => put name (.table .dotted inner) entries
    | some (.table state inner) =>
      if state = .dotted ∨ (state = .implied ∧ path ≠ []) then
        (insertAt (next :: path) value inner).map fun inner =>
          put name (.table state inner) entries
      else none
    | some (.tables earlier last) =>
      if path = [] then none
      else
        (insertAt (next :: path) value last).map fun last => put name (.tables earlier last) entries
    | some _ => none

/-- The entries with a table opened that has its own header.  A table may be there already when
only headers of tables inside it have named it. -/
def openTable (name : Text) (entries : Entries) : Option Entries :=
  match entries.lookup name with
  | none => some (put name (.table .defined []) entries)
  | some (.table .implied inner) => some (put name (.table .defined inner) entries)
  | some _ => none

/-- The entries with one more table opened under a name that can have several. -/
def openElement (name : Text) (entries : Entries) : Option Entries :=
  match entries.lookup name with
  | none => some (put name (.tables [] []) entries)
  | some (.tables earlier last) => some (put name (.tables (earlier ++ [last]) []) entries)
  | some _ => none

/-- The entries with a change made to the table at the end of a header's path.  Tables that are not
there are implied, and of several tables under one name the last is entered. -/
def within : List Text → (Entries → Option Entries) → Entries → Option Entries
  | [], change, entries => change entries
  | name :: path, change, entries =>
    match entries.lookup name with
    | none => (within path change []).map fun inner => put name (.table .implied inner) entries
    | some (.table state inner) =>
      if state = .closed then none
      else (within path change inner).map fun inner => put name (.table state inner) entries
    | some (.tables earlier last) =>
      (within path change last).map fun last => put name (.tables earlier last) entries
    | some _ => none

end Entries

/-- Items named by their places, which must not end before the names do. -/
def Entries.ofPlaces? (names : List Text) (items : List Item) : Option Entries :=
  if names.length ≤ items.length then some (names.zip items) else none

/-- The items of a record with the given names: those of a table that has no other names, or those
of an array by their places. -/
def Item.fields? (names : List Text) : Item → Option Entries
  | .table _ entries => if entries.all fun (name, _) => name ∈ names then some entries else none
  | .array items => Entries.ofPlaces? names items
  | .tables earlier last => Entries.ofPlaces? names ((earlier ++ [last]).map (.table .defined))
  | _ => none

/-- The string that an item is. -/
def Item.text? : Item → Option Text
  | .text s => some s
  | _ => none

end SqlFilter.Toml
