import SqlFilter.Toml.Item
import SqlFilter.Toml.Literal
import SqlFilter.Toml.Quoted

/-!
# TOML documents

A document is a row of statements: headers, which open a table, and pairs of a dotted key and a
value, which go into the table opened last.

* `key?` and `value?` read keys and values;
* `Statement` is a header or a pair, and `statements?` reads a whole document into statements;
* `Draft` takes in one statement after another;
* `read?` reads a document into the entries of its root table.
-/

namespace SqlFilter.Toml

/-! ## The text -/

/-- The text with every carriage return taken out that a line feed follows. -/
def dropReturns : Text → Text
  | '\r' :: '\n' :: rest => '\n' :: dropReturns rest
  | c :: rest => c :: dropReturns rest
  | [] => []

/-- Whether a character may stand in a document at all. -/
def isAllowed (c : Char) : Bool := c = '\t' || c = '\n' || (0x20 ≤ c.toNat && c.toNat ≠ 0x7F)

/-- The text of a document without the byte order mark in front and with a line feed alone at each
line end, if all its characters are allowed. -/
def normalize? (t : Text) : Option Text :=
  let body :=
    match t with
    | '\uFEFF' :: rest => rest
    | _ => t
  let body := dropReturns body
  if body.all isAllowed then some body else none

/-- The text without the spaces, line ends and comments in front. -/
def skipLines (inComment : Bool) : Text → Text
  | [] => []
  | c :: rest =>
    if inComment then skipLines (c ≠ '\n') rest
    else if c = '#' then skipLines true rest
    else if isSpace c || c = '\n' then skipLines false rest
    else c :: rest

/-- Takes the rest of a line off the front, which holds nothing but spaces and a comment. -/
def lineEnd? (t : Text) : Option Text :=
  match t.dropWhile isSpace with
  | [] => some []
  | '\n' :: rest => some rest
  | '#' :: rest => some (rest.dropWhile (· ≠ '\n'))
  | _ => none

/-! ## Keys -/

/-- How deep values may be nested, and how many parts a key may have, is below this number. -/
def nestingLimit : Nat := 80

/-- Reads one part of a key: a string on one line, or letters, digits, hyphens and underscores. -/
def keyPart? (t : Text) : Option (Text × Text) :=
  match Text.run (fun c => c.isAlphanum || c = '-' || c = '_') t with
  | ([], _) => quotedLine? t
  | (name, rest) => some (name, rest)

/-- Reads the parts of a key, with points between them and spaces around each. -/
def keyParts? (t : Text) : Option (List Text × Text) :=
  match keyPart? (t.dropWhile isSpace) with
  | none => none
  | some (name, rest) =>
    match rest.dropWhile isSpace with
    | '.' :: more =>
      if more.length < t.length then
        (keyParts? more).map fun (names, rest) => (name :: names, rest)
      else none
    | rest => some ([name], rest)
termination_by t.length

/-- Reads a dotted key. -/
def key? (t : Text) : Option (List Text × Text) :=
  (keyParts? t).filter fun (names, _) => names.length < nestingLimit

/-! ## Values -/

/-- Reads the values of an array up to its closing bracket.  Spaces, line ends and comments may
stand anywhere between them, and a comma behind the last. -/
def arrayItems? (value? : Text → Option (Item × Text)) (t : Text) : Option (List Item × Text) :=
  match skipLines false t with
  | ']' :: rest => some ([], rest)
  | start =>
    match value? start with
    | none => none
    | some (item, rest) =>
      match skipLines false rest with
      | ']' :: rest => some ([item], rest)
      | ',' :: more =>
        if more.length < t.length then
          (arrayItems? value? more).map fun (items, rest) => (item :: items, rest)
        else none
      | _ => none
termination_by t.length

/-- Reads a key, the equals sign and a value. -/
def pair? (value? : Text → Option (Item × Text)) (t : Text) :
    Option ((List Text × Item) × Text) := do
  let (key, t) ← key? t
  let t ← Text.strip? ['='] t
  let (item, t) ← value? (t.dropWhile isSpace)
  return ((key, item), t.dropWhile isSpace)

/-- Reads the pairs of a table that is written as a value, up to its closing brace. -/
def tablePairs? (value? : Text → Option (Item × Text)) (t : Text) :
    Option (List (List Text × Item) × Text) :=
  match pair? value? t with
  | some (pair, '}' :: rest) => some ([pair], rest)
  | some (pair, ',' :: more) =>
    if more.length < t.length then
      (tablePairs? value? more).map fun (pairs, rest) => (pair :: pairs, rest)
    else none
  | _ => none
termination_by t.length

/-- The entries of pairs put in one after another. -/
def Entries.ofPairs? (pairs : List (List Text × Item)) : Option Entries :=
  pairs.foldlM (fun entries (key, item) => Entries.insertAt key item entries) []

/-- Reads a table that is written as a value, behind its opening brace. -/
def closedTable? (value? : Text → Option (Item × Text)) (t : Text) : Option (Item × Text) :=
  match t.dropWhile isSpace with
  | '}' :: rest => some (.table .closed [], rest)
  | start => do
    let (pairs, rest) ← tablePairs? value? start
    let entries ← Entries.ofPairs? pairs
    return (.table .closed entries, rest)

/-- Reads a value in which arrays and tables are nested at most `depth` deep. -/
def value? : Nat → Text → Option (Item × Text)
  | 0, '[' :: _ => none
  | depth + 1, '[' :: rest =>
    (arrayItems? (value? depth) rest).map fun (items, rest) => (.array items, rest)
  | 0, '\x7b' :: _ => none
  | depth + 1, '\x7b' :: rest => closedTable? (value? depth) rest
  | _, t =>
    match string? t with
    | some (s, rest) => some (.text s, rest)
    | none => (literal? t).map fun rest => (.literal, rest)

/-! ## Statements -/

/-- A statement of a document. -/
inductive Statement where
  /-- The header of a table. -/
  | table (path : List Text)
  /-- The header of one of several tables under one name. -/
  | element (path : List Text)
  /-- A pair of a key and a value. -/
  | pair (key : List Text) (item : Item)

/-- Reads a statement. -/
def statement? : Text → Option (Statement × Text)
  | '[' :: '[' :: rest => do
    let (path, rest) ← key? rest
    let rest ← Text.strip? "]]".toList rest
    return (.element path, rest)
  | '[' :: rest => do
    let (path, rest) ← key? rest
    let rest ← Text.strip? [']'] rest
    return (.table path, rest)
  | t => do
    let ((key, item), rest) ← pair? (value? (nestingLimit - 1)) t
    return (.pair key item, rest)

/-- Reads the statements of a document, each of which ends its line. -/
def statements? (t : Text) : Option (List Statement) :=
  match skipLines false t with
  | [] => some []
  | start =>
    match statement? start with
    | none => none
    | some (statement, rest) =>
      match lineEnd? rest with
      | none => none
      | some rest =>
        if rest.length < t.length then (statements? rest).map (statement :: ·) else none
termination_by t.length

/-! ## The tree -/

/-- A document under construction. -/
structure Draft where
  /-- The entries of the root table. -/
  root : Entries := []
  /-- The path of the table opened last. -/
  path : List Text := []

/-- Opens the table of a header by `opening`, which is given the last name of the path. -/
def Draft.openAt (d : Draft) (path : List Text) (opening : Text → Entries → Option Entries) :
    Option Draft := do
  let name ← path.getLast?
  let root ← Entries.within path.dropLast (opening name) d.root
  return { root, path }

/-- Takes in a statement. -/
def Draft.step (d : Draft) : Statement → Option Draft
  | .table path => d.openAt path Entries.openTable
  | .element path => d.openAt path Entries.openElement
  | .pair key item => do
    let root ← Entries.within d.path (Entries.insertAt key item) d.root
    return { d with root }

/-- Reads a document into the entries of its root table. -/
def read? (t : Text) : Option Entries := do
  let statements ← statements? (← normalize? t)
  return (← statements.foldlM Draft.step {}).root

end SqlFilter.Toml
