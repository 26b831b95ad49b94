import SqlFilter.Numeral.Hexadecimal
import SqlFilter.Text.Quoted

/-!
# Strings in TOML

A string stands between quotation marks, with escapes, or between apostrophes, as it is; either mark
may be tripled, and then the string can go over several lines.

* `quotedLine?` reads the two forms on one line, which keys may have too;
* `string?` reads all four forms.

Texts have come through `Toml.normalize?`, so that a line ends with a line feed and there is no
control character besides line feed and tab.
-/

namespace SqlFilter.Toml

/-- Whether a character is a space or a tab. -/
def isSpace (c : Char) : Bool := c = ' ' || c = '\t'

/-- Reads the character with the number that stands in `width` hexadecimal digits. -/
def numbered? (width : Nat) (t : Text) : Option (Char × Text) := do
  let (code, t) ← Numeral.hexNumber? width t
  let c ← Numeral.character? code
  return (c, t)

/-- Reads what stands behind a backslash. -/
def escape? : Text → Option (Char × Text)
  | 'u' :: rest => numbered? 4 rest
  | 'U' :: rest => numbered? 8 rest
  | c :: rest => (Text.escapedLetter? c).map fun c => (c, rest)
  | [] => none

/-- Reads a string on one line. -/
def quotedLine? : Text → Option (Text × Text)
  | '"' :: rest => Text.quotedBody? (· ≠ '\n') escape? rest
  | '\x27' :: rest => (Text.cutFirst '\x27' rest).filter fun (s, _) => '\n' ∉ s
  | _ => none

/-! ## Several lines -/

/-- Takes three closing marks off the front.  Up to two more marks right before them belong to the
string. -/
def closing? (mark : Char) (t : Text) : Option (Text × Text) :=
  match Text.strip? [mark, mark, mark] t with
  | none => none
  | some rest =>
    let spare := (rest.take 2).takeWhile (· = mark)
    some (spare, rest.drop spare.length)

/-- Reads what stands behind a backslash where a string goes over several lines: an escape, or the
end of the line, which is left out together with all blank space after it. -/
def escapeOrBreak? (t : Text) : Option (Text × Text) :=
  match t.dropWhile isSpace with
  | '\n' :: rest => some ([], rest.dropWhile fun c => isSpace c || c = '\n')
  | _ => (escape? t).map fun (c, rest) => ([c], rest)

/-- Reads the characters of a string up to its three closing quotation marks. -/
def escapedBlock? (t : Text) : Option (Text × Text) :=
  match closing? '"' t with
  | some closed => some closed
  | none =>
    match t with
    | [] => none
    | '\\' :: rest =>
      match escapeOrBreak? rest with
      | none => none
      | some (piece, after) =>
        if after.length < rest.length then
          (escapedBlock? after).map fun (s, t) => (piece ++ s, t)
        else none
    | c :: rest => (escapedBlock? rest).map fun (s, t) => (c :: s, t)
termination_by t.length
decreasing_by all_goals simp only [List.length_cons]; omega

/-- Reads the characters of a string up to its three closing apostrophes. -/
def plainBlock? : Text → Option (Text × Text)
  | [] => none
  | c :: rest =>
    match closing? '\x27' (c :: rest) with
    | some closed => some closed
    | none => (plainBlock? rest).map fun (s, t) => (c :: s, t)

/-- A text without the line end that it begins with. -/
def dropBreak : Text → Text
  | '\n' :: rest => rest
  | t => t

/-- Reads a string.  A line end right behind three opening marks is left out. -/
def string? : Text → Option (Text × Text)
  | '"' :: '"' :: '"' :: rest => escapedBlock? (dropBreak rest)
  | '\x27' :: '\x27' :: '\x27' :: rest => plainBlock? (dropBreak rest)
  | t => quotedLine? t

end SqlFilter.Toml
