import SqlFilter.Text.Basic

/-!
# Quoted texts

A quoted text stands between quotation marks, and a backslash in it begins an escape.  Which
characters may stand for themselves and which escapes there are differs between formats.

* `Text.escapedLetter?` is the character of a one-letter escape that all formats share;
* `Text.quotedBody?` reads what stands behind the opening mark.
-/

namespace SqlFilter.Text

/-- The character that a backslash and a single character stand for. -/
def escapedLetter? : Char → Option Char
  | '"' => some '"'
  | '\\' => some '\\'
  | 'b' => some '\x08'
  | 't' => some '\t'
  | 'n' => some '\n'
  | 'f' => some '\x0c'
  | 'r' => some '\r'
  | _ => none

/-- Reads the characters of a quoted text up to its closing mark, together with the text behind the
mark.  `allowed` says which characters may stand for themselves, and `escape?` reads what follows a
backslash; it has to take something off the text. -/
def quotedBody? (allowed : Char → Bool) (escape? : Text → Option (Char × Text)) (t : Text) :
    Option (Text × Text) :=
  match t with
  | [] => none
  | '"' :: rest => some ([], rest)
  | '\\' :: rest =>
    match escape? rest with
    | none => none
    | some (c, after) =>
      if after.length < rest.length then
        (quotedBody? allowed escape? after).map fun (s, t) => (c :: s, t)
      else none
  | c :: rest =>
    if allowed c then (quotedBody? allowed escape? rest).map fun (s, t) => (c :: s, t)
    else none
termination_by t.length
decreasing_by all_goals simp only [List.length_cons]; omega

end SqlFilter.Text
