import SqlFilter.Text.Basic

/-!
# Keywords

The words of code that name nothing of their own.

* `Code.reservedWords` lists the words that are no names;
* `Code.pathWords` lists those of them that a path may consist of all the same.
-/

namespace SqlFilter.Code

/-- The words that are no names. -/
def reservedWords : List Text :=
  ["_", "abstract", "as", "async", "await", "become", "box", "break", "const", "continue", "crate",
   "do", "dyn", "else", "enum", "extern", "false", "final", "fn", "for", "if", "impl", "in", "let",
   "loop", "macro", "match", "mod", "move", "mut", "override", "priv", "pub", "ref", "return",
   "Self", "self", "static", "struct", "super", "trait", "true", "try", "type", "typeof", "unsafe",
   "unsized", "use", "virtual", "where", "while", "yield"].map String.toList

/-- The words without arguments that a path may consist of, though they are no names. -/
def pathWords : List Text := ["super", "self", "crate", "try"].map String.toList

/-- A word of a path that is no name is reserved. -/
theorem pathWords_subset_reservedWords {word : Text} (h : word ∈ pathWords) :
    word ∈ reservedWords := by
  revert word
  decide

end SqlFilter.Code
