import SqlFilter.Code.Token
import SqlFilter.Text.Blank
import SqlFilter.Text.HiddenData

/-!
# Reading code

Code is read character by character into words, literals, signs and brackets; blanks and comments
only part them, but a comment that documents something is a mark in square brackets.  Then the
brackets are paired.

* `Code.literal?` reads a number, a character or a string;
* `Code.lexemes` reads what code consists of, brackets one by one;
* `Code.read` reads code as tokens;
* `Code.compact` is code without blanks and comments.

Code whose brackets do not match is read as if the missing ones stood at its ends.
-/

namespace SqlFilter.Code

/-! ## Blanks and comments -/

/-- Whether a character parts tokens: a blank, or one of the two marks of writing direction. -/
def isSpace (c : Char) : Bool := Text.isBlank c || c.toNat = 0x200E || c.toNat = 0x200F

/-- Whether a word may begin with a character. -/
def startsWord (c : Char) : Bool := c.isAlpha || c = '_' || (0x80 ≤ c.toNat && !isSpace c)

/-- Whether a word may go on with a character. -/
def isWordChar (c : Char) : Bool := startsWord c || c.isDigit

/-- Cuts at the end of a comment in brackets, inside which a number of others are open: what the
comment says, and what follows it. -/
def cutComment (depth : Nat) : Text → Text × Text
  | '*' :: '/' :: rest =>
    if depth = 0 then ([], rest)
    else
      let (said, after) := cutComment (depth - 1) rest
      ('*' :: '/' :: said, after)
  | '/' :: '*' :: rest =>
    let (said, after) := cutComment (depth + 1) rest
    ('/' :: '*' :: said, after)
  | c :: rest =>
    let (said, after) := cutComment depth rest
    (c :: said, after)
  | [] => ([], [])

/-- Cuts at the end of a line: what the line says, and what follows it. -/
def cutLine : Text → Text × Text
  | [] => ([], [])
  | '\n' :: rest => ([], '\n' :: rest)
  | '\r' :: '\n' :: rest => ([], '\r' :: '\n' :: rest)
  | c :: rest =>
    let (said, after) := cutLine rest
    (c :: said, after)

/-- Whether a comment begins here. -/
def startsComment : Text → Bool
  | '/' :: '/' :: _ => true
  | '/' :: '*' :: _ => true
  | _ => false

/-! ## Literals -/

/-- Cuts behind the first quote that is not escaped. -/
def cutQuoted (quote : Char) : Text → Text × Text
  | [] => ([], [])
  | '\\' :: c :: rest =>
    let (body, after) := cutQuoted quote rest
    ('\\' :: c :: body, after)
  | c :: rest =>
    if c = quote then ([c], rest)
    else
      let (body, after) := cutQuoted quote rest
      (c :: body, after)

/-- Cuts behind the first quote that is followed by the given marks. -/
def cutRaw (marks : Text) : Text → Text × Text
  | [] => ([], [])
  | c :: rest =>
    if c = '"' ∧ (Text.strip? marks rest).isSome then (c :: marks, rest.drop marks.length)
    else
      let (body, after) := cutRaw marks rest
      (c :: body, after)

/-- Reads a string between quotes. -/
def string? : Text → Option (Text × Text)
  | '"' :: rest =>
    let (body, after) := cutQuoted '"' rest
    some ('"' :: body, after)
  | _ => none

/-- Reads a string between quotes with marks outside them; nothing is escaped in it. -/
def raw? (t : Text) : Option (Text × Text) :=
  let (marks, rest) := Text.run (· = '#') t
  match rest with
  | '"' :: rest =>
    let (body, after) := cutRaw marks rest
    some (marks ++ '"' :: body, after)
  | _ => none

/-- Reads a character between apostrophes. -/
def character? : Text → Option (Text × Text)
  | '\x27' :: '\\' :: rest =>
    let (body, after) := cutQuoted '\x27' ('\\' :: rest)
    some ('\x27' :: body, after)
  | '\x27' :: c :: '\x27' :: rest => some (['\x27', c, '\x27'], rest)
  | _ => none

/-- Whether a character belongs to the digits of a decimal number. -/
def isDigitOrGap (c : Char) : Bool := c.isDigit || c = '_'

/-- Reads the part of a number behind its whole digits: a point, unless a range or a name follows
it, and more digits. -/
def pointed (t : Text) : Text × Text :=
  match t with
  | '.' :: rest =>
    match rest with
    | c :: _ =>
      if c = '.' ∨ startsWord c then ([], t)
      else
        let (part, rest) := Text.run isDigitOrGap rest
        ('.' :: part, rest)
    | [] => (['.'], [])
  | _ => ([], t)

/-- Reads an exponent with a sign.  One without a sign is read like a unit. -/
def signedExponent (t : Text) : Text × Text :=
  match t with
  | e :: rest =>
    let (gap, rest) := Text.run (· = '_') rest
    match rest with
    | s :: rest =>
      let (power, after) := Text.run isDigitOrGap rest
      if (e = 'e' ∨ e = 'E') ∧ (s = '+' ∨ s = '-') ∧ power.any Char.isDigit then
        (e :: gap ++ s :: power, after)
      else ([], t)
    | [] => ([], t)
  | [] => ([], t)

/-- Reads a decimal number without the unit behind it. -/
def decimalNumber (t : Text) : Text × Text :=
  let (whole, rest) := Text.run isDigitOrGap t
  let (part, rest) := pointed rest
  let (power, rest) := signedExponent rest
  (whole ++ part ++ power, rest)

/-- Reads a number without the unit behind it.  The digits of a number in another base than ten are
read like a unit. -/
def number? (t : Text) : Option (Text × Text) :=
  match t with
  | '0' :: 'x' :: rest => some (['0', 'x'], rest)
  | '0' :: 'o' :: rest => some (['0', 'o'], rest)
  | '0' :: 'b' :: rest => some (['0', 'b'], rest)
  | c :: _ => if c.isDigit then some (decimalNumber t) else none
  | [] => none

/-- Reads a literal that begins with a letter. -/
def lettered? (t : Text) : Option (Text × Text) :=
  let (letters, rest) := Text.run isWordChar t
  let body :=
    if letters = "r".toList ∨ letters = "br".toList ∨ letters = "cr".toList then raw? rest
    else if letters = "b".toList then string? rest <|> character? rest
    else if letters = "c".toList then string? rest
    else none
  body.map fun (body, after) => (letters ++ body, after)

/-- Reads a literal, with the word that stands right behind it. -/
def literal? (t : Text) : Option (Text × Text) := do
  let (body, rest) ← string? t <|> lettered? t <|> character? t <|> number? t
  let (unit, rest) := Text.run isWordChar rest
  return (body ++ unit, rest)

/-! ## Words and signs -/

/-- Reads a word, possibly marked as raw by `r#` in front. -/
def word? (t : Text) : Option (Text × Text) :=
  match t with
  | 'r' :: '#' :: c :: rest =>
    if startsWord c then
      let (name, rest) := Text.run isWordChar (c :: rest)
      some ('r' :: '#' :: name, rest)
    else some (['r'], '#' :: c :: rest)
  | c :: _ => if startsWord c then some (Text.run isWordChar t) else none
  | [] => none

/-- The characters of punctuation. -/
def signChars : Text := "~!@#$%^&*-=+|;:,<.>/?".toList ++ ['\x27']

/-- Whether the sign before a text is joined to what the text begins with. -/
def joinsTo (t : Text) : Bool :=
  match t with
  | [] => false
  | c :: _ => signChars.contains c && !startsComment t

/-! ## Lexemes -/

/-- What code consists of. -/
inductive Lexeme where
  /-- A token without brackets. -/
  | leaf (t : Token)
  /-- An opening bracket. -/
  | opening (b : Bracket)
  /-- A closing bracket. -/
  | closing

/-- Whether a character cannot be seen. -/
def isHidden (c : Char) : Bool :=
  c.toNat < 0x20 || c.toNat = 0x7F || Text.inRanges Text.hiddenRanges c.toNat

/-- A character of a string as it is written, in front of a given text.  One that cannot be seen is
written by its number. -/
def escaped (c : Char) (next : Text) : Text :=
  match c with
  | '"' => ['\\', '"']
  | '\\' => ['\\', '\\']
  | '\n' => ['\\', 'n']
  | '\r' => ['\\', 'r']
  | '\t' => ['\\', 't']
  | _ =>
    let n := c.toNat
    if n = 0 then
      if next.head?.any fun d => '0' ≤ d && d ≤ '7' then "\\x00".toList else "\\0".toList
    else if isHidden c then
      "\\u".toList ++ '\x7b' :: Nat.toDigits 16 n ++ ['\x7d']
    else [c]

/-- The characters of a string as they are written. -/
def escapedAll : Text → Text
  | [] => []
  | c :: rest => escaped c rest ++ escapedAll rest

/-- A comment that documents what follows it, or what surrounds it, is a mark. -/
def documentation (surrounding : Bool) (said : Text) : List Lexeme :=
  [.leaf (.sign '#' false)] ++ (if surrounding then [.leaf (.sign '!' false)] else []) ++
    [.opening .square, .leaf (.word "doc".toList), .leaf (.sign '=' false),
     .leaf (.literal ('"' :: escapedAll said ++ ['"'])), .closing]

/-- Reads a comment, behind the two characters that it begins with: what it documents, if anything,
and what follows it. -/
def comment (inLine : Bool) (t : Text) : List Lexeme × Text :=
  let cut := if inLine then cutLine else cutComment 0
  let own := if inLine then '/' else '*'
  match t with
  | [] => ([], [])
  | first :: rest =>
    if first = '!' then
      let (said, after) := cut rest
      (documentation true said, after)
    else
      let documents :=
        first = own && rest.head? ≠ some own && (inLine || rest.head? ≠ some '/')
      if documents then
        let (said, after) := cut rest
        (documentation false said, after)
      else ([], (cut t).2)

/-- Reads what a text begins with: lexemes, or something that parts them. -/
def lexeme (t : Text) : List Lexeme × Text :=
  match t with
  | [] => ([], [])
  | '/' :: '/' :: rest => comment true rest
  | '/' :: '*' :: rest => comment false rest
  | '(' :: rest => ([.opening .round], rest)
  | '[' :: rest => ([.opening .square], rest)
  | '\x7b' :: rest => ([.opening .curly], rest)
  | ')' :: rest => ([.closing], rest)
  | ']' :: rest => ([.closing], rest)
  | '\x7d' :: rest => ([.closing], rest)
  | c :: rest =>
    if isSpace c then ([], rest)
    else
      match literal? t with
      | some (written, rest) => ([.leaf (.literal written)], rest)
      | none =>
        match word? t with
        | some (name, rest) => ([.leaf (.word name)], rest)
        | none =>
          match c, word? rest with
          | '\x27', some (name, rest) => ([.leaf (.lifetime name)], rest)
          | _, _ => ([.leaf (.sign c (joinsTo rest))], rest)

/-- The lexemes of code. -/
def lexemes (t : Text) : List Lexeme :=
  match lexeme t with
  | (found, rest) => if rest.length < t.length then found ++ lexemes rest else found
termination_by t.length

/-! ## Groups -/

/-- What has been read: the tokens inside the innermost open bracket, and the open brackets, each
with the tokens in front of it. -/
structure Nesting where
  /-- The tokens behind the innermost open bracket. -/
  inner : Tokens := []
  /-- The open brackets from the inside, and what stands before each. -/
  outer : List (Bracket × Tokens) := []

namespace Nesting

/-- Closes the innermost open bracket. -/
def close (n : Nesting) : Nesting :=
  match n.outer with
  | [] => n
  | (b, before) :: outer => ⟨before ++ [.group b n.inner], outer⟩

/-- Takes in a lexeme. -/
def add (n : Nesting) : Lexeme → Nesting
  | .leaf t => { n with inner := n.inner ++ [t] }
  | .opening b => ⟨[], (b, n.inner) :: n.outer⟩
  | .closing => n.close

/-- The tokens, with all open brackets closed. -/
def tokens (n : Nesting) : Tokens :=
  n.outer.foldl (fun inner (b, before) => before ++ [.group b inner]) n.inner

end Nesting

/-- Code without the mark of byte order that it may begin with. -/
def withoutOrderMark : Text → Text
  | '\uFEFF' :: code => code
  | code => code

/-- The tokens of code. -/
def read (code : Text) : Tokens :=
  ((lexemes (withoutOrderMark code)).foldl Nesting.add {}).tokens

/-- Code without blanks and comments. -/
def compact (code : Text) : Text := ((read code).map Token.print).flatten

end SqlFilter.Code
