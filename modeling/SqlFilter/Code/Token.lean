import SqlFilter.Text.Basic

/-!
# Tokens of code

Code consists of words, lifetimes, literals, signs, and groups of tokens in brackets.

* `Code.Token` is a token, with all that a group holds;
* `Code.print` prints tokens.  A space stands between two of them, except behind a sign that is
  joined to the next one and at the inner sides of round and square brackets;
* `Code.signs` makes the tokens of a sign of several characters;
* `Code.size` is the number of tokens, with those inside of groups.
-/

namespace SqlFilter.Code

/-- A kind of brackets. -/
inductive Bracket where
  /-- Round brackets. -/
  | round
  /-- Square brackets. -/
  | square
  /-- Curly brackets. -/
  | curly
  deriving Repr, DecidableEq

/-- A token. -/
inductive Token where
  /-- A word: a name or a keyword. -/
  | word (name : Text)
  /-- A lifetime, by its name without the apostrophe. -/
  | lifetime (name : Text)
  /-- A number, a character or a string in writing. -/
  | literal (written : Text)
  /-- A character of punctuation, and whether it forms one sign with the next token. -/
  | sign (c : Char) (joined : Bool)
  /-- Tokens in brackets. -/
  | group (bracket : Bracket) (inner : List Token)
  deriving Repr

/-- A row of tokens. -/
abbrev Tokens := List Token

namespace Token

/-- Whether a token is a sign that is joined to the next token. -/
def isJoined : Token → Bool
  | sign _ joined => joined
  | _ => false

/-- A token that is not joined to the next one. -/
def apart : Token → Token
  | sign c _ => sign c false
  | t => t

/-- A token that is joined to the next one, if it is a sign. -/
def join : Token → Token
  | sign c _ => sign c true
  | t => t

end Token

/-! ## Signs of several characters -/

/-- The tokens as one sign: each is joined to the next one, and the last to none. -/
def joinAll : Tokens → Tokens
  | [] => []
  | [t] => [t.apart]
  | t :: rest => t.join :: joinAll rest

/-- The tokens of a sign. -/
def signs (s : String) : Tokens := joinAll (s.toList.map (.sign · false))

/-- What is left of the tokens behind a sign that they begin with. -/
def stripSign? : List Char → Tokens → Option Tokens
  | [], ts => some ts
  | [c], .sign d _ :: rest => if c = d then some rest else none
  | c :: more, .sign d joined :: rest => if c = d ∧ joined then stripSign? more rest else none
  | _, _ => none

/-- Whether the tokens begin with a sign. -/
def startsSign (s : String) (ts : Tokens) : Bool := (stripSign? s.toList ts).isSome

/-! ## Printing -/

/-- What is in brackets with the brackets around it. -/
def Bracket.around (b : Bracket) (inner : Text) : Text :=
  match b with
  | round => ['('] ++ inner ++ [')']
  | square => ['['] ++ inner ++ [']']
  | curly => ['\x7b', ' '] ++ inner ++ (if inner = [] then [] else [' ']) ++ ['\x7d']

mutual

/-- Prints a token. -/
def Token.print : Token → Text
  | .word name => name
  | .lifetime name => '\x27' :: name
  | .literal written => written
  | .sign c _ => [c]
  | .group b inner => b.around (print inner)

/-- Prints tokens. -/
def print : Tokens → Text
  | [] => []
  | t :: rest =>
    t.print ++ (if rest.isEmpty || t.isJoined then [] else [' ']) ++ print rest

end

/-! ## Sizes -/

mutual

/-- The number of tokens in a token. -/
def Token.size : Token → Nat
  | .group _ inner => size inner + 1
  | _ => 1

/-- The number of tokens, with those inside of groups. -/
def size : Tokens → Nat
  | [] => 0
  | t :: rest => t.size + size rest

end

end SqlFilter.Code
