import SqlFilter.Code.Keyword
import SqlFilter.Code.Token

/-!
# Steps through tokens

Code is put into its printed form from left to right.  A `Code.Step` takes some tokens off the
front, and gives their printed form and what is left.

* `startsName`, `startsFreeName`, `startsGroup` and their kind say what tokens begin with;
* `Step.apart`, `Step.word` and `Step.sign` take tokens, a word and a sign;
* `Step.seq`, `Step.when` and `Step.repeated` put steps together, `Step.group` and `Step.listed` go
  through what a group holds;
* `Step.asWritten` takes what a step takes, without any change;
* `Attempt` is a step that may find that its tokens stay as they are written.
-/

namespace SqlFilter.Code

/-- What is made of the front of some tokens, and the tokens that are left. -/
abbrev Step := Tokens → Tokens × Tokens

/-! ## What tokens begin with -/

/-- Whether tokens begin with a given word. -/
def startsName (name : String) : Tokens → Bool
  | .word w :: _ => w = name.toList
  | _ => false

/-- Whether tokens begin with one of the given words. -/
def startsNameOf (names : List String) (ts : Tokens) : Bool := names.any (startsName · ts)

/-- Whether tokens begin with a word that is no keyword. -/
def startsFreeName : Tokens → Bool
  | .word w :: _ => w ∉ reservedWords
  | _ => false

/-- Whether tokens begin with a word. -/
def startsWordToken : Tokens → Bool
  | .word _ :: _ => true
  | _ => false

/-- Whether tokens begin with a lifetime. -/
def startsLifetime : Tokens → Bool
  | .lifetime _ :: _ => true
  | _ => false

/-- Whether tokens begin with a literal. -/
def startsLiteral : Tokens → Bool
  | .literal _ :: _ => true
  | _ => false

/-- Whether tokens begin with a group in given brackets. -/
def startsGroup (bracket : Bracket) : Tokens → Bool
  | .group b _ :: _ => b = bracket
  | _ => false

/-- Whether tokens begin with a colon that is not doubled. -/
def startsColon (ts : Tokens) : Bool := startsSign ":" ts && !startsSign "::" ts

/-- Whether tokens begin with a point that is not doubled. -/
def startsPoint (ts : Tokens) : Bool := startsSign "." ts && !startsSign ".." ts

/-- Whether tokens begin with an exclamation mark that no equals sign is joined to. -/
def startsCallMark (ts : Tokens) : Bool := startsSign "!" ts && !startsSign "!=" ts

/-- Whether tokens begin with a double colon and the next segment of a path. -/
def startsSegment (ts : Tokens) : Bool :=
  match stripSign? "::".toList ts with
  | some rest => startsWordToken rest
  | none => false

/-- Whether tokens begin with a path that has neither arguments nor a type in front. -/
def startsPlainPath (ts : Tokens) : Bool :=
  startsFreeName ts || startsNameOf ["self", "Self", "super", "crate"] ts || startsSign "::" ts

/-! ## Steps -/

namespace Step

/-- Takes nothing. -/
def skip : Step := fun ts => ([], ts)

/-- Takes a number of tokens, each on its own. -/
def apart (count : Nat) : Step := fun ts => ((ts.take count).map Token.apart, ts.drop count)

/-- Takes one step after another. -/
def seq : List Step → Step
  | [] => skip
  | first :: more => fun ts =>
    let (before, ts) := first ts
    let (after, ts) := seq more ts
    (before ++ after, ts)

/-- Takes a step if the tokens meet a condition. -/
def when (condition : Tokens → Bool) (step : Step) : Step :=
  fun ts => if condition ts then step ts else ([], ts)

/-- Takes one of two steps, the first one if the tokens meet a condition. -/
def either (condition : Tokens → Bool) (step other : Step) : Step :=
  fun ts => if condition ts then step ts else other ts

/-- Takes a word, if it comes next. -/
def word (name : String) : Step := when (startsName name) (apart 1)

/-- Takes a sign of one or more characters, if it comes next. -/
def sign (s : String) : Step :=
  when (startsSign s) fun ts => (signs s, ts.drop s.length)

/-- Takes a step and keeps what it leaves. -/
def whole (step : Step) (ts : Tokens) : Tokens :=
  let (done, rest) := step ts
  done ++ rest

/-- Takes a step at most so many times, as long as the tokens meet a condition. -/
def repeatedTimes (condition : Tokens → Bool) (step : Step) : Nat → Step
  | 0 => skip
  | n + 1 => when condition (seq [step, repeatedTimes condition step n])

/-- Takes a step as long as the tokens meet a condition; each time it has to take a token. -/
def repeated (condition : Tokens → Bool) (step : Step) : Step :=
  fun ts => repeatedTimes condition step ts.length ts

/-- Takes a group in given brackets, if it comes next, and changes what it holds. -/
def group (bracket : Bracket) (change : Tokens → Tokens) : Step := fun ts =>
  match ts with
  | .group b inner :: rest => if b = bracket then ([.group b (change inner)], rest) else ([], ts)
  | _ => ([], ts)

/-- Goes through all tokens as a list of items with commas between them. -/
def listed (item : Step) : Tokens → Tokens :=
  whole (repeated (!·.isEmpty) (seq [item, sign ","]))

/-- Takes what a step takes, without any change. -/
def asWritten (step : Step) : Step := fun ts =>
  let rest := (step ts).2
  (ts.take (ts.length - rest.length), rest)

/-- Takes a path that has neither arguments nor a type in front. -/
def plainPath : Step :=
  seq [sign "::", when startsWordToken (apart 1), repeated startsSegment (seq [sign "::", apart 1])]

/-- Takes an exclamation mark and a group, inside which nothing is changed. -/
def macroCall : Step := when startsCallMark (apart 2)

end Step

/-! ## Attempts -/

/-- A step that may find that its tokens stay as they are written: then it makes nothing. -/
abbrev Attempt := Tokens → Option Tokens × Tokens

namespace Attempt

/-- Makes what a step makes. -/
def ofStep (step : Step) : Attempt := fun ts =>
  let (made, rest) := step ts
  (some made, rest)

/-- Leaves what a step takes as it is written. -/
def keep (step : Step) : Attempt := fun ts => (none, (step ts).2)

/-- Leaves what is taken as it is written under a condition. -/
def keepIf (condition : Bool) (made : Tokens) : Option Tokens :=
  if condition then none else some made

/-- Takes an attempt, behind what is made of the tokens before.  If the attempt makes nothing, all
tokens from the given ones on stay as they are written. -/
def settle (ts before : Tokens) (attempt : Attempt) : Step := fun after =>
  match attempt after with
  | (some made, rest) => (before ++ made, rest)
  | (none, rest) => (ts.take (ts.length - rest.length), rest)

/-- Takes a step and then an attempt.  If that makes nothing, all tokens stay as they are
written. -/
def behind (first : Step) (attempt : Attempt) : Step := fun ts =>
  let (before, after) := first ts
  settle ts before attempt after

end Attempt
end SqlFilter.Code
