import SqlFilter.Text.Blank
import SqlFilter.Text.CaseData

/-!
# Lower case

`Text.lowercase` gives the lower-case form of a text by the full mapping of Unicode.  Three rules
apply:

* most characters map to one character, listed in `lowercaseRuns`;
* capital I with a dot above becomes two characters, a small i and a combining dot;
* capital sigma becomes the final small sigma at the end of a word, and the medial one elsewhere:
  it ends a word when the nearest character before it that is not case-ignorable is cased, and the
  nearest such character after it is not.
-/

namespace SqlFilter.Text

/-- The code point that a run maps `n` to, when `n` belongs to the run. -/
def CaseRun.image? (r : CaseRun) (n : Nat) : Option Nat :=
  if r.first ≤ n && n ≤ r.last && (n - r.first) % r.stride == 0 then some (n + r.offset).toNat
  else none

/-- The lower-case form of one character that stands alone. -/
def lowercaseChar (c : Char) : Text :=
  if c = 'İ' then ['i', Char.ofNat 0x307]
  else if c = 'Σ' then ['σ']
  else
    match lowercaseRuns.findSome? (·.image? c.toNat) with
    | some n => [Char.ofNat n]
    | none => [c]

/-- Whether a character has the property Cased. -/
def isCased (c : Char) : Bool := inRanges casedRanges c.toNat

/-- Whether a character has the property Case_Ignorable. -/
def isCaseIgnorable (c : Char) : Bool := inRanges caseIgnorableRanges c.toNat

/-- Whether the first character that is not case-ignorable exists and is cased. -/
def startsCased (t : Text) : Bool :=
  match t.dropWhile isCaseIgnorable with
  | [] => false
  | c :: _ => isCased c

/-- The lower-case form of `t`, where `before` holds the characters that precede it, last first. -/
def lowercaseAfter (before : Text) : Text → Text
  | [] => []
  | c :: rest =>
    (if c = 'Σ' && startsCased before && !startsCased rest then ['ς'] else lowercaseChar c)
      ++ lowercaseAfter (c :: before) rest

/-- The lower-case form of a text. -/
def lowercase (t : Text) : Text := lowercaseAfter [] t

end SqlFilter.Text
