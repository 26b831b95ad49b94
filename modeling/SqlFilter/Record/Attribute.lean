import SqlFilter.Code.Keyword

/-!
# Attributes of record fields

An attribute says how a field takes part in the catalog: `#[fiql("label", kind = "float")]`.  Its
items are a label, the word `skip`, and the word `kind` with a name.

* `Attribute` is an attribute as it is written;
* `FieldOption.ofItem` reads one item and `Attribute.options` all items of an attribute;
* `FieldOptions.ofAttributes` collects what the attributes of a field say.

The first item that is malformed is the failure.  A label is given at most once, and of several
kinds the last counts.
-/

namespace SqlFilter

/-! ## Written forms -/

/-- A literal in an attribute. -/
inductive AttributeLiteral where
  /-- A string. -/
  | text (s : Text)
  /-- A number. -/
  | number
  deriving Repr, DecidableEq

/-- One of the items that commas separate. -/
inductive AttributeItem where
  /-- A literal. -/
  | literal (l : AttributeLiteral)
  /-- A word, possibly with an equals sign and a literal. -/
  | word (word : Text) (value : Option AttributeLiteral)
  deriving Repr, DecidableEq

/-- What stands behind the name of an attribute. -/
inductive AttributeForm where
  /-- Nothing. -/
  | bare
  /-- An equals sign and a value. -/
  | assigned
  /-- Items in parentheses, possibly with a comma behind them. -/
  | items (items : List AttributeItem) (comma : Bool)
  deriving Repr, DecidableEq

/-- An attribute as it is written. -/
structure Attribute where
  /-- The name of the attribute. -/
  name : Text
  /-- What stands behind the name. -/
  form : AttributeForm
  deriving Repr, DecidableEq

/-! ## Faults -/

/-- What is wrong with an attribute. -/
inductive AttributeFault where
  /-- Nothing stands behind the name. -/
  | noArguments
  /-- An equals sign stands behind the name. -/
  | noParentheses
  /-- An item is neither a string nor a word. -/
  | noIdentifier
  /-- A word is reserved. -/
  | reserved (word : Text)
  /-- A word is none of those that are understood. -/
  | unknownWord
  /-- A kind is not followed by an equals sign. -/
  | noEquals
  /-- A kind is not a string. -/
  | noString
  /-- An item goes on where it should end. -/
  | noComma
  /-- There is more than one label. -/
  | duplicateLabel
  deriving Repr, DecidableEq

/-- The wording of a fault. -/
def AttributeFault.message : AttributeFault → Text
  | noArguments => "expected attribute arguments in parentheses: #[fiql(...)]".toList
  | noParentheses => "expected parentheses: #[fiql(...)]".toList
  | noIdentifier => "expected identifier".toList
  | reserved word => "expected identifier, found keyword `".toList ++ word ++ ['`']
  | unknownWord => "expected an annotation string, `skip` or `kind = \"...\"`".toList
  | noEquals => "expected `=`".toList
  | noString => "expected string literal".toList
  | noComma => "expected `,`".toList
  | duplicateLabel => "duplicate annotation".toList

/-! ## Reading -/

/-- What an item says. -/
inductive FieldOption where
  /-- The field has this label. -/
  | label (value : Text)
  /-- The field is kept out of the catalog. -/
  | skip
  /-- The field has the field type of this name. -/
  | kind (name : Text)
  deriving Repr, DecidableEq

/-- Reads an item. -/
def FieldOption.ofItem : AttributeItem → Except AttributeFault FieldOption
  | .literal (.text s) => .ok (.label s)
  | .literal .number => .error .noIdentifier
  | .word word value =>
    if word = "skip".toList then
      match value with
      | none => .ok .skip
      | some _ => .error .noComma
    else if word = "kind".toList then
      match value with
      | none => .error .noEquals
      | some .number => .error .noString
      | some (.text name) => .ok (.kind name)
    else if word ∈ Code.reservedWords then .error (.reserved word)
    else .error .unknownWord

/-- Reads the items of an attribute.  A comma behind the last item is allowed, but not one alone. -/
def Attribute.options (a : Attribute) : Except AttributeFault (List FieldOption) :=
  match a.form with
  | .bare => .error .noArguments
  | .assigned => .error .noParentheses
  | .items [] true => .error .noIdentifier
  | .items items _ => items.mapM FieldOption.ofItem

/-- What all attributes of a field say. -/
structure FieldOptions where
  /-- The label, if there is one. -/
  label : Option Text := none
  /-- Whether the field is kept out of the catalog. -/
  skip : Bool := false
  /-- The name of the field type, if there is one. -/
  kind : Option Text := none
  deriving Repr, DecidableEq

namespace FieldOptions

/-- The name of the attributes that count. -/
def attributeName : Text := "fiql".toList

/-- Takes in what one item says. -/
def take (o : FieldOptions) : FieldOption → Except AttributeFault FieldOptions
  | .label value =>
    if o.label.isSome then .error .duplicateLabel else .ok { o with label := some value }
  | .skip => .ok { o with skip := true }
  | .kind name => .ok { o with kind := some name }

/-- Takes in what an attribute says; attributes of other names say nothing. -/
def takeAttribute (o : FieldOptions) (a : Attribute) : Except AttributeFault FieldOptions :=
  if a.name = attributeName then do (← a.options).foldlM take o else .ok o

/-- What the attributes of a field say together. -/
def ofAttributes (attributes : List Attribute) : Except AttributeFault FieldOptions :=
  attributes.foldlM takeAttribute {}

end FieldOptions
end SqlFilter
