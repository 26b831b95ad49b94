import SqlFilter.Catalog.FieldType
import SqlFilter.Expression.Argument

/-!
# Errors

What can go wrong, one constructor for each cause.

* `Error` is a cause with the texts that it concerns; building a predicate collects all causes that
  it finds into one `Error.rejected`;
* `Error.message`, `Error.diagnostic` and `Error.help` are the wordings;
* `ErrorCode` groups the causes under numbers: 1000 for the filter, 2000 for the sort text, 3000
  for the catalog, 7000 for the settings;
* `ErrorList` collects errors in the order in which they are found.
-/

namespace SqlFilter

/-! ## Codes -/

/-- The class of an error. -/
inductive ErrorCode where
  /-- A selector that the catalog does not have. -/
  | invalidSelector
  /-- An argument of a kind that the field's type does not take. -/
  | invalidArgumentType
  /-- An argument of the right kind that does not denote a value. -/
  | argumentConversion
  /-- A filter with at least one error. -/
  | rejected
  /-- An unknown comparison or field type. -/
  | unknownToken
  /-- A malformed sort token. -/
  | invalidOrderBy
  /-- A malformed field label. -/
  | invalidLabel
  /-- Unusable settings. -/
  | invalidConfiguration
  /-- Settings that cannot be read. -/
  | unreadableConfiguration
  deriving Repr, DecidableEq

namespace ErrorCode

/-- All codes in the order of their numbers. -/
def all : List ErrorCode :=
  [.invalidSelector, .invalidArgumentType, .argumentConversion, .rejected, .unknownToken,
   .invalidOrderBy, .invalidLabel, .invalidConfiguration, .unreadableConfiguration]

/-- The number of a code. -/
def number : ErrorCode → Nat
  | .invalidSelector => 1001
  | .invalidArgumentType => 1002
  | .argumentConversion => 1003
  | .rejected => 1004
  | .unknownToken => 1005
  | .invalidOrderBy => 2001
  | .invalidLabel => 3001
  | .invalidConfiguration => 7001
  | .unreadableConfiguration => 7002

/-- A code in writing: the letter F and the number. -/
def print (c : ErrorCode) : Text := 'F' :: Numeral.digits c.number

/-- A short description of a code. -/
def description : ErrorCode → Text
  | .invalidSelector => "Invalid selector".toList
  | .invalidArgumentType => "Invalid argument type".toList
  | .argumentConversion => "Argument conversion failure".toList
  | .rejected => "Filter rejected".toList
  | .unknownToken => "Unknown token".toList
  | .invalidOrderBy => "Invalid order by syntax".toList
  | .invalidLabel => "Invalid field annotation".toList
  | .invalidConfiguration => "Invalid configuration".toList
  | .unreadableConfiguration => "Configuration file unreadable".toList

/-- Whether the client's filter or sort text is to blame, and not the setup. -/
def isClientError (c : ErrorCode) : Bool := c.number < 3000

end ErrorCode

/-! ## Errors -/

/-- The vocabulary that a token should have come from. -/
inductive TokenKind where
  /-- The comparisons. -/
  | comparison
  /-- The names of field types. -/
  | fieldType
  deriving Repr, DecidableEq

/-- What a vocabulary is called in messages. -/
def TokenKind.name : TokenKind → Text
  | .comparison => "comparison".toList
  | .fieldType => "field type".toList

/-- A cause of failure. -/
inductive Error where
  /-- The catalog has no field of this name. -/
  | invalidSelector (selector : Text)
  /-- The field's type does not take an argument of this kind. -/
  | invalidArgumentType (selector argument : Text) (expected : FieldType)
  /-- The argument has the right kind but denotes no value. -/
  | argumentConversion (selector argument : Text) (cause : ConversionError)
  /-- A sort token is malformed or names no field. -/
  | invalidOrderBy (token : Text)
  /-- The filter has these errors, in the order in which they were found. -/
  | rejected (errors : List Error)
  /-- A token is not in the vocabulary. -/
  | unknownToken (kind : TokenKind) (token : Text)
  /-- The label of a field is malformed. -/
  | invalidLabel (field label message : Text)
  /-- The settings are unusable. -/
  | configuration (message : Text)
  /-- The settings cannot be read from this place. -/
  | unreadable (path : Text)
  /-- The settings are not written in their format. -/
  | malformedSettings

namespace Error

/-- A text between backticks. -/
def quoted (t : Text) : Text := '`' :: t ++ ['`']

/-- The wording of an error. -/
def message : Error → Text
  | invalidSelector selector => "invalid selector: ".toList ++ quoted selector
  | invalidArgumentType selector argument expected =>
    "invalid type of argument ".toList ++ quoted argument ++ " for selector ".toList ++
      quoted selector ++ ", expected ".toList ++ expected.name
  | argumentConversion selector argument _ =>
    "could not convert argument ".toList ++ quoted argument ++ " for selector ".toList ++
      quoted selector
  | invalidOrderBy token => "invalid order by selector: ".toList ++ quoted token
  | rejected errors =>
    "filter rejected with ".toList ++ Numeral.digits errors.length ++ " error(s)".toList
  | unknownToken kind token => "unknown ".toList ++ kind.name ++ ' ' :: quoted token
  | invalidLabel field label message =>
    "invalid annotation ".toList ++ quoted label ++ " on field ".toList ++ quoted field ++
      ": ".toList ++ message
  | configuration message => "configuration error: ".toList ++ message
  | unreadable path => "failed to read file: ".toList ++ path
  | malformedSettings => "failed to parse TOML".toList

/-- The class of an error. -/
def code : Error → ErrorCode
  | invalidSelector _ => .invalidSelector
  | invalidArgumentType .. => .invalidArgumentType
  | argumentConversion .. => .argumentConversion
  | invalidOrderBy _ => .invalidOrderBy
  | rejected _ => .rejected
  | unknownToken .. => .unknownToken
  | invalidLabel .. => .invalidLabel
  | configuration _ => .invalidConfiguration
  | unreadable _ => .unreadableConfiguration
  | malformedSettings => .invalidConfiguration

/-- The name under which an error is reported to developers. -/
def diagnostic : Error → Text
  | invalidSelector _ => "fiql::invalid_selector".toList
  | invalidArgumentType .. => "fiql::invalid_argument_type".toList
  | argumentConversion .. => "fiql::argument_conversion_failure".toList
  | invalidOrderBy _ => "fiql::invalid_order_by_syntax".toList
  | rejected _ => "fiql::rejected".toList
  | unknownToken .. => "fiql::unknown_token".toList
  | invalidLabel .. => "fiql::invalid_annotation".toList
  | configuration _ => "fiql::config_error".toList
  | unreadable _ => "fiql::io_error".toList
  | malformedSettings => "fiql::toml_error".toList

/-- Advice for the client, where there is some. -/
def help : Error → Option Text
  | invalidSelector _ =>
    some "only fields registered in the field catalog can be filtered or sorted".toList
  | invalidOrderBy _ =>
    some "sort tokens are `+alias` or `-alias`, separated by `;`".toList
  | _ => none

/-- The single errors that an error stands for: those of a rejected filter, else itself. -/
def parts : Error → List Error
  | rejected errors => errors
  | e => [e]

/-- The first of the single errors. -/
def first? (e : Error) : Option Error := e.parts.head?

end Error

/-! ## Collecting errors -/

/-- Errors in the order in which they were found. -/
structure ErrorList where
  /-- The errors, first found first. -/
  errors : List Error := []

namespace ErrorList

/-- The list with one more error. -/
def push (l : ErrorList) (e : Error) : ErrorList := ⟨l.errors ++ [e]⟩

/-- The number of errors. -/
def length (l : ErrorList) : Nat := l.errors.length

/-- Whether there is no error. -/
def isEmpty (l : ErrorList) : Bool := l.errors.isEmpty

/-- Whether there is an error. -/
def hasErrors (l : ErrorList) : Bool := !l.isEmpty

/-- The first error that was found. -/
def first? (l : ErrorList) : Option Error := l.errors.head?

/-- The value, if no error was found, and all errors together otherwise. -/
def finish {α : Type} (l : ErrorList) (value : α) : Except Error α :=
  match l.errors with
  | [] => .ok value
  | errors => .error (.rejected errors)

end ErrorList

/-! ## Names with errors -/

/-- The field type of a name. -/
def FieldType.named (token : Text) : Except Error FieldType :=
  match FieldType.ofName? token with
  | some type => .ok type
  | none => .error (.unknownToken .fieldType token)

end SqlFilter
