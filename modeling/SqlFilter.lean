import SqlFilter.Adapter
import SqlFilter.Catalog.Basic
import SqlFilter.Catalog.FieldType
import SqlFilter.Catalog.Label
import SqlFilter.Code.Angled
import SqlFilter.Code.Arrangement
import SqlFilter.Code.Definition
import SqlFilter.Code.Grammar
import SqlFilter.Code.Keyword
import SqlFilter.Code.Operand
import SqlFilter.Code.Operation
import SqlFilter.Code.Operator
import SqlFilter.Code.Pattern
import SqlFilter.Code.Reading
import SqlFilter.Code.Statement
import SqlFilter.Code.Step
import SqlFilter.Code.Token
import SqlFilter.Code.Type
import SqlFilter.Dialect.Preset
import SqlFilter.Dialect.Profile
import SqlFilter.Error
import SqlFilter.Expression.Argument
import SqlFilter.Expression.Event
import SqlFilter.Expression.Operator
import SqlFilter.Expression.Tree
import SqlFilter.Json.Scalar
import SqlFilter.Logging
import SqlFilter.Numeral.Binary64
import SqlFilter.Numeral.Decimal
import SqlFilter.Numeral.Digits
import SqlFilter.Numeral.Hexadecimal
import SqlFilter.Numeral.Significand
import SqlFilter.Predicate.Build
import SqlFilter.Predicate.Negotiation
import SqlFilter.Predicate.Order
import SqlFilter.Proofs.Attributes
import SqlFilter.Proofs.Calendar
import SqlFilter.Proofs.Choices
import SqlFilter.Proofs.Classification
import SqlFilter.Proofs.ColumnOptions
import SqlFilter.Proofs.ColumnReading
import SqlFilter.Proofs.Composition
import SqlFilter.Proofs.Condition
import SqlFilter.Proofs.Derivation
import SqlFilter.Proofs.Expansion
import SqlFilter.Proofs.Fitting
import SqlFilter.Proofs.Independence
import SqlFilter.Proofs.InstantText
import SqlFilter.Proofs.LabelGrammar
import SqlFilter.Proofs.LikePatterns
import SqlFilter.Proofs.OrderGrammar
import SqlFilter.Proofs.Outside
import SqlFilter.Proofs.Overrides
import SqlFilter.Proofs.Parentheses
import SqlFilter.Proofs.PatternMatching
import SqlFilter.Proofs.Placeholders
import SqlFilter.Proofs.ReadingBack
import SqlFilter.Proofs.Recognition
import SqlFilter.Proofs.RecordFaults
import SqlFilter.Proofs.Registration
import SqlFilter.Proofs.Rejection
import SqlFilter.Proofs.Rendering
import SqlFilter.Proofs.Representation
import SqlFilter.Proofs.Resolution
import SqlFilter.Proofs.Sorting
import SqlFilter.Proofs.SpanGrammar
import SqlFilter.Proofs.SpanLength
import SqlFilter.Proofs.Spelling
import SqlFilter.Proofs.Steps
import SqlFilter.Proofs.Timestamps
import SqlFilter.Proofs.Translation
import SqlFilter.Proofs.TypeLayers
import SqlFilter.Proofs.Unambiguous
import SqlFilter.Proofs.UnambiguousOrder
import SqlFilter.Proofs.Walks
import SqlFilter.Proofs.WholeNumbers
import SqlFilter.Proofs.WholeSpans
import SqlFilter.Proofs.Wildcards
import SqlFilter.Record.Attribute
import SqlFilter.Record.Basic
import SqlFilter.Record.Header
import SqlFilter.Record.TypeExpr
import SqlFilter.Record.TypeReading
import SqlFilter.Settings.Basic
import SqlFilter.Settings.Reading
import SqlFilter.Settings.Reference
import SqlFilter.Settings.Variables
import SqlFilter.Text.Basic
import SqlFilter.Text.Blank
import SqlFilter.Text.CaseData
import SqlFilter.Text.HiddenData
import SqlFilter.Text.Keyed
import SqlFilter.Text.Lowercase
import SqlFilter.Text.Quoted
import SqlFilter.Time.Calendar
import SqlFilter.Time.Instant
import SqlFilter.Time.Printed
import SqlFilter.Time.Reading
import SqlFilter.Time.Span
import SqlFilter.Toml.Document
import SqlFilter.Toml.Item
import SqlFilter.Toml.Literal
import SqlFilter.Toml.Quoted
import SqlFilter.Value.Basic
import SqlFilter.Value.Json
