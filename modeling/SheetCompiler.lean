import SheetCompiler.Header
import SheetCompiler.FieldType.Declaration
import SheetCompiler.Number.Decimal
import SheetCompiler.Number.Shortest
import SheetCompiler.StructuredCell
import SheetCompiler.Document.Json.Reader
import SheetCompiler.Document.Json.Writer
import SheetCompiler.Text.Casing
import SheetCompiler.Text.Columns
import SheetCompiler.Schema.Resolution
import SheetCompiler.Schema.Listing
import SheetCompiler.Normalization
import SheetCompiler.Schema.Storage
import SheetCompiler.CodeFile
import SheetCompiler.KnownTypes
import SheetCompiler.Relation
import SheetCompiler.Relation.Graph
import SheetCompiler.Record.Wire
import SheetCompiler.Delimited.Writer
import SheetCompiler.Localization.Table
import SheetCompiler.Localization.Key
import SheetCompiler.Pattern
import SheetCompiler.Pattern.Reader
import SheetCompiler.Localization.Extraction
import SheetCompiler.Text.LetterCase
import SheetCompiler.Condition.Token
import SheetCompiler.Condition
import SheetCompiler.Validation.Declaration
import SheetCompiler.Settings.Decoding
import SheetCompiler.Pipeline.Standard
import SheetCompiler.Batch
import SheetCompiler.Encoding
import SheetCompiler.Sheet.Reading
import SheetCompiler.Files.Tree
import SheetCompiler.KnownTypes.Discovery
import SheetCompiler.Files.Output
import SheetCompiler.Document.Yaml.Folding
import SheetCompiler.Document.Yaml.Token
import SheetCompiler.Document.Yaml.Reader
import SheetCompiler.CommandLine
import SheetCompiler.Main
import SheetCompiler.Proofs.NameSet
import SheetCompiler.Proofs.Relation.CycleSearch
import SheetCompiler.Proofs.Relation.Traversal
import SheetCompiler.Proofs.StructuredCell.Values
import SheetCompiler.Proofs.Pipeline.Payload
import SheetCompiler.Proofs.Pipeline.Exclusion
import SheetCompiler.Proofs.CommandLine.Compile
import SheetCompiler.Proofs.FieldType.Grammar
import SheetCompiler.Proofs.Pipeline.FailFast
import SheetCompiler.Proofs.Pipeline.Fixpoint
import SheetCompiler.Proofs.Batch.Order
import SheetCompiler.Proofs.Batch.Independence
import SheetCompiler.Proofs.Schema.Header
import SheetCompiler.Proofs.Schema.Kinds
import SheetCompiler.Proofs.Localization.Listing
import SheetCompiler.Proofs.Pipeline.SchemaShape
import SheetCompiler.Proofs.Text.Words
import SheetCompiler.Proofs.Schema.Identifier
import SheetCompiler.Proofs.Delimited.Reader
import SheetCompiler.Proofs.Encoding.Chunk
import SheetCompiler.Proofs.Encoding.Decoder
import SheetCompiler.Proofs.Sheet.Reading
import SheetCompiler.Proofs.Sheet.Lines
import SheetCompiler.Proofs.StructuredCell.Keys
import SheetCompiler.Proofs.Localization.Operations
import SheetCompiler.Proofs.Localization.Idempotence
import SheetCompiler.Proofs.Localization.Capture
import SheetCompiler.Proofs.Pipeline.Header
import SheetCompiler.Proofs.Pipeline.Findings
import SheetCompiler.Proofs.Schema.Storage
import SheetCompiler.Proofs.Schema.TagOrder
import SheetCompiler.Proofs.Validation.Registration
import SheetCompiler.Proofs.Validation.Reordering
import SheetCompiler.Proofs.Sheet.Pointwise
import SheetCompiler.Proofs.Record.Typing
import SheetCompiler.Proofs.Validation.Accounting
import SheetCompiler.Proofs.Value.Display
import SheetCompiler.Proofs.Value.Integer
