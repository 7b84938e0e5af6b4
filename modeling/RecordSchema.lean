import RecordSchema.Batch
import RecordSchema.Command.Arguments
import RecordSchema.Command.Report
import RecordSchema.Command.Run
import RecordSchema.Comment
import RecordSchema.Conflict
import RecordSchema.Cursor
import RecordSchema.Declarations
import RecordSchema.Diagnostic
import RecordSchema.Dictionary
import RecordSchema.Document
import RecordSchema.Envelope
import RecordSchema.Files.Path
import RecordSchema.Files.Tree
import RecordSchema.Form.BlockScalar
import RecordSchema.Form.FlowScalar
import RecordSchema.Form.Gap
import RecordSchema.Form.Input
import RecordSchema.Form.Reading
import RecordSchema.Form.Tag
import RecordSchema.Form.Token
import RecordSchema.Form.Tokenizer
import RecordSchema.Form.Value
import RecordSchema.Go.Generator
import RecordSchema.Go.Identifier
import RecordSchema.Go.Source
import RecordSchema.Json.Basic
import RecordSchema.Json.Document
import RecordSchema.Json.Model
import RecordSchema.Json.Pretty
import RecordSchema.Linking
import RecordSchema.Loading
import RecordSchema.Manifest
import RecordSchema.Model.Dump
import RecordSchema.Model.FieldKind
import RecordSchema.Model.Package
import RecordSchema.Name
import RecordSchema.Node
import RecordSchema.Position
import RecordSchema.Settings
import RecordSchema.Source.Lines
import RecordSchema.Source.Reading
import RecordSchema.Text.Blank
import RecordSchema.Text.Case
import RecordSchema.Text.Case.Mapping
import RecordSchema.Text.Case.Property
import RecordSchema.Text.Cluster
import RecordSchema.Text.Cluster.Property
import RecordSchema.Text.Interval
import RecordSchema.Text.Line
import RecordSchema.Text.Printable
import RecordSchema.Text.Quoted
import RecordSchema.Text.Split
import RecordSchema.TypeMap
import RecordSchema.Yaml.BlockScalar
import RecordSchema.Yaml.Event
import RecordSchema.Yaml.FlowScalar
import RecordSchema.Yaml.Gap
import RecordSchema.Yaml.Input
import RecordSchema.Yaml.SyntaxError
import RecordSchema.Yaml.Tag
import RecordSchema.Yaml.Token
import RecordSchema.Yaml.Tokenizer
import RecordSchema.Yaml.Tree
import RecordSchema.Main
import RecordSchema.Proofs.Document.Reading
import RecordSchema.Proofs.Batch.Faults
import RecordSchema.Proofs.Batch.Canonical
import RecordSchema.Proofs.Batch.Reordering
import RecordSchema.Proofs.Linking.Relinking
import RecordSchema.Proofs.Go.Generation
import RecordSchema.Proofs.Linking.Dependencies
import RecordSchema.Proofs.Text.Caseless
import RecordSchema.Proofs.Text.OneLine
import RecordSchema.Proofs.Go.Imports
import RecordSchema.Proofs.Go.Comments
import RecordSchema.Proofs.Source.Trailing
import RecordSchema.Proofs.Source.Building
import RecordSchema.Proofs.Go.Identifiers
import RecordSchema.Proofs.Batch.Sublists
import RecordSchema.Proofs.Json.RoundTrip
import RecordSchema.Proofs.Command.Effects
import RecordSchema.Proofs.Text.Folding
import RecordSchema.Proofs.Go.FieldNames
import RecordSchema.Proofs.Batch.Splitting
import RecordSchema.Proofs.Document.Decoding
import RecordSchema.Proofs.Go.Tags
import RecordSchema.Proofs.Yaml.LiteralScalar
import RecordSchema.Proofs.Source.HeadComments
import RecordSchema.Proofs.Yaml.LiteralEntry
import RecordSchema.Proofs.Source.LiteralScalars
import RecordSchema.Proofs.Batch.PrimaryTables
import RecordSchema.Proofs.Go.Pointers
import RecordSchema.Proofs.Document.Loading
import RecordSchema.Proofs.Document.Navigation
import RecordSchema.Proofs.Source.Quoting
import RecordSchema.Proofs.Text.CommentWords
import RecordSchema.Proofs.Text.Separators
import RecordSchema.Proofs.Source.CommentBlocks
import RecordSchema.Proofs.Text.Markers
