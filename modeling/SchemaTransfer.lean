import SchemaTransfer.BinaryWidth
import SchemaTransfer.Build.Catalog
import SchemaTransfer.Build.Columns
import SchemaTransfer.Build.ForeignKeys
import SchemaTransfer.Build.Indexes
import SchemaTransfer.Catalog.Basic
import SchemaTransfer.Catalog.Column
import SchemaTransfer.Catalog.Objects
import SchemaTransfer.CommandLine.Arguments
import SchemaTransfer.CommandLine.Invocation
import SchemaTransfer.CommandLine.Session
import SchemaTransfer.Connection
import SchemaTransfer.Conversion.Gathering
import SchemaTransfer.Conversion.Plan
import SchemaTransfer.Conversion.Report
import SchemaTransfer.Conversion.Run
import SchemaTransfer.Decimal.Binary64
import SchemaTransfer.Decimal.Notation
import SchemaTransfer.DefaultValue
import SchemaTransfer.Diagnostic
import SchemaTransfer.Document.Basic
import SchemaTransfer.Document.Fault
import SchemaTransfer.Document.Json
import SchemaTransfer.Document.JsonWriting
import SchemaTransfer.Document.Number
import SchemaTransfer.Document.Reading
import SchemaTransfer.Document.Word
import SchemaTransfer.Document.Yaml
import SchemaTransfer.Document.Yaml.Block
import SchemaTransfer.Document.Yaml.Glyph
import SchemaTransfer.Document.Yaml.Plain
import SchemaTransfer.Document.Yaml.Quoted
import SchemaTransfer.Document.Yaml.Tag
import SchemaTransfer.Document.Yaml.Token
import SchemaTransfer.Emission.Basic
import SchemaTransfer.Emission.Catalog
import SchemaTransfer.Emission.Keys
import SchemaTransfer.Emission.Tables
import SchemaTransfer.Emission.Types
import SchemaTransfer.Failure
import SchemaTransfer.Files.Access
import SchemaTransfer.Files.Path
import SchemaTransfer.Files.System
import SchemaTransfer.Files.Tree
import SchemaTransfer.Flattening
import SchemaTransfer.Identifier
import SchemaTransfer.Identifier.Qualified
import SchemaTransfer.Main
import SchemaTransfer.Proofs.Build.Closure
import SchemaTransfer.Proofs.Build.ForeignKeyNames
import SchemaTransfer.Proofs.Build.ForeignKeyRows
import SchemaTransfer.Proofs.Build.IndexRuns
import SchemaTransfer.Proofs.Build.Indexes
import SchemaTransfer.Proofs.Build.Runs
import SchemaTransfer.Proofs.Build.TableRuns
import SchemaTransfer.Proofs.Build.Tables
import SchemaTransfer.Proofs.Build.WellFormed
import SchemaTransfer.Proofs.Conversion.DryRun
import SchemaTransfer.Proofs.Conversion.FailedWrites
import SchemaTransfer.Proofs.Conversion.Frame
import SchemaTransfer.Proofs.Conversion.Likeness
import SchemaTransfer.Proofs.Conversion.Provision
import SchemaTransfer.Proofs.Conversion.Recovery
import SchemaTransfer.Proofs.DefaultValue.Calls
import SchemaTransfer.Proofs.DefaultValue.Casts
import SchemaTransfer.Proofs.DefaultValue.Literals
import SchemaTransfer.Proofs.DefaultValue.SequenceNames
import SchemaTransfer.Proofs.Document.Json
import SchemaTransfer.Proofs.Document.Members
import SchemaTransfer.Proofs.Document.Values
import SchemaTransfer.Proofs.Emission.Accounting
import SchemaTransfer.Proofs.Emission.Batches
import SchemaTransfer.Proofs.Emission.Completeness
import SchemaTransfer.Proofs.Emission.Contents
import SchemaTransfer.Proofs.Emission.Counterparts
import SchemaTransfer.Proofs.Emission.DefaultNames
import SchemaTransfer.Proofs.Emission.DependencyOrder
import SchemaTransfer.Proofs.Emission.DomainTypes
import SchemaTransfer.Proofs.Emission.Identifiers
import SchemaTransfer.Proofs.Emission.Mentions
import SchemaTransfer.Proofs.Emission.PassedThrough
import SchemaTransfer.Proofs.Emission.Spelling
import SchemaTransfer.Proofs.Files.Mishaps
import SchemaTransfer.Proofs.Files.Paths
import SchemaTransfer.Proofs.Files.Walks
import SchemaTransfer.Proofs.Files.Writing
import SchemaTransfer.Proofs.Flattening.Columns
import SchemaTransfer.Proofs.Flattening.Names
import SchemaTransfer.Proofs.Flattening.Numbering
import SchemaTransfer.Proofs.Flattening.References
import SchemaTransfer.Proofs.Flattening.Repetition
import SchemaTransfer.Proofs.Flattening.Replacement
import SchemaTransfer.Proofs.Flattening.Sampling
import SchemaTransfer.Proofs.Flattening.Sizes
import SchemaTransfer.Proofs.Identifier.Doubling
import SchemaTransfer.Proofs.Identifier.Splitting
import SchemaTransfer.Proofs.Sequence.Independence
import SchemaTransfer.Proofs.Sequence.Limits
import SchemaTransfer.Proofs.Sequence.Ranges
import SchemaTransfer.Proofs.Sequence.Resumption
import SchemaTransfer.Proofs.Snapshot.Answers
import SchemaTransfer.Proofs.Snapshot.BinaryColumns
import SchemaTransfer.Proofs.Snapshot.Grouping
import SchemaTransfer.Proofs.Snapshot.Groups
import SchemaTransfer.Proofs.Snapshot.Json
import SchemaTransfer.Proofs.Snapshot.Order
import SchemaTransfer.Proofs.Snapshot.Plans
import SchemaTransfer.Proofs.Snapshot.Replay
import SchemaTransfer.Proofs.Snapshot.Storage
import SchemaTransfer.Proofs.Statement.Lines
import SchemaTransfer.Proofs.Statement.Parts
import SchemaTransfer.Proofs.Statement.Quoting
import SchemaTransfer.Proofs.Statement.Reading
import SchemaTransfer.Proofs.Text.Bytes
import SchemaTransfer.Proofs.Text.Cutting
import SchemaTransfer.Proofs.Text.Numerals
import SchemaTransfer.Proofs.Text.Patterns
import SchemaTransfer.Proofs.TypeName.Bare
import SchemaTransfer.Proofs.TypeName.Spelling
import SchemaTransfer.Rows
import SchemaTransfer.Script
import SchemaTransfer.SequenceRange
import SchemaTransfer.Settings
import SchemaTransfer.Settings.File
import SchemaTransfer.Settings.Reading
import SchemaTransfer.Snapshot
import SchemaTransfer.Snapshot.File
import SchemaTransfer.Snapshot.Json
import SchemaTransfer.Source
import SchemaTransfer.Statement
import SchemaTransfer.Text.Blank
import SchemaTransfer.Text.Find
import SchemaTransfer.Text.Quoted
import SchemaTransfer.Text.Visible
import SchemaTransfer.TypeName
