/-!
# Diagnostics

A condition that a run recovered from: what kind it is, which object it concerns and what was
done about it. Diagnostics are lists in the order in which the conditions were met.
-/

namespace SchemaTransfer

/-- The kinds of recovered conditions. -/
inductive DiagnosticKind where
  /-- A type name without a counterpart was passed through. -/
  | unmappableType
  /-- A default without a counterpart was left out. -/
  | unsupportedDefault
  /-- A catalog query failed and its rows count as none. -/
  | catalogQueryFailure
  /-- A foreign key has unpaired columns or refers to a table that is not converted. -/
  | invalidForeignKey
  /-- A column repeats a name of its table. -/
  | duplicateColumn
  /-- An index has a key that is not a column. -/
  | expressionIndex
  /-- A table has a second primary key. -/
  | extraPrimaryKey
  /-- A name cannot be written. -/
  | invalidIdentifier
  deriving DecidableEq

/-- The kind in words. -/
def DiagnosticKind.phrase : DiagnosticKind → String
  | .unmappableType => "unmappable type"
  | .unsupportedDefault => "unsupported default"
  | .catalogQueryFailure => "catalog query failure"
  | .invalidForeignKey => "invalid foreign key"
  | .duplicateColumn => "duplicate column"
  | .expressionIndex => "expression index"
  | .extraPrimaryKey => "extra primary key"
  | .invalidIdentifier => "invalid identifier"

/-- The kind as one word. -/
def DiagnosticKind.tag : DiagnosticKind → String
  | .unmappableType => "unmappable_type"
  | .unsupportedDefault => "unsupported_default"
  | .catalogQueryFailure => "catalog_query_failure"
  | .invalidForeignKey => "invalid_foreign_key"
  | .duplicateColumn => "duplicate_column"
  | .expressionIndex => "expression_index"
  | .extraPrimaryKey => "extra_primary_key"
  | .invalidIdentifier => "invalid_identifier"

/-- A recovered condition. -/
structure Diagnostic where
  kind : DiagnosticKind
  /-- The qualified name of the object concerned. -/
  object : String
  message : String
  deriving DecidableEq

namespace Diagnostic

/-- A diagnostic as one line. -/
def line (d : Diagnostic) : String := d.kind.phrase ++ " on " ++ d.object ++ ": " ++ d.message

/-- The number of diagnostics of a kind. -/
def count (kind : DiagnosticKind) (ds : List Diagnostic) : Nat :=
  (ds.filter fun d => d.kind = kind).length

end Diagnostic

end SchemaTransfer
