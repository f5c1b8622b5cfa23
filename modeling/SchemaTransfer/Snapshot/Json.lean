import SchemaTransfer.Document.JsonWriting
import SchemaTransfer.Document.Reading
import SchemaTransfer.Snapshot

/-!
# Snapshots as JSON

Every row is a record whose members have the names of the source's own columns. Members with a
value that stands in for them may be left out when a snapshot is read; all are written.
-/

namespace SchemaTransfer

open Document
open Document.Reader (text flag int32 int64 optional)
open Document.RecordReader (field required withDefault)

namespace ColumnRow

/-- Reads the members of a column. -/
def fields : RecordReader ColumnRow :=
  ColumnRow.mk <$> required "schema" text <*> required "table" text <*> required "column" text
    <*> required "ordinal" int32 <*> required "regtype" text
    <*> withDefault "formatted_type" text "" <*> required "is_nullable" flag
    <*> withDefault "array_dims" int32 0 <*> withDefault "max_char_size" (optional int32) none
    <*> withDefault "numeric_precision" (optional int32) none
    <*> withDefault "numeric_scale" (optional int32) none
    <*> withDefault "default_expr" (optional text) none
    <*> withDefault "comment" (optional text) none

/-- Reads a column. -/
def read : Reader ColumnRow := fields.read "ColumnRow"

/-- A column to write. -/
def value (r : ColumnRow) : Value := .record [
  ("schema", .text r.schema), ("table", .text r.table), ("column", .text r.column),
  ("ordinal", .integer r.ordinal.toInt), ("regtype", .text r.regtype),
  ("formatted_type", .text r.formattedType), ("is_nullable", .flag r.isNullable),
  ("array_dims", .integer r.arrayDims.toInt),
  ("max_char_size", .optional (.integer ·.toInt) r.maxCharSize),
  ("numeric_precision", .optional (.integer ·.toInt) r.numericPrecision),
  ("numeric_scale", .optional (.integer ·.toInt) r.numericScale),
  ("default_expr", .optional .text r.defaultExpr), ("comment", .optional .text r.comment)]

end ColumnRow

namespace UserTypeRow

/-- Reads the members of a domain. -/
def fields : RecordReader UserTypeRow :=
  UserTypeRow.mk <$> required "schema" text <*> required "name" text <*> required "base_type" text
    <*> withDefault "not_null" flag false <*> withDefault "max_char_size" (optional int32) none
    <*> withDefault "numeric_precision" (optional int32) none
    <*> withDefault "numeric_scale" (optional int32) none

/-- Reads a domain. -/
def read : Reader UserTypeRow := fields.read "UserTypeRow"

/-- A domain to write. -/
def value (r : UserTypeRow) : Value := .record [
  ("schema", .text r.schema), ("name", .text r.name), ("base_type", .text r.baseType),
  ("not_null", .flag r.notNull), ("max_char_size", .optional (.integer ·.toInt) r.maxCharSize),
  ("numeric_precision", .optional (.integer ·.toInt) r.numericPrecision),
  ("numeric_scale", .optional (.integer ·.toInt) r.numericScale)]

end UserTypeRow

namespace TableCommentRow

/-- Reads the members of a comment. -/
def fields : RecordReader TableCommentRow :=
  TableCommentRow.mk <$> required "schema" text <*> required "table" text
    <*> required "comment" text

/-- Reads a comment. -/
def read : Reader TableCommentRow := fields.read "TableCommentRow"

/-- A comment to write. -/
def value (r : TableCommentRow) : Value := .record [
  ("schema", .text r.schema), ("table", .text r.table), ("comment", .text r.comment)]

end TableCommentRow

namespace SequenceRow

/-- Reads the members of a sequence. -/
def fields : RecordReader SequenceRow :=
  SequenceRow.mk <$> required "schema" text <*> required "name" text <*> required "data_type" text
    <*> required "start_value" int64 <*> required "increment_by" int64
    <*> required "min_value" int64 <*> required "max_value" int64
    <*> withDefault "cache_size" int64 1 <*> withDefault "cycle" flag false
    <*> withDefault "last_value" (optional int64) none
    <*> withDefault "owner_type" (optional text) none

/-- Reads a sequence. -/
def read : Reader SequenceRow := fields.read "SequenceRow"

/-- A sequence to write. -/
def value (r : SequenceRow) : Value := .record [
  ("schema", .text r.schema), ("name", .text r.name), ("data_type", .text r.dataType),
  ("start_value", .integer r.startValue.toInt), ("increment_by", .integer r.incrementBy.toInt),
  ("min_value", .integer r.minValue.toInt), ("max_value", .integer r.maxValue.toInt),
  ("cache_size", .integer r.cacheSize.toInt), ("cycle", .flag r.cycle),
  ("last_value", .optional (.integer ·.toInt) r.lastValue),
  ("owner_type", .optional .text r.ownerType)]

end SequenceRow

namespace IndexRow

/-- Reads the members of an index key. -/
def fields : RecordReader IndexRow :=
  IndexRow.mk <$> required "schema" text <*> required "table" text <*> required "index_name" text
    <*> required "is_primary" flag <*> required "is_unique" flag
    <*> field "column" (optional text) (.unnamed none) <*> required "column_position" int32
    <*> withDefault "options" int32 0

/-- Reads an index key. -/
def read : Reader IndexRow := fields.read "IndexRow"

/-- An index key to write. -/
def value (r : IndexRow) : Value := .record [
  ("schema", .text r.schema), ("table", .text r.table), ("index_name", .text r.indexName),
  ("is_primary", .flag r.isPrimary), ("is_unique", .flag r.isUnique),
  ("column", .optional .text r.column), ("column_position", .integer r.columnPosition.toInt),
  ("options", .integer r.options.toInt)]

end IndexRow

namespace ForeignKeyRow

/-- Reads the members of a foreign key. -/
def fields : RecordReader ForeignKeyRow :=
  ForeignKeyRow.mk <$> required "schema" text <*> required "table" text
    <*> required "constraint_name" text <*> required "columns" (Reader.list text)
    <*> required "ref_schema" text <*> required "ref_table" text
    <*> required "ref_columns" (Reader.list text) <*> withDefault "on_delete" text "a"
    <*> withDefault "on_update" text "a"

/-- Reads a foreign key. -/
def read : Reader ForeignKeyRow := fields.read "ForeignKeyRow"

/-- A foreign key to write. -/
def value (r : ForeignKeyRow) : Value := .record [
  ("schema", .text r.schema), ("table", .text r.table),
  ("constraint_name", .text r.constraintName), ("columns", .texts r.columns),
  ("ref_schema", .text r.refSchema), ("ref_table", .text r.refTable),
  ("ref_columns", .texts r.refColumns), ("on_delete", .text r.onDelete),
  ("on_update", .text r.onUpdate)]

end ForeignKeyRow

namespace CardinalityRow

/-- Reads the members of a finding. -/
def fields : RecordReader CardinalityRow :=
  CardinalityRow.mk <$> required "schema" text <*> required "table" text
    <*> required "column" text <*> required "max_cardinality" int64

/-- Reads a finding. -/
def read : Reader CardinalityRow := fields.read "CardinalityRow"

/-- A finding to write. -/
def value (r : CardinalityRow) : Value := .record [
  ("schema", .text r.schema), ("table", .text r.table), ("column", .text r.column),
  ("max_cardinality", .integer r.maxCardinality.toInt)]

end CardinalityRow

namespace Snapshot

/-- Reads the members of a snapshot. -/
def fields : RecordReader Snapshot :=
  Snapshot.mk <$> withDefault "source" text "" <*> withDefault "columns" (.list ColumnRow.read) []
    <*> withDefault "user_types" (.list UserTypeRow.read) []
    <*> withDefault "table_comments" (.list TableCommentRow.read) []
    <*> withDefault "sequences" (.list SequenceRow.read) []
    <*> withDefault "indexes" (.list IndexRow.read) []
    <*> withDefault "foreign_keys" (.list ForeignKeyRow.read) []
    <*> withDefault "cardinalities" (.list CardinalityRow.read) []

/-- Reads a snapshot. -/
def read : Reader Snapshot := fields.read "CatalogSnapshot"

/-- A snapshot to write. -/
def value (s : Snapshot) : Value := .record [
  ("source", .text s.source), ("columns", .list (s.columns.map ColumnRow.value)),
  ("user_types", .list (s.userTypes.map UserTypeRow.value)),
  ("table_comments", .list (s.tableComments.map TableCommentRow.value)),
  ("sequences", .list (s.sequences.map SequenceRow.value)),
  ("indexes", .list (s.indexes.map IndexRow.value)),
  ("foreign_keys", .list (s.foreignKeys.map ForeignKeyRow.value)),
  ("cardinalities", .list (s.cardinalities.map CardinalityRow.value))]

/-- The text of a snapshot. -/
def toJson (s : Snapshot) : String := Json.write s.value

/-- The snapshot that a text holds. -/
def ofJson (text : String) : Except Failure Snapshot :=
  match readRoot read .json (Json.read text) with
  | .ok s => .ok s
  | .error fault => .error (.document .json fault)

end Snapshot

end SchemaTransfer
