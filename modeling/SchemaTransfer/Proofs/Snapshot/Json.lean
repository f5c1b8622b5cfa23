import SchemaTransfer.Proofs.Document.Members
import SchemaTransfer.Snapshot.Json

/-!
# Snapshots survive JSON

What is written for a snapshot is read back as the same snapshot. So is every text that gives its
members in another order, with other members between them, or without those that have the value
that stands in for them, in the snapshot as in each of its rows.
-/

namespace SchemaTransfer

open Document
open Document.Reader Document.RecordReader

namespace ColumnRow

/-- The members of a column. -/
def members (r : ColumnRow) : List Member := [
  .required "schema" (.text r.schema), .required "table" (.text r.table),
  .required "column" (.text r.column), .required "ordinal" (.integer r.ordinal.toInt),
  .required "regtype" (.text r.regtype),
  .defaulted "formatted_type" (.text "") (.text r.formattedType),
  .required "is_nullable" (.flag r.isNullable),
  .defaulted "array_dims" (.integer 0) (.integer r.arrayDims.toInt),
  .defaulted "max_char_size" .null (.optional (.integer ·.toInt) r.maxCharSize),
  .defaulted "numeric_precision" .null (.optional (.integer ·.toInt) r.numericPrecision),
  .defaulted "numeric_scale" .null (.optional (.integer ·.toInt) r.numericScale),
  .defaulted "default_expr" .null (.optional .text r.defaultExpr),
  .defaulted "comment" .null (.optional .text r.comment)]

theorem takes_fields (r : ColumnRow) : fields.Takes r.members r :=
  (takes_required inverts_text "schema" r.schema).map ColumnRow.mk
    |>.seq (takes_required inverts_text "table" r.table)
    |>.seq (takes_required inverts_text "column" r.column)
    |>.seq (takes_required inverts_int32 "ordinal" r.ordinal)
    |>.seq (takes_required inverts_text "regtype" r.regtype)
    |>.seq (takes_withDefault inverts_text "formatted_type" "" r.formattedType)
    |>.seq (takes_required inverts_flag "is_nullable" r.isNullable)
    |>.seq (takes_withDefault inverts_int32 "array_dims" 0 r.arrayDims)
    |>.seq (takes_withDefault inverts_optionalInt32 "max_char_size" none r.maxCharSize)
    |>.seq (takes_withDefault inverts_optionalInt32 "numeric_precision" none r.numericPrecision)
    |>.seq (takes_withDefault inverts_optionalInt32 "numeric_scale" none r.numericScale)
    |>.seq (takes_withDefault inverts_optionalText "default_expr" none r.defaultExpr)
    |>.seq (takes_withDefault inverts_optionalText "comment" none r.comment)

theorem recovers : read.Recovers value members :=
  RecordReader.recovers takes_fields (by decide) (fun _ => by repeat' constructor) "ColumnRow"

end ColumnRow

namespace UserTypeRow

/-- The members of a domain. -/
def members (r : UserTypeRow) : List Member := [
  .required "schema" (.text r.schema), .required "name" (.text r.name),
  .required "base_type" (.text r.baseType), .defaulted "not_null" (.flag false) (.flag r.notNull),
  .defaulted "max_char_size" .null (.optional (.integer ·.toInt) r.maxCharSize),
  .defaulted "numeric_precision" .null (.optional (.integer ·.toInt) r.numericPrecision),
  .defaulted "numeric_scale" .null (.optional (.integer ·.toInt) r.numericScale)]

theorem takes_fields (r : UserTypeRow) : fields.Takes r.members r :=
  (takes_required inverts_text "schema" r.schema).map UserTypeRow.mk
    |>.seq (takes_required inverts_text "name" r.name)
    |>.seq (takes_required inverts_text "base_type" r.baseType)
    |>.seq (takes_withDefault inverts_flag "not_null" false r.notNull)
    |>.seq (takes_withDefault inverts_optionalInt32 "max_char_size" none r.maxCharSize)
    |>.seq (takes_withDefault inverts_optionalInt32 "numeric_precision" none r.numericPrecision)
    |>.seq (takes_withDefault inverts_optionalInt32 "numeric_scale" none r.numericScale)

theorem recovers : read.Recovers value members :=
  RecordReader.recovers takes_fields (by decide) (fun _ => by repeat' constructor) "UserTypeRow"

end UserTypeRow

namespace TableCommentRow

/-- The members of a comment. -/
def members (r : TableCommentRow) : List Member := [
  .required "schema" (.text r.schema), .required "table" (.text r.table),
  .required "comment" (.text r.comment)]

theorem takes_fields (r : TableCommentRow) : fields.Takes r.members r :=
  (takes_required inverts_text "schema" r.schema).map TableCommentRow.mk
    |>.seq (takes_required inverts_text "table" r.table)
    |>.seq (takes_required inverts_text "comment" r.comment)

theorem recovers : read.Recovers value members :=
  RecordReader.recovers takes_fields (by decide) (fun _ => by repeat' constructor) "TableCommentRow"

end TableCommentRow

namespace SequenceRow

/-- The members of a sequence. -/
def members (r : SequenceRow) : List Member := [
  .required "schema" (.text r.schema), .required "name" (.text r.name),
  .required "data_type" (.text r.dataType), .required "start_value" (.integer r.startValue.toInt),
  .required "increment_by" (.integer r.incrementBy.toInt),
  .required "min_value" (.integer r.minValue.toInt),
  .required "max_value" (.integer r.maxValue.toInt),
  .defaulted "cache_size" (.integer 1) (.integer r.cacheSize.toInt),
  .defaulted "cycle" (.flag false) (.flag r.cycle),
  .defaulted "last_value" .null (.optional (.integer ·.toInt) r.lastValue),
  .defaulted "owner_type" .null (.optional .text r.ownerType)]

theorem takes_fields (r : SequenceRow) : fields.Takes r.members r :=
  (takes_required inverts_text "schema" r.schema).map SequenceRow.mk
    |>.seq (takes_required inverts_text "name" r.name)
    |>.seq (takes_required inverts_text "data_type" r.dataType)
    |>.seq (takes_required inverts_int64 "start_value" r.startValue)
    |>.seq (takes_required inverts_int64 "increment_by" r.incrementBy)
    |>.seq (takes_required inverts_int64 "min_value" r.minValue)
    |>.seq (takes_required inverts_int64 "max_value" r.maxValue)
    |>.seq (takes_withDefault inverts_int64 "cache_size" 1 r.cacheSize)
    |>.seq (takes_withDefault inverts_flag "cycle" false r.cycle)
    |>.seq (takes_withDefault inverts_optionalInt64 "last_value" none r.lastValue)
    |>.seq (takes_withDefault inverts_optionalText "owner_type" none r.ownerType)

theorem recovers : read.Recovers value members :=
  RecordReader.recovers takes_fields (by decide) (fun _ => by repeat' constructor) "SequenceRow"

end SequenceRow

namespace IndexRow

/-- The members of an index key. -/
def members (r : IndexRow) : List Member := [
  .required "schema" (.text r.schema), .required "table" (.text r.table),
  .required "index_name" (.text r.indexName), .required "is_primary" (.flag r.isPrimary),
  .required "is_unique" (.flag r.isUnique), .defaulted "column" .null (.optional .text r.column),
  .required "column_position" (.integer r.columnPosition.toInt),
  .defaulted "options" (.integer 0) (.integer r.options.toInt)]

theorem takes_fields (r : IndexRow) : fields.Takes r.members r :=
  (takes_required inverts_text "schema" r.schema).map IndexRow.mk
    |>.seq (takes_required inverts_text "table" r.table)
    |>.seq (takes_required inverts_text "index_name" r.indexName)
    |>.seq (takes_required inverts_flag "is_primary" r.isPrimary)
    |>.seq (takes_required inverts_flag "is_unique" r.isUnique)
    |>.seq (takes_unnamed inverts_optionalText "column" none r.column)
    |>.seq (takes_required inverts_int32 "column_position" r.columnPosition)
    |>.seq (takes_withDefault inverts_int32 "options" 0 r.options)

theorem recovers : read.Recovers value members :=
  RecordReader.recovers takes_fields (by decide) (fun _ => by repeat' constructor) "IndexRow"

end IndexRow

namespace ForeignKeyRow

/-- The members of a foreign key. -/
def members (r : ForeignKeyRow) : List Member := [
  .required "schema" (.text r.schema), .required "table" (.text r.table),
  .required "constraint_name" (.text r.constraintName), .required "columns" (.texts r.columns),
  .required "ref_schema" (.text r.refSchema), .required "ref_table" (.text r.refTable),
  .required "ref_columns" (.texts r.refColumns),
  .defaulted "on_delete" (.text "a") (.text r.onDelete),
  .defaulted "on_update" (.text "a") (.text r.onUpdate)]

theorem takes_fields (r : ForeignKeyRow) : fields.Takes r.members r :=
  (takes_required inverts_text "schema" r.schema).map ForeignKeyRow.mk
    |>.seq (takes_required inverts_text "table" r.table)
    |>.seq (takes_required inverts_text "constraint_name" r.constraintName)
    |>.seq (takes_required inverts_texts "columns" r.columns)
    |>.seq (takes_required inverts_text "ref_schema" r.refSchema)
    |>.seq (takes_required inverts_text "ref_table" r.refTable)
    |>.seq (takes_required inverts_texts "ref_columns" r.refColumns)
    |>.seq (takes_withDefault inverts_text "on_delete" "a" r.onDelete)
    |>.seq (takes_withDefault inverts_text "on_update" "a" r.onUpdate)

theorem recovers : read.Recovers value members :=
  RecordReader.recovers takes_fields (by decide) (fun _ => by repeat' constructor) "ForeignKeyRow"

end ForeignKeyRow

namespace CardinalityRow

/-- The members of a finding. -/
def members (r : CardinalityRow) : List Member := [
  .required "schema" (.text r.schema), .required "table" (.text r.table),
  .required "column" (.text r.column),
  .required "max_cardinality" (.integer r.maxCardinality.toInt)]

theorem takes_fields (r : CardinalityRow) : fields.Takes r.members r :=
  (takes_required inverts_text "schema" r.schema).map CardinalityRow.mk
    |>.seq (takes_required inverts_text "table" r.table)
    |>.seq (takes_required inverts_text "column" r.column)
    |>.seq (takes_required inverts_int64 "max_cardinality" r.maxCardinality)

theorem recovers : read.Recovers value members :=
  RecordReader.recovers takes_fields (by decide) (fun _ => by repeat' constructor) "CardinalityRow"

end CardinalityRow

namespace Snapshot

/-- The members of a snapshot. -/
def members (s : Snapshot) : List Member := [
  .defaulted "source" (.text "") (.text s.source), .rows "columns" ColumnRow.members s.columns,
  .rows "user_types" UserTypeRow.members s.userTypes,
  .rows "table_comments" TableCommentRow.members s.tableComments,
  .rows "sequences" SequenceRow.members s.sequences,
  .rows "indexes" IndexRow.members s.indexes,
  .rows "foreign_keys" ForeignKeyRow.members s.foreignKeys,
  .rows "cardinalities" CardinalityRow.members s.cardinalities]

theorem takes_fields (s : Snapshot) : fields.Takes s.members s :=
  (takes_withDefault inverts_text "source" "" s.source).map Snapshot.mk
    |>.seq (ColumnRow.recovers.takes_rows "columns" s.columns)
    |>.seq (UserTypeRow.recovers.takes_rows "user_types" s.userTypes)
    |>.seq (TableCommentRow.recovers.takes_rows "table_comments" s.tableComments)
    |>.seq (SequenceRow.recovers.takes_rows "sequences" s.sequences)
    |>.seq (IndexRow.recovers.takes_rows "indexes" s.indexes)
    |>.seq (ForeignKeyRow.recovers.takes_rows "foreign_keys" s.foreignKeys)
    |>.seq (CardinalityRow.recovers.takes_rows "cardinalities" s.cardinalities)

theorem recovers : read.Recovers value members := by
  refine RecordReader.recovers takes_fields (by decide) (fun s => ?_) "CatalogSnapshot"
  exact .cons ⟨rfl, rfl⟩ <| .cons ⟨rfl, ColumnRow.recovers.admits_rows _ _⟩ <|
    .cons ⟨rfl, UserTypeRow.recovers.admits_rows _ _⟩ <|
    .cons ⟨rfl, TableCommentRow.recovers.admits_rows _ _⟩ <|
    .cons ⟨rfl, SequenceRow.recovers.admits_rows _ _⟩ <|
    .cons ⟨rfl, IndexRow.recovers.admits_rows _ _⟩ <|
    .cons ⟨rfl, ForeignKeyRow.recovers.admits_rows _ _⟩ <|
    .cons ⟨rfl, CardinalityRow.recovers.admits_rows _ _⟩ .nil

/-- A snapshot is read from every text that gives its members. -/
theorem ofJson_eq {s : Snapshot} {text : String} {n : Node} (htext : Json.read text = ⟨n, true⟩)
    (hn : n.gives s.members) : ofJson text = .ok s := by
  have hread : read (.ofDocument .json ⟨n, true⟩) n = .ok s :=
    recovers.read_eq _ s n hn (Json.isWhole_of_read htext)
  simp only [ofJson, readRoot, htext, hread, if_true]

/-- The text of a snapshot gives its members and is read back as the snapshot, and so is every
other text that gives them. -/
theorem ofJson_toJson (s : Snapshot) :
    ofJson s.toJson = .ok s ∧ (∃ n, Json.read s.toJson = ⟨n, true⟩ ∧ n.gives s.members) ∧
      ∀ text n, Json.read text = ⟨n, true⟩ → n.gives s.members → ofJson text = .ok s :=
  have hwritten : Json.read s.toJson = ⟨s.value.node, true⟩ := Json.read_write s.value
  ⟨ofJson_eq hwritten (recovers.gives s), ⟨_, hwritten, recovers.gives s⟩,
    fun _ _ htext hn => ofJson_eq htext hn⟩

/-- A snapshot of one column. -/
def sparse : Snapshot where
  columns := [
    { schema := "s", table := "t", column := "a", ordinal := 1, regtype := "text"
      isNullable := true }]

/-- The column with its members in another order. Only one of those that may be left out is
given. -/
def sparseColumn : Value := .record [
  ("is_nullable", .flag true), ("regtype", .text "text"), ("ordinal", .integer 1),
  ("comment", .null), ("column", .text "a"), ("table", .text "t"), ("schema", .text "s")]

/-- The snapshot with a member that is unknown and without the lists that are empty. -/
def sparseValue : Value :=
  .record [("note", .list [.null, .flag false]), ("columns", .list [sparseColumn])]

theorem gives_sparseColumn : ∀ r ∈ sparse.columns, sparseColumn.node.gives r.members := by
  intro r hr
  obtain rfl := List.mem_singleton.mp hr
  refine ⟨_, rfl, by simp [entriesOf], ?_⟩
  simp [ColumnRow.members, Member.required, Member.defaulted, entriesOf, under, Value.node,
    Value.optional]

theorem gives_sparseValue : sparseValue.node.gives sparse.members := by
  refine ⟨_, rfl, by simp [entriesOf], ?_⟩
  simp only [members, List.forall_mem_cons, Member.defaulted, Member.rows, entriesOf, under,
    Value.node]
  simpa [nodesOf, sparse] using gives_sparseColumn _ List.mem_cons_self

theorem ofJson_sparseValue :
    sparseValue.node.gives sparse.members ∧ ofJson (Json.write sparseValue) = .ok sparse :=
  ⟨gives_sparseValue,
    (ofJson_toJson sparse).2.2 _ _ (Json.read_write sparseValue) gives_sparseValue⟩

end Snapshot

end SchemaTransfer
