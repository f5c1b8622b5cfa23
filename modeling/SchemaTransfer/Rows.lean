import SchemaTransfer.Catalog.Column

/-!
# Rows of the source catalog

What the queries of the source return, one flat row per column, domain, comment, sequence, index
key and foreign key, together with what sampling found. Grouping them is the work of `Build`.
-/

namespace SchemaTransfer

/-- One column of a table. -/
structure ColumnRow where
  schema : String
  table : String
  column : String
  ordinal : Int32
  /-- The type name without a size. -/
  regtype : String
  /-- The type name with its size; empty when it was not read. -/
  formattedType : String := ""
  isNullable : Bool
  arrayDims : Int32 := 0
  maxCharSize : Option Int32 := none
  numericPrecision : Option Int32 := none
  numericScale : Option Int32 := none
  defaultExpr : Option String := none
  comment : Option String := none
  deriving DecidableEq

namespace ColumnRow

/-- Whether the column holds arrays. -/
def isArray (r : ColumnRow) : Bool := 0 < r.arrayDims || TypeName.hasArrayMark r.regtype

/-- Whether the column holds single binary values, which are measured by their length. -/
def isBinary (r : ColumnRow) : Bool := !r.isArray && r.regtype == "bytea"

/-- Whether the contents of the column have to be sampled. -/
def needsSampling (r : ColumnRow) : Bool := r.isArray || r.isBinary

/-- Where the column stands. -/
def ref (r : ColumnRow) : ColumnRef := ⟨r.schema, r.table, r.column⟩

end ColumnRow

/-- One domain. -/
structure UserTypeRow where
  schema : String
  name : String
  baseType : String
  notNull : Bool := false
  maxCharSize : Option Int32 := none
  numericPrecision : Option Int32 := none
  numericScale : Option Int32 := none
  deriving DecidableEq

/-- The comment on a table. -/
structure TableCommentRow where
  schema : String
  table : String
  comment : String
  deriving DecidableEq

/-- One sequence with its state. -/
structure SequenceRow where
  schema : String
  name : String
  dataType : String
  startValue : Int64
  incrementBy : Int64
  minValue : Int64
  maxValue : Int64
  cacheSize : Int64 := 1
  cycle : Bool := false
  /-- The last value handed out, if any was. -/
  lastValue : Option Int64 := none
  /-- The type of the column that owns the sequence, if one does. -/
  ownerType : Option String := none
  deriving DecidableEq

/-- One key position of an index. -/
structure IndexRow where
  schema : String
  table : String
  indexName : String
  isPrimary : Bool
  isUnique : Bool
  /-- The key column; a key that is an expression has none. -/
  column : Option String
  columnPosition : Int32
  options : Int32 := 0
  deriving DecidableEq

/-- One foreign key. -/
structure ForeignKeyRow where
  schema : String
  table : String
  constraintName : String
  columns : List String
  refSchema : String
  refTable : String
  refColumns : List String
  onDelete : String := "a"
  onUpdate : String := "a"
  deriving DecidableEq

/-- What sampling found for one column. -/
structure CardinalityRow where
  schema : String
  table : String
  column : String
  maxCardinality : Int64
  deriving DecidableEq

/-- Where the sampled column stands. -/
def CardinalityRow.ref (r : CardinalityRow) : ColumnRef := ⟨r.schema, r.table, r.column⟩

/-- All rows of one run. -/
structure CatalogRows where
  columns : List ColumnRow := []
  userTypes : List UserTypeRow := []
  tableComments : List TableCommentRow := []
  sequences : List SequenceRow := []
  indexes : List IndexRow := []
  foreignKeys : List ForeignKeyRow := []
  deriving DecidableEq

end SchemaTransfer
