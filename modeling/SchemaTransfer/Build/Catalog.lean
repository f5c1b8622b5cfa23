import SchemaTransfer.Build.Columns
import SchemaTransfer.Build.ForeignKeys
import SchemaTransfer.Build.Indexes

/-!
# The catalog of a run

Tables come from the column rows and get their comments; domains and sequences are taken as they
are; indexes and foreign keys are kept where their tables are. A foreign key of a table that is
not converted goes silently, one that refers to such a table is reported.
-/

namespace SchemaTransfer

/-- The domain that a row describes. -/
def UserType.ofRow (r : UserTypeRow) : UserType where
  schema := r.schema
  name := r.name
  baseType := r.baseType
  notNull := r.notNull
  maxCharSize := r.maxCharSize
  numericPrecision := r.numericPrecision
  numericScale := r.numericScale

/-- The sequence that a row describes; until it is resolved its target type is its own. -/
def Sequence.ofRow (r : SequenceRow) : Sequence where
  schema := r.schema
  name := r.name
  dataType := r.dataType
  ownerType := r.ownerType
  targetType := r.dataType
  start := r.startValue
  increment := r.incrementBy
  minValue := r.minValue
  maxValue := r.maxValue
  cache := r.cacheSize
  cycle := r.cycle
  lastValue := r.lastValue.getD r.startValue
  isCalled := r.lastValue.isSome

namespace Build

/-- Sets the comment of the first table that a row names; an empty comment is none. -/
def setComment (r : TableCommentRow) : List Table → List Table
  | [] => []
  | t :: ts =>
    if t.isNamed r.schema r.table then
      { t with comment := if r.comment = "" then none else some r.comment } :: ts
    else t :: setComment r ts

/-- What is said about a foreign key to a table that is not converted. -/
def danglingReference (fk : ForeignKey) : Diagnostic where
  kind := .invalidForeignKey
  object := fk.schema ++ "." ++ fk.table ++ "." ++ fk.sourceName
  message := "references " ++ fk.refSchema ++ "." ++ fk.refTable ++
    ", which is not being converted"

end Build

/-- A catalog with what was reported while it was built. -/
structure BuiltCatalog where
  catalog : Catalog
  diagnostics : List Diagnostic
  deriving DecidableEq

namespace Catalog

/-- Builds the catalog of the rows. -/
def build (rows : CatalogRows) (foreignKeyEnding : String) : BuiltCatalog :=
  let stream := Build.TableStream.ofRows rows.columns
  let tables := rows.tableComments.foldl (fun ts r => Build.setComment r ts) stream.closed
  let schemas := (rows.userTypes.map (·.schema) ++ rows.sequences.map (·.schema)).foldl
    noteSchema stream.schemas
  let base : Catalog :=
    { schemas
      tables
      userTypes := rows.userTypes.map .ofRow
      sequences := rows.sequences.map .ofRow }
  let indexes := Build.IndexStream.ofRows rows.indexes
  let keys := Build.ForeignKeyStream.ofRows foreignKeyEnding rows.foreignKeys
  let owned := keys.foreignKeys.filter fun fk => base.hasTable fk.schema fk.table
  let refersInside (fk : ForeignKey) : Bool := base.hasTable fk.refSchema fk.refTable
  { catalog :=
      { base with
        indexes := indexes.indexes.filter fun x => base.hasTable x.schema x.table
        foreignKeys := owned.filter refersInside }
    diagnostics := stream.diagnostics ++ indexes.diagnostics ++ keys.diagnostics ++
      (owned.filter fun fk => !refersInside fk).map Build.danglingReference }

end Catalog

end SchemaTransfer
