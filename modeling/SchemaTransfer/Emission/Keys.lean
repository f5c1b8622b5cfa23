import SchemaTransfer.Emission.Tables

/-!
# Scripts for indexes and foreign keys

Indexes are created table by table, then foreign keys. A foreign key is written when both of its
tables are and its names can be. Tables are dropped in the reverse of their order, after the
foreign keys.
-/

namespace SchemaTransfer.Emission

/-- The name of the primary key of a table. -/
def primaryKeyName (x : Index) : String := "PK_" ++ x.table

/-- The name under which an index is created. -/
def indexName (x : Index) : String :=
  match x.kind with
  | .primaryKey => primaryKeyName x
  | .unique => x.name
  | .plain => x.name

/-- The statement that creates an index. -/
def indexStatement (x : Index) : Statement :=
  let key : KeyDefinition := ⟨⟨x.schema, x.table⟩, indexName x, x.columns⟩
  match x.kind with
  | .primaryKey => .addPrimaryKey key
  | .unique => .addUnique key
  | .plain => .createIndex key

/-- Creates one index. -/
def createIndex (x : Index) : Emitted :=
  match nameReport? x.fullName [indexName x] with
  | some report => .skipped report
  | none => .statement (indexStatement x)

/-- Creates the indexes of one table. -/
def createIndexesOf (k : Catalog) (t : Table) : Emitted :=
  .gather ((k.indexes.filter fun x => x.schema == t.schema && x.table == t.name).map createIndex)

/-- Creates the indexes. -/
def createIndexes (options : EmitOptions) (k : Catalog) : EmittedScript :=
  .ofParts .createIndexes options ((keptTables k).map (createIndexesOf k))

/-- Whether a foreign key has both of its tables and a name that can be written. -/
def isEmittable (k : Catalog) (fk : ForeignKey) : Bool :=
  !rejects k fk.schema fk.table && !rejects k fk.refSchema fk.refTable &&
    Identifier.isValid fk.name

/-- The actions that are written for a foreign key. -/
def actionClause (policy : ActionPolicy) (fk : ForeignKey) : Option ActionClause :=
  match policy with
  | .omit => none
  | .cascade => some ⟨.cascade, .cascade⟩
  | .source => some ⟨fk.onDelete, fk.onUpdate⟩

/-- The names of a foreign key and of its columns. -/
def foreignKeyNames (fk : ForeignKey) : List String := fk.name :: (fk.columns ++ fk.refColumns)

/-- Adds one foreign key of a table. -/
def addForeignKey (options : EmitOptions) (t : Table) (fk : ForeignKey) : Emitted :=
  match nameReport? (t.fullName ++ "." ++ fk.name) (foreignKeyNames fk) with
  | some report => .skipped report
  | none =>
    .statement (.addForeignKey
      { table := ⟨fk.schema, fk.table⟩
        constraint := fk.name
        columns := fk.columns
        referenced := ⟨fk.refSchema, fk.refTable⟩
        refColumns := fk.refColumns
        actions := actionClause options.actions fk })

/-- Adds the foreign keys of one table. -/
def addForeignKeysOf (options : EmitOptions) (k : Catalog) (t : Table) : Emitted :=
  .gather ((k.foreignKeys.filter fun fk =>
    fk.schema == t.schema && fk.table == t.name && isEmittable k fk).map
      (addForeignKey options t))

/-- Adds the foreign keys. -/
def createForeignKeys (options : EmitOptions) (k : Catalog) : EmittedScript :=
  .ofParts .createForeignKeys options (k.tables.map (addForeignKeysOf options k))

/-- Drops the foreign keys, then the tables. -/
def dropTables (options : EmitOptions) (k : Catalog) : EmittedScript :=
  .ofParts .dropTables options [
    { batch := (k.foreignKeys.filter (isEmittable k)).map fun fk =>
        .dropForeignKey ⟨fk.schema, fk.table⟩ fk.name },
    { batch := (keptTables k).reverse.map fun t => .dropTable (tableName t) }]

end SchemaTransfer.Emission
