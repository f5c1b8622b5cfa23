import SchemaTransfer.DefaultValue
import SchemaTransfer.Emission.Types

/-!
# Scripts for tables

Tables are created with their columns, then get their defaults, then the descriptions of columns
and of tables. A column whose type names a domain of the catalog has that domain as its type.
-/

namespace SchemaTransfer.Emission

/-- The only member of a list that has one. -/
def single? {α : Type} : List α → Option α
  | [x] => some x
  | _ => none

/-- The domain that a type name stands for. A name with a schema stands for that one alone. A bare
name stands for a domain of the table's schema, else for the only domain of the name. -/
def domain? (types : List UserType) (schema typeName : String) : Option UserType :=
  match Identifier.split typeName with
  | [owner, name] => types.find? fun t => t.schema == owner && t.name == name
  | [name] =>
    match types.find? fun t => t.schema == schema && t.name == name with
    | some t => some t
    | none => single? (types.filter fun t => t.name == name)
  | _ => none

/-- A column of a table to create, with the report on its type. -/
def columnDefinition (k : Catalog) (t : Table) (c : Column) : ColumnDefinition × List Diagnostic :=
  match domain? k.userTypes t.schema c.elementType with
  | some domain => (⟨c.name, (ObjectName.mk domain.schema domain.name).text, c.isNullable⟩, [])
  | none =>
    let mapping := TypeMapping.ofName c.elementType
    let dataType :=
      TypeName.sized mapping.target c.maxCharSize c.numericPrecision c.numericScale
    (⟨c.name, dataType, c.isNullable⟩, unmappable (t.ref c).fullName mapping)

/-- Creates one table. -/
def createTable (k : Catalog) (t : Table) : Emitted :=
  let columns := t.columns.map (columnDefinition k t)
  { batch := [.createTable (tableName t) (columns.map (·.1))]
    reported := columns.flatMap (·.2) }

/-- What is said about a default without a counterpart. -/
def unsupportedDefault (object raw : String) : Diagnostic :=
  ⟨.unsupportedDefault, object,
    "default '" ++ raw ++ "' has no SQL Server equivalent; omitted"⟩

/-- The name of the constraint for the default of a column. -/
def defaultConstraint (t : Table) (c : Column) : String := "DF_" ++ t.name ++ "_" ++ c.name

/-- Adds the default of one column. -/
def addDefault (t : Table) (c : Column) : Emitted :=
  match c.defaultExpr with
  | none => {}
  | some raw =>
    match (DefaultValue.ofText t.schema raw).expression? with
    | none => .skipped (unsupportedDefault (t.ref c).fullName raw)
    | some expression =>
      match nameReport? (t.ref c).fullName [defaultConstraint t c] with
      | some report => .skipped report
      | none => .statement (.addDefault (tableName t) (defaultConstraint t c) c.name expression)

/-- Adds the defaults of one table. -/
def addDefaults (t : Table) : Emitted := .gather (t.columns.map (addDefault t))

/-- Describes the columns of one table. -/
def describeColumns (t : Table) : Emitted :=
  { batch := t.columns.filterMap fun c =>
      c.comment.map fun text => .addDescription (tableName t) (some c.name) text }

/-- Describes the tables. -/
def describeTables (ts : List Table) : Emitted :=
  { batch := ts.filterMap fun t =>
      t.comment.map fun text => .addDescription (tableName t) none text }

/-- The options under which tables are created. -/
def tableOptions : Emitted :=
  { batch := [.setOption "ANSI_NULLS" true, .setOption "QUOTED_IDENTIFIER" true] }

/-- Creates the tables. -/
def createTables (options : EmitOptions) (k : Catalog) : EmittedScript :=
  let ts := keptTables k
  .ofParts .createTables options
    ([tableOptions] ++ ts.map (createTable k) ++ ts.map addDefaults ++ ts.map describeColumns ++
      [describeTables ts])

/-- Empties the tables. -/
def truncateTables (options : EmitOptions) (k : Catalog) : EmittedScript :=
  .ofParts .truncateTables options
    [{ batch := (keptTables k).map fun t => .truncateTable (tableName t) }]

end SchemaTransfer.Emission
