import SchemaTransfer.Catalog.Basic
import SchemaTransfer.Identifier
import SchemaTransfer.Text.Find

/-!
# Statements of the target and their text

A statement carries names and texts as they are; quoting happens only where it is written. A
table, type or sequence is named by its schema and its name.
-/

namespace SchemaTransfer

/-- A name with its schema. -/
structure ObjectName where
  schema : String
  name : String
  deriving DecidableEq

namespace ObjectName

/-- The two names in brackets with a dot between them. -/
def text (n : ObjectName) : String :=
  Identifier.inBrackets n.schema ++ "." ++ Identifier.inBrackets n.name

/-- The bracketed name as a literal, for looking an object up by name. -/
def literal (n : ObjectName) : String := Identifier.literal n.text

end ObjectName

/-- One column of a table to create. -/
structure ColumnDefinition where
  name : String
  /-- The type as it is written, with its size. -/
  dataType : String
  nullable : Bool
  deriving DecidableEq

/-- The actions of a foreign key. -/
structure ActionClause where
  onDelete : ReferentialAction
  onUpdate : ReferentialAction
  deriving DecidableEq

/-- What a sequence to create is given. -/
structure SequenceDefinition where
  name : ObjectName
  dataType : String
  start : Int64
  increment : Int64
  minValue : Int64
  maxValue : Int64
  cache : Int64
  cycle : Bool
  deriving DecidableEq

/-- A constraint or an index over key columns of a table. -/
structure KeyDefinition where
  table : ObjectName
  name : String
  columns : List IndexColumn
  deriving DecidableEq

/-- A foreign key to add. -/
structure ReferenceDefinition where
  table : ObjectName
  constraint : String
  columns : List String
  referenced : ObjectName
  refColumns : List String
  actions : Option ActionClause
  deriving DecidableEq

/-- A statement. -/
inductive Statement where
  | useDatabase (name : String)
  | beginTransaction
  | commitTransaction
  | setOption (option : String) (on : Bool)
  | createSchema (name : String)
  | createType (name : ObjectName) (baseType : String) (notNull : Bool)
  | dropType (name : ObjectName)
  | createSequence (definition : SequenceDefinition)
  | dropSequence (name : ObjectName)
  | createTable (name : ObjectName) (columns : List ColumnDefinition)
  | dropTable (name : ObjectName)
  | truncateTable (name : ObjectName)
  | addDefault (table : ObjectName) (constraint column expression : String)
  /-- Describes a column of a table, or the table itself. -/
  | addDescription (table : ObjectName) (column : Option String) (text : String)
  | addPrimaryKey (key : KeyDefinition)
  | addUnique (key : KeyDefinition)
  | createIndex (key : KeyDefinition)
  | addForeignKey (reference : ReferenceDefinition)
  | dropForeignKey (table : ObjectName) (constraint : String)
  deriving DecidableEq

namespace Statement

/-- Texts with a comma and a space between each two. -/
def commaList (items : List String) : String :=
  String.ofList (Text.joined [',', ' '] (items.map String.toList))

/-- Key columns with their directions. -/
def keyList (columns : List IndexColumn) : String :=
  commaList (columns.map fun c => Identifier.inBrackets c.name ++ " " ++ c.direction.keyword)

/-- Column names. -/
def nameList (columns : List String) : String := commaList (columns.map Identifier.inBrackets)

/-- The options of a plain index. -/
def indexOptions : String :=
  "PAD_INDEX = OFF, STATISTICS_NORECOMPUTE = OFF, SORT_IN_TEMPDB = OFF, " ++
    "DROP_EXISTING = OFF, ONLINE = OFF, ALLOW_ROW_LOCKS = ON, ALLOW_PAGE_LOCKS = ON"

/-- Whether a column or type admits nulls, as it is written. -/
def nullability (nullable : Bool) : String := if nullable then "NULL" else "NOT NULL"

/-- The text of a 64-bit number. -/
def number (n : Int64) : String := toString n.toInt

/-- One column of a table, without the comma after it. -/
def columnLine (c : ColumnDefinition) : String :=
  "    " ++ Identifier.inBrackets c.name ++ " " ++ c.dataType ++ " " ++ nullability c.nullable

/-- The columns of a table, one line each, with commas between them. -/
def columnLines : List ColumnDefinition → String
  | [] => ""
  | [c] => columnLine c ++ "\n"
  | c :: d :: rest => columnLine c ++ ",\n" ++ columnLines (d :: rest)

/-- The text of a sequence to create. -/
def sequenceText (d : SequenceDefinition) : String :=
  "CREATE SEQUENCE " ++ d.name.text ++ " AS " ++ d.dataType ++
    " START WITH " ++ number d.start ++ " INCREMENT BY " ++ number d.increment ++
    " MINVALUE " ++ number d.minValue ++ " MAXVALUE " ++ number d.maxValue ++ " " ++
    (if 1 < d.cache then "CACHE " ++ number d.cache ++ " " else "NO CACHE ") ++
    (if d.cycle then "CYCLE;" else "NO CYCLE;")

/-- The start of a statement that adds a constraint. -/
def addConstraint (table : ObjectName) (constraint : String) : String :=
  "ALTER TABLE " ++ table.text ++ " ADD CONSTRAINT " ++ Identifier.inBrackets constraint

/-- The text of a foreign key to add. -/
def referenceText (r : ReferenceDefinition) : String :=
  addConstraint r.table r.constraint ++ " FOREIGN KEY (" ++ nameList r.columns ++
    ") REFERENCES " ++ r.referenced.text ++ " (" ++ nameList r.refColumns ++ ")" ++
    (match r.actions with
    | some clause =>
      " ON DELETE " ++ clause.onDelete.phrase ++ " ON UPDATE " ++ clause.onUpdate.phrase
    | none => "") ++ ";"

/-- The text of a description. -/
def descriptionText (table : ObjectName) (column : Option String) (text : String) : String :=
  "EXEC sys.sp_addextendedproperty @name = N'MS_Description', @value = " ++
    Identifier.literal text ++ ", @level0type = N'SCHEMA', @level0name = " ++
    Identifier.literal table.schema ++ ", @level1type = N'TABLE', @level1name = " ++
    Identifier.literal table.name ++
    (match column with
    | some column =>
      ", @level2type = N'COLUMN', @level2name = " ++ Identifier.literal column
    | none => "") ++ ";"

/-- The text of a statement. -/
def text : Statement → String
  | useDatabase name => "USE " ++ Identifier.inBrackets name ++ ";"
  | beginTransaction => "BEGIN TRANSACTION;"
  | commitTransaction => "COMMIT TRANSACTION;"
  | setOption option on => "SET " ++ option ++ (if on then " ON;" else " OFF;")
  | createSchema name => "CREATE SCHEMA " ++ Identifier.inBrackets name ++ ";"
  | createType name baseType notNull =>
    "CREATE TYPE " ++ name.text ++ " FROM " ++ baseType ++ " " ++ nullability (!notNull) ++ ";"
  | dropType name =>
    "IF TYPE_ID(" ++ name.literal ++ ") IS NOT NULL DROP TYPE " ++ name.text ++ ";"
  | createSequence d => sequenceText d
  | dropSequence name =>
    "IF OBJECT_ID(" ++ name.literal ++ ", N'SO') IS NOT NULL DROP SEQUENCE " ++ name.text ++ ";"
  | createTable name columns =>
    "CREATE TABLE " ++ name.text ++ " (\n" ++ columnLines columns ++ ") ON [PRIMARY];"
  | dropTable name =>
    "IF OBJECT_ID(" ++ name.literal ++ ", N'U') IS NOT NULL DROP TABLE " ++ name.text ++ ";"
  | truncateTable name => "TRUNCATE TABLE " ++ name.text ++ ";"
  | addDefault table constraint column expression =>
    addConstraint table constraint ++ " DEFAULT (" ++ expression ++ ") FOR " ++
      Identifier.inBrackets column ++ ";"
  | addDescription table column text => descriptionText table column text
  | addPrimaryKey key =>
    addConstraint key.table key.name ++ " PRIMARY KEY CLUSTERED (" ++ keyList key.columns ++ ");"
  | addUnique key =>
    addConstraint key.table key.name ++ " UNIQUE NONCLUSTERED (" ++ keyList key.columns ++ ");"
  | createIndex key =>
    "CREATE NONCLUSTERED INDEX " ++ Identifier.inBrackets key.name ++ " ON " ++ key.table.text ++
      " (" ++ keyList key.columns ++ ") WITH (" ++ indexOptions ++ ");"
  | addForeignKey reference => referenceText reference
  | dropForeignKey table constraint =>
    "IF OBJECT_ID(" ++ (ObjectName.mk table.schema constraint).literal ++
      ", N'F') IS NOT NULL ALTER TABLE " ++ table.text ++ " DROP CONSTRAINT " ++
      Identifier.inBrackets constraint ++ ";"

end Statement

end SchemaTransfer
