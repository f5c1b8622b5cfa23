import Mathlib.Logic.Basic
import SchemaTransfer.Script

/-!
# The parts of a statement

The text of a statement is made of parts: words and literals that belong to its kind, its own names
between brackets, its own texts as literals, and text that is written as it is given. Main
statement: the text of every statement is that of its parts, one after the other.
-/

namespace SchemaTransfer

/-- The schema and the name. -/
def ObjectName.names (n : ObjectName) : List String := [n.schema, n.name]

/-- A stretch of the text of a statement. -/
inductive Part where
  /-- Words and signs that belong to the kind of statement. -/
  | words (text : String)
  /-- A literal that belongs to the kind of statement. -/
  | keyword (text : String)
  /-- A name of the statement, between brackets. -/
  | name (text : String)
  /-- A text of the statement, as a literal. -/
  | literal (text : String)
  /-- A name with its schema, both between brackets, as a literal. -/
  | lookup (object : ObjectName)
  /-- A text of the statement, as it is. -/
  | raw (text : String)
  deriving DecidableEq

namespace Part

/-- A part as it is written. -/
def written : Part → String
  | words text => text
  | keyword text => Identifier.literal text
  | name text => Identifier.inBrackets text
  | literal text => Identifier.literal text
  | lookup object => object.literal
  | raw text => text

/-- The text of several parts. -/
def text (parts : List Part) : String := parts.foldr (fun p rest => p.written ++ rest) ""

@[simp] theorem text_nil : text [] = "" := rfl

@[simp] theorem text_cons (p : Part) (parts : List Part) :
    text (p :: parts) = p.written ++ text parts := rfl

@[simp] theorem text_append (parts more : List Part) :
    text (parts ++ more) = text parts ++ text more := by
  induction parts with
  | nil => simp
  | cons p parts ih => simp only [List.cons_append, text_cons, ih, String.append_assoc]

/-- The parts of a list of items, with a comma and a space between each two. -/
def separated : List (List Part) → List Part
  | [] => []
  | [x] => x
  | x :: y :: rest => x ++ words ", " :: separated (y :: rest)

/-- Separated items are written as their texts are. -/
theorem text_separated (items : List (List Part)) :
    text (separated items) = Statement.commaList (items.map text) := by
  refine String.toList_inj.mp ?_
  simp only [Statement.commaList, String.toList_ofList, List.map_map]
  induction items with
  | nil => rfl
  | cons x rest ih =>
    cases rest with
    | nil => simp [separated, Text.joined]
    | cons y rest =>
      simp only [List.map_cons, Function.comp_apply, Text.joined] at ih ⊢
      rw [separated, text_append, String.toList_append, text_cons, String.toList_append, ih]
      simp [written]

/-- Separating items adds nothing but words. -/
theorem flatMap_separated {β : Type} {f : Part → List β} (hf : ∀ text, f (words text) = [])
    (items : List (List Part)) : (separated items).flatMap f = items.flatMap (·.flatMap f) := by
  fun_induction separated items with
  | case1 => rfl
  | case2 x => simp
  | case3 x y rest ih => simpa [hf] using ih

/-- The parts of a list of items, each on a line of its own, with commas between them. -/
def lines : List (List Part) → List Part
  | [] => []
  | [x] => x ++ [words "\n"]
  | x :: y :: rest => x ++ words ",\n" :: lines (y :: rest)

/-- Putting items on lines adds nothing but words. -/
theorem flatMap_lines {β : Type} {f : Part → List β} (hf : ∀ text, f (words text) = [])
    (items : List (List Part)) : (lines items).flatMap f = items.flatMap (·.flatMap f) := by
  fun_induction lines items with
  | case1 => rfl
  | case2 x => simp [hf]
  | case3 x y rest ih => simpa [hf] using ih

/-- A name with its schema. -/
def object (n : ObjectName) : List Part := [name n.schema, words ".", name n.name]

@[simp] theorem text_object (n : ObjectName) : text (object n) = n.text := by
  simp [object, written, ObjectName.text, String.append_assoc]

/-- A list of key columns with their directions. -/
def keys (columns : List IndexColumn) : List Part :=
  separated (columns.map fun c => [name c.name, words " ", words c.direction.keyword])

theorem text_keys (columns : List IndexColumn) : text (keys columns) = Statement.keyList columns := by
  simp [keys, text_separated, Statement.keyList, Function.comp_def, written, String.append_assoc]

/-- A list of column names. -/
def names (columns : List String) : List Part := separated (columns.map fun c => [name c])

theorem text_names (columns : List String) :
    text (names columns) = Statement.nameList columns := by
  simp [names, text_separated, Statement.nameList, Function.comp_def, written]

/-- The start of a statement that adds a constraint. -/
def constraint (table : ObjectName) (constraint : String) : List Part :=
  words "ALTER TABLE " :: object table ++ [words " ADD CONSTRAINT ", name constraint]

theorem text_constraint (table : ObjectName) (name : String) :
    text (constraint table name) = Statement.addConstraint table name := by
  simp [constraint, Statement.addConstraint, written, String.append_assoc]

/-- One column of a table to create. -/
def column (c : ColumnDefinition) : List Part :=
  [words "    ", name c.name, words " ", raw c.dataType, words " ",
    words (Statement.nullability c.nullable)]

theorem text_column (c : ColumnDefinition) : text (column c) = Statement.columnLine c := by
  simp [column, Statement.columnLine, written, String.append_assoc]

/-- Items that are written as columns are put on lines as columns are. -/
theorem text_lines {α : Type} {f : α → List Part} {g : α → ColumnDefinition}
    (h : ∀ a, text (f a) = Statement.columnLine (g a)) (as : List α) :
    text (lines (as.map f)) = Statement.columnLines (as.map g) := by
  induction as with
  | nil => rfl
  | cons a as ih =>
    cases as with
    | nil => simp [lines, h, Statement.columnLines, written]
    | cons b as =>
      simp only [List.map_cons] at ih ⊢
      rw [lines, text_append, text_cons, h a, ih, Statement.columnLines, written,
        String.append_assoc]

/-- The columns of a table to create, one line each. -/
def columns (cs : List ColumnDefinition) : List Part := lines (cs.map column)

theorem text_columns (cs : List ColumnDefinition) : text (columns cs) = Statement.columnLines cs := by
  rw [columns, text_lines text_column, List.map_id']

/-- The actions of a foreign key, if they are written. -/
def actions : Option ActionClause → List Part
  | none => []
  | some clause => [words " ON DELETE ", words clause.onDelete.phrase, words " ON UPDATE ",
      words clause.onUpdate.phrase]

/-- The column that a description is about, if it is about one. -/
def described : Option String → List Part
  | none => []
  | some column => [words ", @level2type = ", keyword "COLUMN", words ", @level2name = ",
      literal column]

end Part

namespace Statement

/-- The parts of a statement. -/
def parts : Statement → List Part
  | useDatabase name => [.words "USE ", .name name, .words ";"]
  | beginTransaction => [.words "BEGIN TRANSACTION;"]
  | commitTransaction => [.words "COMMIT TRANSACTION;"]
  | setOption option on => [.words "SET ", .raw option, .words (if on then " ON;" else " OFF;")]
  | createSchema name => [.words "CREATE SCHEMA ", .name name, .words ";"]
  | createType name baseType notNull =>
    .words "CREATE TYPE " :: Part.object name ++
      [.words " FROM ", .raw baseType, .words " ", .words (nullability (!notNull)), .words ";"]
  | dropType name =>
    [.words "IF TYPE_ID(", .lookup name, .words ") IS NOT NULL DROP TYPE "] ++
      Part.object name ++ [.words ";"]
  | createSequence d =>
    .words "CREATE SEQUENCE " :: Part.object d.name ++ [.words " AS ", .raw d.dataType,
      .words " START WITH ", .words (number d.start),
      .words " INCREMENT BY ", .words (number d.increment),
      .words " MINVALUE ", .words (number d.minValue),
      .words " MAXVALUE ", .words (number d.maxValue), .words " ",
      .words (if 1 < d.cache then "CACHE " ++ number d.cache ++ " " else "NO CACHE "),
      .words (if d.cycle then "CYCLE;" else "NO CYCLE;")]
  | dropSequence name =>
    [.words "IF OBJECT_ID(", .lookup name, .words ", ", .keyword "SO",
      .words ") IS NOT NULL DROP SEQUENCE "] ++ Part.object name ++ [.words ";"]
  | createTable name columns =>
    .words "CREATE TABLE " :: Part.object name ++ .words " (\n" :: Part.columns columns ++
      [.words ") ON ", .name "PRIMARY", .words ";"]
  | dropTable name =>
    [.words "IF OBJECT_ID(", .lookup name, .words ", ", .keyword "U",
      .words ") IS NOT NULL DROP TABLE "] ++ Part.object name ++ [.words ";"]
  | truncateTable name => .words "TRUNCATE TABLE " :: Part.object name ++ [.words ";"]
  | addDefault table constraint column expression =>
    Part.constraint table constraint ++
      [.words " DEFAULT (", .raw expression, .words ") FOR ", .name column, .words ";"]
  | addDescription table column text =>
    [.words "EXEC sys.sp_addextendedproperty @name = ", .keyword "MS_Description",
      .words ", @value = ", .literal text,
      .words ", @level0type = ", .keyword "SCHEMA", .words ", @level0name = ",
      .literal table.schema, .words ", @level1type = ", .keyword "TABLE",
      .words ", @level1name = ", .literal table.name] ++ Part.described column ++ [.words ";"]
  | addPrimaryKey key =>
    Part.constraint key.table key.name ++ .words " PRIMARY KEY CLUSTERED (" ::
      Part.keys key.columns ++ [.words ");"]
  | addUnique key =>
    Part.constraint key.table key.name ++ .words " UNIQUE NONCLUSTERED (" ::
      Part.keys key.columns ++ [.words ");"]
  | createIndex key =>
    [.words "CREATE NONCLUSTERED INDEX ", .name key.name, .words " ON "] ++
      Part.object key.table ++ .words " (" :: Part.keys key.columns ++
      [.words ") WITH (", .words indexOptions, .words ");"]
  | addForeignKey r =>
    Part.constraint r.table r.constraint ++ .words " FOREIGN KEY (" :: Part.names r.columns ++
      .words ") REFERENCES " :: Part.object r.referenced ++ .words " (" ::
      Part.names r.refColumns ++ .words ")" :: Part.actions r.actions ++ [.words ";"]
  | dropForeignKey table constraint =>
    [.words "IF OBJECT_ID(", .lookup ⟨table.schema, constraint⟩, .words ", ", .keyword "F",
      .words ") IS NOT NULL ALTER TABLE "] ++ Part.object table ++
      [.words " DROP CONSTRAINT ", .name constraint, .words ";"]

/-! ## The text of a statement -/

/-- The guard on the kind of an object to drop. -/
private theorem guard_words :
    ", N'SO') IS NOT NULL DROP SEQUENCE " =
        ", " ++ (Identifier.literal "SO" ++ ") IS NOT NULL DROP SEQUENCE ") ∧
      ", N'U') IS NOT NULL DROP TABLE " =
        ", " ++ (Identifier.literal "U" ++ ") IS NOT NULL DROP TABLE ") ∧
      ", N'F') IS NOT NULL ALTER TABLE " =
        ", " ++ (Identifier.literal "F" ++ ") IS NOT NULL ALTER TABLE ") :=
  ⟨rfl, rfl, rfl⟩

/-- The words before the texts of a description. -/
private theorem description_words :
    "EXEC sys.sp_addextendedproperty @name = N'MS_Description', @value = " =
        "EXEC sys.sp_addextendedproperty @name = " ++
          (Identifier.literal "MS_Description" ++ ", @value = ") ∧
      ", @level0type = N'SCHEMA', @level0name = " =
        ", @level0type = " ++ (Identifier.literal "SCHEMA" ++ ", @level0name = ") ∧
      ", @level1type = N'TABLE', @level1name = " =
        ", @level1type = " ++ (Identifier.literal "TABLE" ++ ", @level1name = ") ∧
      ", @level2type = N'COLUMN', @level2name = " =
        ", @level2type = " ++ (Identifier.literal "COLUMN" ++ ", @level2name = ") :=
  ⟨rfl, rfl, rfl, rfl⟩

/-- The file group on which tables are created. -/
private theorem storage_words :
    ") ON [PRIMARY];" = ") ON " ++ (Identifier.inBrackets "PRIMARY" ++ ";") :=
  rfl

/-- The parts of a statement make up its text. -/
theorem text_parts (s : Statement) : Part.text s.parts = s.text := by
  obtain ⟨hsequence, htable, hkey⟩ := guard_words
  obtain ⟨hproperty, hschema, hlevel, hcolumn⟩ := description_words
  -- The long texts are opened by `delta`: Lean takes minutes to state the equations of `text`.
  cases s <;> delta parts text <;> dsimp only
  case useDatabase name => simp [Part.written, String.append_assoc]
  case beginTransaction => simp [Part.written]
  case commitTransaction => simp [Part.written]
  case setOption option on => simp [Part.written, String.append_assoc]
  case createSchema name => simp [Part.written, String.append_assoc]
  case createType name baseType notNull => simp [Part.written, String.append_assoc]
  case dropType name => simp [Part.written, String.append_assoc]
  case createSequence d =>
    delta sequenceText
    simp [Part.written, String.append_assoc]
  case dropSequence name => simp [Part.written, hsequence, String.append_assoc]
  case createTable name columns =>
    simp [Part.text_columns, Part.written, storage_words, String.append_assoc]
  case dropTable name => simp [Part.written, htable, String.append_assoc]
  case truncateTable name => simp [Part.written, String.append_assoc]
  case addDefault table constraint column expression =>
    simp [Part.text_constraint, Part.written, String.append_assoc]
  case addDescription table column text =>
    delta descriptionText
    cases column <;>
      simp [Part.described, Part.written, hproperty, hschema, hlevel, hcolumn, String.append_assoc]
  case addPrimaryKey key =>
    simp [Part.text_constraint, Part.text_keys, Part.written, String.append_assoc]
  case addUnique key =>
    simp [Part.text_constraint, Part.text_keys, Part.written, String.append_assoc]
  case createIndex key => simp [Part.text_keys, Part.written, String.append_assoc]
  case addForeignKey r =>
    obtain ⟨table, constraint, columns, referenced, refColumns, actions⟩ := r
    delta referenceText
    cases actions <;>
      simp [Part.text_constraint, Part.text_names, Part.actions, Part.written, String.append_assoc]
  case dropForeignKey table constraint => simp [Part.written, hkey, String.append_assoc]

end Statement

end SchemaTransfer
