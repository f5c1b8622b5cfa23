import SchemaTransfer.Proofs.Emission.Contents
import SchemaTransfer.Proofs.Statement.Parts

/-!
# Where the names in a script come from

Two kinds of statement take text that is made elsewhere: the type of a created column and the
expression of a default. Their parts are spelled out from the catalog that they are written for,
so that a domain or a sequence in that text is told from text of the source. Main statement: every
statement of a script is spelled out, and its parts make up its text.
-/

namespace SchemaTransfer

/-- The names between brackets in a part, also inside a literal that looks an object up. -/
def Part.bracketed : Part → List String
  | name text => [text]
  | lookup object => object.names
  | _ => []

/-- Whether a statement takes text that is made elsewhere. -/
def Statement.takesText : Statement → Bool
  | createTable _ _ => true
  | addDefault _ _ _ _ => true
  | _ => false

/-- Every statement of a script as it is rendered. -/
def Script.rendered (s : Script) : List Statement :=
  s.header.flatten ++ s.statements ++ [.commitTransaction]

/-- A script renders the use of its database, if one is named, and its statements between those
of its transaction. -/
theorem Script.mem_rendered {script : Script} {s : Statement} :
    s ∈ script.rendered ↔ (∃ name, script.database = some name ∧ s = .useDatabase name) ∨
      s = .beginTransaction ∨ s ∈ script.statements ∨ s = .commitTransaction := by
  cases hd : script.database with
  | none => simp [rendered, header, hd]
  | some name => simp [rendered, header, hd]

/-- The parts of the expression that a default becomes. -/
def DefaultValue.parts : DefaultValue → List Part
  | literal text => [.raw text]
  | passThrough text => [.raw text]
  | now => [.words "GETDATE()"]
  | boolean value => [.words (if value then "1" else "0")]
  | nextValue schema sequence => .words "NEXT VALUE FOR " :: Part.object ⟨schema, sequence⟩
  | unsupported => []

theorem DefaultValue.text_parts {d : DefaultValue} {expression : String}
    (h : d.expression? = some expression) : Part.text d.parts = expression := by
  cases d with
  | literal text => simpa [parts, expression?, Part.written] using h
  | passThrough text => simpa [parts, expression?, Part.written] using h
  | now => simpa [parts, expression?, Part.written] using h
  | boolean value => cases value <;> simpa [parts, expression?, Part.written] using h
  | nextValue schema sequence =>
    simpa [parts, expression?, Part.written, ObjectName.text, String.append_assoc] using h
  | unsupported => cases h

namespace Emission

/-- The parts of the type of a created column: a domain of the catalog, or a type as it is. -/
def typeParts (k : Catalog) (t : Table) (c : Column) : List Part :=
  match domain? k.userTypes t.schema c.elementType with
  | some domain => Part.object ⟨domain.schema, domain.name⟩
  | none => [.raw (columnDefinition k t c).1.dataType]

theorem text_typeParts (k : Catalog) (t : Table) (c : Column) :
    Part.text (typeParts k t c) = (columnDefinition k t c).1.dataType := by
  unfold typeParts
  split
  · rename_i domain hdomain
    simp only [Part.text_object, columnDefinition, hdomain]
  · simp [Part.written]

/-- The parts of a created column. -/
def columnParts (k : Catalog) (t : Table) (c : Column) : List Part :=
  [.words "    ", .name c.name, .words " "] ++ typeParts k t c ++
    [.words " ", .words (Statement.nullability (columnDefinition k t c).1.nullable)]

theorem text_columnParts (k : Catalog) (t : Table) (c : Column) :
    Part.text (columnParts k t c) = Statement.columnLine (columnDefinition k t c).1 := by
  simp [columnParts, text_typeParts, Statement.columnLine, Part.written, String.append_assoc]

/-- The parts of the statement that creates a table. -/
def tableParts (k : Catalog) (t : Table) : List Part :=
  .words "CREATE TABLE " :: Part.object (tableName t) ++
    .words " (\n" :: Part.lines (t.columns.map (columnParts k t)) ++
      [.words ") ON ", .name "PRIMARY", .words ";"]

/-- The parts of the statement that adds the default of a column. -/
def defaultParts (t : Table) (c : Column) (d : DefaultValue) : List Part :=
  Part.constraint (tableName t) (defaultConstraint t c) ++ .words " DEFAULT (" :: d.parts ++
    [.words ") FOR ", .name c.name, .words ";"]

/-- A statement for a catalog with its parts, spelled out down to text of the source. -/
inductive Spelled (k : Catalog) : Statement → List Part → Prop
  | table {t : Table} (ht : t ∈ keptTables k) : Spelled k (tableStatement k t) (tableParts k t)
  | default {t : Table} {c : Column} {raw : String} {s : Statement} (ht : t ∈ keptTables k)
      (hc : c ∈ t.columns) (hraw : c.defaultExpr = some raw) (hs : s ∈ (addDefault t c).batch) :
      Spelled k s (defaultParts t c (.ofText t.schema raw))
  | other {s : Statement} (hs : s.takesText = false) : Spelled k s s.parts

/-- A default is added when the target has an expression for it and a name for its constraint. -/
theorem mem_addDefault {t : Table} {c : Column} {s : Statement} :
    s ∈ (addDefault t c).batch ↔ ∃ raw expression, c.defaultExpr = some raw ∧
      (DefaultValue.ofText t.schema raw).expression? = some expression ∧
        Identifier.isValid (defaultConstraint t c) = true ∧
          s = .addDefault (tableName t) (defaultConstraint t c) c.name expression := by
  unfold addDefault
  cases hraw : c.defaultExpr with
  | none => simp
  | some raw =>
    cases he : (DefaultValue.ofText t.schema raw).expression? with
    | none => simp [he, Emitted.skipped]
    | some expression =>
      have hvalid : nameReport? (t.ref c).fullName [defaultConstraint t c] = none ↔
          Identifier.isValid (defaultConstraint t c) = true := by
        simp [nameReport?_eq_none_iff, areWritable]
      cases hr : nameReport? (t.ref c).fullName [defaultConstraint t c] with
      | none => simp [he, hvalid.mp hr]
      | some report => simp [he, ← hvalid, hr, Emitted.skipped]

variable {k : Catalog} {s : Statement} {ps : List Part}

/-- The parts of a statement that is spelled out make up its text. -/
theorem Spelled.text_eq (h : Spelled k s ps) : Part.text ps = s.text := by
  cases h with
  | @table t ht =>
    have hlines := Part.text_lines (text_columnParts k t) t.columns
    have hcreate := Statement.text_parts (tableStatement k t)
    rw [← hcreate]
    simp only [tableParts, tableStatement, Statement.parts, Part.text_append, Part.text_cons,
      hlines, Part.text_columns]
  | @default t c raw _ ht hc hraw hs =>
    obtain ⟨raw', expression, hraw', he, -, rfl⟩ := mem_addDefault.mp hs
    obtain rfl : raw = raw' := Option.some.inj (hraw.symm.trans hraw')
    rw [← Statement.text_parts]
    simp only [defaultParts, Statement.parts, Part.text_append, Part.text_cons, Part.text_nil,
      DefaultValue.text_parts he, Part.written, String.append_empty, String.append_assoc]
  | other hs => exact Statement.text_parts s

/-- A default in the script that creates tables is one of a column of a created table. -/
theorem exists_of_addDefault_mem {options : EmitOptions} {table : ObjectName}
    {constraint column expression : String}
    (h : .addDefault table constraint column expression ∈
      (createTables options k).script.statements) :
    ∃ t ∈ keptTables k, ∃ c ∈ t.columns,
      .addDefault table constraint column expression ∈ (addDefault t c).batch := by
  rw [statements_createTables] at h
  simp only [tableStatements, tableOptions, tableStatement, detailStatements, describeColumns,
    describeTables, List.mem_append, List.mem_cons, List.mem_map, List.mem_flatMap,
    List.mem_filterMap, List.not_mem_nil] at h
  rcases h with (((he | he | he) | ⟨_, _, he⟩) | (⟨t, ht, c, hc, h⟩ | ⟨_, _, _, _, he⟩) | ⟨_, _, he⟩)
  · cases he
  · cases he
  · exact he.elim
  · cases he
  · exact ⟨t, ht, c, hc, h⟩
  · obtain ⟨_, _, he⟩ := Option.map_eq_some_iff.mp he
    cases he
  · obtain ⟨_, _, he⟩ := Option.map_eq_some_iff.mp he
    cases he

/-- Every statement that is rendered is spelled out. -/
theorem exists_spelled {options : EmitOptions} {kind : ArtifactKind}
    (h : s ∈ (scriptFor options k kind).script.rendered) : ∃ ps, Spelled k s ps := by
  by_cases ht : s.takesText = true
  · have hs : s ∈ (scriptFor options k kind).script.statements := by
      rcases Script.mem_rendered.mp h with ⟨name, _, rfl⟩ | rfl | hs | rfl
      · cases ht
      · cases ht
      · exact hs
      · cases ht
    cases s with
    | createTable name columns =>
      obtain ⟨t, ht, he⟩ := exists_of_createTable_mem hs
      exact ⟨tableParts k t, he ▸ Spelled.table ht⟩
    | addDefault table constraint column expression =>
      obtain rfl := Option.some.inj (purpose?_of_mem hs)
      obtain ⟨t, ht, c, hc, hbatch⟩ := exists_of_addDefault_mem hs
      obtain ⟨raw, _, hraw, _⟩ := mem_addDefault.mp hbatch
      exact ⟨_, .default ht hc hraw hbatch⟩
    | _ => cases ht
  · exact ⟨s.parts, .other (Bool.eq_false_iff.mpr ht)⟩

end Emission

end SchemaTransfer
