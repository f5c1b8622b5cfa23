import Mathlib.Logic.Basic
import SchemaTransfer.Emission.Catalog

/-!
# What the scripts of a catalog hold

A statement of a script comes from one object of the catalog whose names can be written. For each
script there is one membership statement; what is proved about written statements starts from
these and leaves the making of batches alone.
-/

namespace SchemaTransfer

/-- Leaving empty batches out loses no statement. -/
theorem Script.statements_ofBatches (kind : ArtifactKind) (database : Option String)
    (batches : List (List Statement)) :
    (Script.ofBatches kind database batches).statements = batches.flatten :=
  List.flatten_filter_not_isEmpty

/-- A script holds the statements of its parts, in their order. -/
@[simp] theorem EmittedScript.statements_ofParts (kind : ArtifactKind) (options : EmitOptions)
    (parts : List Emitted) :
    (EmittedScript.ofParts kind options parts).script.statements = parts.flatMap (·.batch) := by
  simp only [EmittedScript.ofParts, Script.statements_ofBatches, List.flatMap_def]

@[simp] theorem EmittedScript.reported_ofParts (kind : ArtifactKind) (options : EmitOptions)
    (parts : List Emitted) :
    (EmittedScript.ofParts kind options parts).reported = parts.flatMap (·.reported) := rfl

/-- The purpose that a statement serves. What is put around the batches of every script serves
none. -/
def Statement.purpose? : Statement → Option ArtifactKind
  | createSchema _ => some .createSchemas
  | createType _ _ _ | createSequence _ => some .createTypes
  | dropType _ | dropSequence _ => some .dropTypes
  | setOption _ _ | createTable _ _ | addDefault _ _ _ _ | addDescription _ _ _ =>
    some .createTables
  | dropTable _ | dropForeignKey _ _ => some .dropTables
  | truncateTable _ => some .truncateTables
  | addPrimaryKey _ | addUnique _ | createIndex _ => some .createIndexes
  | addForeignKey _ => some .createForeignKeys
  | useDatabase _ | beginTransaction | commitTransaction => none

namespace Emission

/-! ## Names that can be written -/

/-- Whether every name of a list can be written. -/
def areWritable (names : List String) : Bool := names.all Identifier.isValid

/-- A report is made exactly when some name cannot be written. -/
theorem nameReport?_eq_none_iff {object : String} {names : List String} :
    nameReport? object names = none ↔ areWritable names = true := by
  simp only [nameReport?, Option.map_eq_none_iff, Identifier.firstFault?_eq_none_iff, areWritable,
    List.all_eq_true]

/-- A report on names is about the object that bears them. -/
theorem object_of_nameReport? {object : String} {names : List String} {d : Diagnostic}
    (h : nameReport? object names = some d) : d.object = object := by
  obtain ⟨fault, _, rfl⟩ := Option.map_eq_some_iff.mp h
  rfl

/-- A part that is written when the names it needs can be; otherwise the report on them. -/
def ifWritable (object : String) (names : List String) (part : Emitted) : Emitted :=
  match nameReport? object names with
  | some report => .skipped report
  | none => part

theorem ifWritable_of_writable {names : List String} (h : areWritable names = true)
    (object : String) (part : Emitted) : ifWritable object names part = part := by
  simp only [ifWritable, nameReport?_eq_none_iff.mpr h]

/-- A part that is not written leaves one report, on its object. -/
theorem ifWritable_of_not_writable {names : List String} (h : areWritable names = false)
    (object : String) (part : Emitted) :
    ∃ d : Diagnostic, d.object = object ∧ ifWritable object names part = .skipped d := by
  cases hr : nameReport? object names with
  | none =>
    rw [nameReport?_eq_none_iff.mp hr] at h
    cases h
  | some d => exact ⟨d, object_of_nameReport? hr, by simp only [ifWritable, hr]⟩

@[simp] theorem batch_ifWritable (object : String) (names : List String) (part : Emitted) :
    (ifWritable object names part).batch = if areWritable names then part.batch else [] := by
  cases h : areWritable names with
  | true => simp [ifWritable_of_writable h]
  | false =>
    obtain ⟨d, _, hd⟩ := ifWritable_of_not_writable h object part
    simp [hd, Emitted.skipped]

@[simp] theorem batch_statement (s : Statement) : (Emitted.statement s).batch = [s] := rfl

@[simp] theorem batch_gather (parts : List Emitted) :
    (Emitted.gather parts).batch = parts.flatMap (·.batch) := rfl

@[simp] theorem reported_gather (parts : List Emitted) :
    (Emitted.gather parts).reported = parts.flatMap (·.reported) := rfl

/-- Every name of a table: its own two and those of its columns. -/
def tableNames (t : Table) : List String := t.schema :: t.name :: t.columnNames

/-- A table is not rejected exactly when all names of the tables called so can be written. -/
theorem rejects_eq_false_iff {k : Catalog} {schema name : String} :
    rejects k schema name = false ↔ ∀ t ∈ k.tables, t.schema = schema → t.name = name →
      areWritable (tableNames t) = true := by
  simp only [rejects, List.any_eq_false, Bool.and_eq_true, not_and, Table.isNamed_iff,
    Option.isSome_iff_ne_none, ne_eq, not_not, tableReport?, nameReport?_eq_none_iff, and_imp,
    tableNames]

/-- The schema and the name of a kept table can be written. -/
theorem isValid_of_mem_keptTables {k : Catalog} {t : Table} (h : t ∈ keptTables k) :
    Identifier.isValid t.schema = true ∧ Identifier.isValid t.name = true := by
  obtain ⟨ht, hr⟩ := mem_keptTables.mp h
  have hn := rejects_eq_false_iff.mp hr t ht rfl rfl
  simp only [areWritable, tableNames, List.all_cons, Bool.and_eq_true] at hn
  exact ⟨hn.1, hn.2.1⟩

/-- A table that is there and is not rejected is kept. -/
theorem exists_mem_keptTables {k : Catalog} {schema name : String}
    (ht : k.hasTable schema name = true) (hr : rejects k schema name = false) :
    ∃ t ∈ keptTables k, tableName t = ⟨schema, name⟩ := by
  obtain ⟨t, hm, rfl, rfl⟩ := (k.hasTable_iff schema name).mp ht
  exact ⟨t, mem_keptTables.mpr ⟨hm, hr⟩, rfl⟩

/-! ## Parts by the names they need -/

theorem createSchema_eq (name : String) :
    createSchema name = ifWritable name [name] (.statement (.createSchema name)) := rfl

/-- The part of a domain whose names can be written. -/
def typePart (t : UserType) : Emitted :=
  let mapping := TypeMapping.ofName t.baseType
  { batch := [.createType ⟨t.schema, t.name⟩
      (TypeName.sized mapping.target t.maxCharSize t.numericPrecision t.numericScale) t.notNull]
    reported := unmappable t.fullName mapping }

theorem createType_eq (t : UserType) :
    createType t = ifWritable t.fullName [t.schema, t.name] (typePart t) := rfl

theorem createSequence_eq (s : Sequence) :
    createSequence s = ifWritable s.fullName [s.schema, s.name]
      (.statement (.createSequence (sequenceDefinition s))) := rfl

theorem createIndex_eq (x : Index) :
    createIndex x = ifWritable x.fullName [indexName x] (.statement (indexStatement x)) := rfl

/-- The statement that adds a foreign key. -/
def foreignKeyStatement (options : EmitOptions) (fk : ForeignKey) : Statement :=
  .addForeignKey
    { table := ⟨fk.schema, fk.table⟩
      constraint := fk.name
      columns := fk.columns
      referenced := ⟨fk.refSchema, fk.refTable⟩
      refColumns := fk.refColumns
      actions := actionClause options.actions fk }

theorem addForeignKey_eq (options : EmitOptions) (t : Table) (fk : ForeignKey) :
    addForeignKey options t fk = ifWritable (t.fullName ++ "." ++ fk.name) (foreignKeyNames fk)
      (.statement (foreignKeyStatement options fk)) := rfl

/-- The statement that creates a table. -/
def tableStatement (k : Catalog) (t : Table) : Statement :=
  .createTable (tableName t) (t.columns.map fun c => (columnDefinition k t c).1)

theorem batch_createTable (k : Catalog) (t : Table) :
    (createTable k t).batch = [tableStatement k t] := by
  simp only [createTable, tableStatement, List.map_map, Function.comp_def]

/-- A created column keeps its name, whether its type is a domain or not. -/
@[simp] theorem name_columnDefinition (k : Catalog) (t : Table) (c : Column) :
    (columnDefinition k t c).1.name = c.name := by
  unfold columnDefinition
  split <;> rfl

/-- A column without a default adds nothing. Any other adds one statement or leaves one report, on
the column. -/
theorem addDefault_cases (t : Table) (c : Column) :
    (c.defaultExpr = none ∧ addDefault t c = {}) ∨
      (c.defaultExpr.isSome = true ∧ ∃ expression, addDefault t c =
        .statement (.addDefault (tableName t) (defaultConstraint t c) c.name expression)) ∨
      (c.defaultExpr.isSome = true ∧ ∃ d : Diagnostic, d.object = (t.ref c).fullName ∧
        addDefault t c = .skipped d) := by
  unfold addDefault
  cases c.defaultExpr with
  | none => exact Or.inl ⟨rfl, rfl⟩
  | some raw =>
    refine Or.inr ?_
    cases he : (DefaultValue.ofText t.schema raw).expression? with
    | none => exact Or.inr ⟨rfl, unsupportedDefault (t.ref c).fullName raw, rfl, by simp only [he]⟩
    | some expression =>
      cases hr : nameReport? (t.ref c).fullName [defaultConstraint t c] with
      | none => exact Or.inl ⟨rfl, expression, by simp only [he]⟩
      | some d => exact Or.inr ⟨rfl, d, object_of_nameReport? hr, by simp only [he]⟩

/-! ## The statements of each script -/

variable {options : EmitOptions} {k : Catalog} {s : Statement}

theorem mem_createSchemas :
    s ∈ (createSchemas options k).script.statements ↔
      ∃ name ∈ k.schemas, Identifier.isValid name = true ∧ s = .createSchema name := by
  simp [createSchemas, createSchema_eq, areWritable]

theorem mem_createTypes :
    s ∈ (createTypes options k).script.statements ↔
      (∃ t ∈ k.userTypes, areWritable [t.schema, t.name] = true ∧ s ∈ (typePart t).batch) ∨
        ∃ q ∈ k.sequences, areWritable [q.schema, q.name] = true ∧
          s = .createSequence (sequenceDefinition q) := by
  simp [createTypes, createType_eq, createSequence_eq]

/-- The statements that create the tables, after the options under which they do so. -/
def tableStatements (k : Catalog) : List Statement :=
  tableOptions.batch ++ (keptTables k).map (tableStatement k)

/-- The statements that give the created tables their defaults and their descriptions. -/
def detailStatements (k : Catalog) : List Statement :=
  (keptTables k).flatMap (fun t => t.columns.flatMap fun c => (addDefault t c).batch) ++
    (keptTables k).flatMap (fun t => (describeColumns t).batch) ++
      (describeTables (keptTables k)).batch

/-- All tables come before the first default or description. -/
theorem statements_createTables (options : EmitOptions) (k : Catalog) :
    (createTables options k).script.statements = tableStatements k ++ detailStatements k := by
  simp only [createTables, tableStatements, detailStatements, EmittedScript.statements_ofParts,
    List.flatMap_append, List.flatMap_map, List.flatMap_cons, List.flatMap_nil, batch_createTable,
    addDefaults, batch_gather, List.append_nil, List.append_assoc, ← List.map_eq_flatMap]

/-- A default or a description is one of a column of a created table, or describes the table. -/
theorem cases_of_mem_detailStatements (h : s ∈ detailStatements k) : ∃ t ∈ keptTables k,
    (∃ c ∈ t.columns, ∃ expression,
      s = .addDefault (tableName t) (defaultConstraint t c) c.name expression) ∨
    (∃ c ∈ t.columns, ∃ text, s = .addDescription (tableName t) (some c.name) text) ∨
    ∃ text, s = .addDescription (tableName t) none text := by
  simp only [detailStatements, List.mem_append, List.mem_flatMap, describeColumns, describeTables,
    List.mem_filterMap, Option.map_eq_some_iff] at h
  rcases h with (⟨t, ht, c, hc, h⟩ | ⟨t, ht, c, hc, text, _, rfl⟩) | ⟨t, ht, text, _, rfl⟩
  · refine ⟨t, ht, Or.inl ⟨c, hc, ?_⟩⟩
    rcases addDefault_cases t c with ⟨_, he⟩ | ⟨_, expression, he⟩ | ⟨_, d, _, he⟩
    · simp [he] at h
    · exact ⟨expression, by simpa [he] using h⟩
    · simp [he, Emitted.skipped] at h
  · exact ⟨t, ht, Or.inr (Or.inl ⟨c, hc, text, rfl⟩)⟩
  · exact ⟨t, ht, Or.inr (Or.inr ⟨text, rfl⟩)⟩

theorem mem_createIndexes :
    s ∈ (createIndexes options k).script.statements ↔
      ∃ t ∈ keptTables k, ∃ x ∈ k.indexes, x.schema = t.schema ∧ x.table = t.name ∧
        Identifier.isValid (indexName x) = true ∧ s = indexStatement x := by
  simp [createIndexes, createIndexesOf, createIndex_eq, areWritable, List.flatMap_map, and_assoc]

theorem mem_createForeignKeys :
    s ∈ (createForeignKeys options k).script.statements ↔
      ∃ t ∈ k.tables, ∃ fk ∈ k.foreignKeys, fk.schema = t.schema ∧ fk.table = t.name ∧
        isEmittable k fk = true ∧ areWritable (foreignKeyNames fk) = true ∧
          s = foreignKeyStatement options fk := by
  simp [createForeignKeys, addForeignKeysOf, addForeignKey_eq, List.flatMap_map, and_assoc]

theorem mem_dropTypes :
    s ∈ (dropTypes options k).script.statements ↔
      (∃ q ∈ k.sequences, isWritable q.schema q.name = true ∧
        s = .dropSequence ⟨q.schema, q.name⟩) ∨
        ∃ t ∈ k.userTypes, isWritable t.schema t.name = true ∧ s = .dropType ⟨t.schema, t.name⟩ := by
  simp [dropTypes, and_assoc, @eq_comm _ s]

theorem mem_dropTables :
    s ∈ (dropTables options k).script.statements ↔
      (∃ fk ∈ k.foreignKeys, isEmittable k fk = true ∧
        s = .dropForeignKey ⟨fk.schema, fk.table⟩ fk.name) ∨
        ∃ t ∈ keptTables k, s = .dropTable (tableName t) := by
  simp [dropTables, and_assoc, @eq_comm _ s]

theorem mem_truncateTables :
    s ∈ (truncateTables options k).script.statements ↔
      ∃ t ∈ keptTables k, s = .truncateTable (tableName t) := by
  simp [truncateTables, @eq_comm _ s]

/-! ## The scripts of a catalog -/

/-- The script of each purpose. -/
def scriptFor (options : EmitOptions) (k : Catalog) : ArtifactKind → EmittedScript
  | .createSchemas => createSchemas options k
  | .createTypes => createTypes options k
  | .dropTypes => dropTypes options k
  | .createTables => createTables options k
  | .dropTables => dropTables options k
  | .truncateTables => truncateTables options k
  | .createIndexes => createIndexes options k
  | .createForeignKeys => createForeignKeys options k

theorem kind_scriptFor (options : EmitOptions) (k : Catalog) (kind : ArtifactKind) :
    (scriptFor options k kind).script.kind = kind := by
  cases kind <;> rfl

/-- The statements of a script serve its own purpose. -/
theorem purpose?_of_mem {kind : ArtifactKind}
    (h : s ∈ (scriptFor options k kind).script.statements) : s.purpose? = some kind := by
  cases kind with
  | createSchemas =>
    obtain ⟨_, _, _, rfl⟩ := mem_createSchemas.mp h
    rfl
  | createTypes =>
    rcases mem_createTypes.mp h with ⟨_, _, _, hs⟩ | ⟨_, _, _, rfl⟩
    · obtain rfl := List.mem_singleton.mp hs
      rfl
    · rfl
  | createTables =>
    rcases List.mem_append.mp (statements_createTables options k ▸ h) with h | h
    · rcases List.mem_append.mp h with h | h
      · simp only [tableOptions, List.mem_cons, List.not_mem_nil, or_false] at h
        rcases h with rfl | rfl <;> rfl
      · obtain ⟨_, _, rfl⟩ := List.mem_map.mp h
        rfl
    · obtain ⟨_, _, ⟨_, _, _, rfl⟩ | ⟨_, _, _, rfl⟩ | ⟨_, rfl⟩⟩ :=
        cases_of_mem_detailStatements h <;> rfl
  | createIndexes =>
    obtain ⟨_, _, x, _, _, _, _, rfl⟩ := mem_createIndexes.mp h
    unfold indexStatement
    cases x.kind <;> rfl
  | createForeignKeys =>
    obtain ⟨_, _, _, _, _, _, _, _, rfl⟩ := mem_createForeignKeys.mp h
    rfl
  | dropTypes =>
    rcases mem_dropTypes.mp h with ⟨_, _, _, rfl⟩ | ⟨_, _, _, rfl⟩ <;> rfl
  | dropTables =>
    rcases mem_dropTables.mp h with ⟨_, _, _, rfl⟩ | ⟨_, _, rfl⟩ <;> rfl
  | truncateTables =>
    obtain ⟨_, _, rfl⟩ := mem_truncateTables.mp h
    rfl

/-- Whatever script it is in, a statement that creates a table is the one of a kept table. -/
theorem exists_of_createTable_mem {name : ObjectName} {columns : List ColumnDefinition}
    {kind : ArtifactKind}
    (h : .createTable name columns ∈ (scriptFor options k kind).script.statements) :
    ∃ t ∈ keptTables k, tableStatement k t = .createTable name columns := by
  obtain rfl := Option.some.inj (purpose?_of_mem h)
  rcases List.mem_append.mp (statements_createTables options k ▸ h) with h | h
  · rcases List.mem_append.mp h with h | h
    · simp [tableOptions] at h
    · exact List.mem_map.mp h
  · obtain ⟨_, _, ⟨_, _, _, he⟩ | ⟨_, _, _, he⟩ | ⟨_, he⟩⟩ := cases_of_mem_detailStatements h <;>
      cases he

/-- A catalog with tables yields one script for each purpose, in the order of the purposes. -/
theorem scripts_emit (options : EmitOptions) (hk : k.isEmpty = false) :
    (k.emit options).scripts =
      ArtifactKind.all.map fun kind => (scriptFor options k kind).script := by
  simp only [Catalog.emit, hk, Bool.false_eq_true, if_false]
  rfl

/-- What is reported on a catalog with tables: the rejected tables first, then what the scripts
report. -/
theorem diagnostics_emit (options : EmitOptions) (hk : k.isEmpty = false) :
    (k.emit options).diagnostics = k.tables.filterMap tableReport? ++
      ArtifactKind.all.flatMap fun kind => (scriptFor options k kind).reported := by
  simp only [Catalog.emit, hk, Bool.false_eq_true, if_false]
  rfl

theorem script?_emit (options : EmitOptions) (hk : k.isEmpty = false) (kind : ArtifactKind) :
    (k.emit options).script? kind = some (scriptFor options k kind).script := by
  have hp : ((fun s : Script => decide (s.kind = kind)) ∘
      fun kind => (scriptFor options k kind).script) = fun other => decide (other = kind) := by
    funext other
    simp only [Function.comp_apply, kind_scriptFor]
  rw [EmittedCatalog.script?, scripts_emit options hk, List.find?_map, hp]
  cases kind <;> rfl

end Emission

end SchemaTransfer
