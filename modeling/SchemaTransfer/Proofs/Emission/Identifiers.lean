import SchemaTransfer.Conversion.Plan
import SchemaTransfer.Proofs.Build.Closure
import SchemaTransfer.Proofs.Emission.Spelling

/-!
# Names between brackets are usable

A name between brackets is usable when it is not empty, holds no null character and is not too
long. The names of schemas, tables, columns, constraints, indexes, domains and sequences are
looked at before the object is written. Four kinds of name are not: the database that a script
uses, a domain as the type of a column, a sequence in a default, and the key of an index. Main
statement: the names in the scripts are usable exactly when these four kinds of name are.
-/

namespace SchemaTransfer

namespace Part

@[simp] theorem bracketed_keys (columns : List IndexColumn) :
    (keys columns).flatMap bracketed = columns.map (·.name) := by
  simp [keys, flatMap_separated (f := bracketed) (fun _ => rfl), bracketed, List.flatMap_map,
    ← List.map_eq_flatMap]

@[simp] theorem bracketed_names (columns : List String) :
    (names columns).flatMap bracketed = columns := by
  simp [names, flatMap_separated (f := bracketed) (fun _ => rfl), bracketed, List.flatMap_map]

@[simp] theorem bracketed_actions (actions? : Option ActionClause) :
    (actions actions?).flatMap bracketed = [] := by
  cases actions? <;> rfl

@[simp] theorem bracketed_described (column : Option String) :
    (described column).flatMap bracketed = [] := by
  cases column <;> rfl

@[simp] theorem bracketed_object (n : ObjectName) : (object n).flatMap bracketed = n.names := rfl

@[simp] theorem bracketed_constraint (table : ObjectName) (name : String) :
    (constraint table name).flatMap bracketed = table.names ++ [name] := rfl

end Part

/-- A foreign key of the transformed catalog of any rows belongs to one of its tables. -/
theorem Catalog.hasTable_owner_transformed {rows : CatalogRows} {ending : String}
    {found : Cardinalities} {fk : ForeignKey}
    (h : fk ∈ ((build rows ending).catalog.transformed found).foreignKeys) :
    ((build rows ending).catalog.transformed found).hasTable fk.schema fk.table = true := by
  rw [foreignKeys_transformed] at h
  rw [hasTable_iff_mem_tableIds, tableIds_transformed, ← hasTable_iff_mem_tableIds]
  exact (List.mem_filter.mp (List.mem_filter.mp h).1).2

namespace Emission

/-- Every name between brackets in the scripts of a catalog is usable. -/
def NamesValid (options : EmitOptions) (k : Catalog) : Prop :=
  ∀ script ∈ (k.emit options).scripts, ∀ s ∈ script.rendered, ∀ ps, Spelled k s ps →
    areWritable (ps.flatMap Part.bracketed) = true

/-- The names that are written without being looked at are usable. -/
structure UncheckedValid (options : EmitOptions) (k : Catalog) : Prop where
  /-- The database that the scripts use. -/
  database : ∀ name, options.database = some name → Identifier.isValid name = true
  /-- A domain as the type of a written column. -/
  domain : ∀ t ∈ keptTables k, ∀ c ∈ t.columns, ∀ d,
    domain? k.userTypes t.schema c.elementType = some d → areWritable [d.schema, d.name] = true
  /-- A sequence in a written default. -/
  sequence : ∀ t ∈ keptTables k, ∀ c ∈ t.columns, ∀ raw schema sequence,
    c.defaultExpr = some raw → DefaultValue.ofText t.schema raw = .nextValue schema sequence →
      Identifier.isValid (defaultConstraint t c) = true → areWritable [schema, sequence] = true
  /-- The keys of a written index. -/
  key : ∀ t ∈ keptTables k, ∀ x ∈ k.indexes, x.schema = t.schema → x.table = t.name →
    Identifier.isValid (indexName x) = true → areWritable (x.columns.map (·.name)) = true

/-! ## Names by the statements that hold them -/

@[simp] theorem areWritable_append (names more : List String) :
    areWritable (names ++ more) = (areWritable names && areWritable more) :=
  List.all_append

@[simp] theorem areWritable_cons (name : String) (names : List String) :
    areWritable (name :: names) = (Identifier.isValid name && areWritable names) := rfl

@[simp] theorem areWritable_nil : areWritable [] = true := rfl

theorem areWritable_tableNames {k : Catalog} {t : Table} (h : t ∈ keptTables k) :
    areWritable (tableName t).names = true := by
  simp [ObjectName.names, tableName, isValid_of_mem_keptTables h]

theorem isValid_column {k : Catalog} {t : Table} (ht : t ∈ keptTables k) {c : Column}
    (hc : c ∈ t.columns) : Identifier.isValid c.name = true := by
  obtain ⟨hm, hr⟩ := mem_keptTables.mp ht
  have hnames := rejects_eq_false_iff.mp hr t hm rfl rfl
  have hmem : c.name ∈ tableNames t :=
    List.mem_cons_of_mem _ (List.mem_cons_of_mem _ (List.mem_map_of_mem hc))
  exact List.all_eq_true.mp hnames c.name hmem

/-- The names in the statement that creates a table. -/
theorem bracketed_tableParts (k : Catalog) (t : Table) :
    (tableParts k t).flatMap Part.bracketed = (tableName t).names ++
      (t.columns.flatMap fun c => c.name :: (typeParts k t c).flatMap Part.bracketed) ++
        ["PRIMARY"] := by
  simp [tableParts, columnParts, Part.flatMap_lines (f := Part.bracketed) (fun _ => rfl),
    Part.bracketed, List.flatMap_map]

/-- The names in the statement that adds a default. -/
theorem bracketed_defaultParts (t : Table) (c : Column) (d : DefaultValue) :
    (defaultParts t c d).flatMap Part.bracketed = (tableName t).names ++
      defaultConstraint t c :: d.parts.flatMap Part.bracketed ++ [c.name] := by
  simp [defaultParts, Part.bracketed]

theorem bracketed_typeParts_of_domain {k : Catalog} {t : Table} {c : Column} {d : UserType}
    (h : domain? k.userTypes t.schema c.elementType = some d) :
    (typeParts k t c).flatMap Part.bracketed = [d.schema, d.name] := by
  simp only [typeParts, h, Part.bracketed_object, ObjectName.names]

variable {options : EmitOptions} {k : Catalog} {s : Statement}

theorem areWritable_tableParts (h : UncheckedValid options k) {t : Table} (ht : t ∈ keptTables k) :
    areWritable ((tableParts k t).flatMap Part.bracketed) = true := by
  have hcolumns : areWritable (t.columns.flatMap fun c =>
      c.name :: (typeParts k t c).flatMap Part.bracketed) = true := by
    refine List.all_eq_true.mpr fun name hname => ?_
    obtain ⟨c, hc, hname⟩ := List.mem_flatMap.mp hname
    rcases List.mem_cons.mp hname with rfl | hname
    · exact isValid_column ht hc
    · cases hd : domain? k.userTypes t.schema c.elementType with
      | none => simp [typeParts, hd, Part.bracketed] at hname
      | some d =>
        rw [bracketed_typeParts_of_domain hd] at hname
        exact List.all_eq_true.mp (h.domain t ht c hc d hd) name hname
  have hstorage : Identifier.isValid "PRIMARY" = true := by decide
  simp [bracketed_tableParts, areWritable_tableNames ht, hcolumns, hstorage]

theorem areWritable_defaultParts (h : UncheckedValid options k) {t : Table} {c : Column}
    {raw : String} (ht : t ∈ keptTables k) (hc : c ∈ t.columns) (hraw : c.defaultExpr = some raw)
    (hs : s ∈ (addDefault t c).batch) :
    areWritable ((defaultParts t c (.ofText t.schema raw)).flatMap Part.bracketed) = true := by
  obtain ⟨_, _, _, _, hconstraint, _⟩ := mem_addDefault.mp hs
  have hvalue : areWritable
      ((DefaultValue.ofText t.schema raw).parts.flatMap Part.bracketed) = true := by
    cases hd : DefaultValue.ofText t.schema raw with
    | nextValue schema sequence =>
      exact h.sequence t ht c hc raw schema sequence hraw hd hconstraint
    | _ => rfl
  simp [bracketed_defaultParts, areWritable_tableNames ht, hconstraint, hvalue,
    isValid_column ht hc]

/-- A table that is there and is not rejected has a usable schema and a usable name. -/
theorem areWritable_of_hasTable {schema name : String} (ht : k.hasTable schema name = true)
    (hr : rejects k schema name = false) : areWritable [schema, name] = true := by
  obtain ⟨t, hm, he⟩ := exists_mem_keptTables ht hr
  have hnames := areWritable_tableNames hm
  rwa [he] at hnames

/-- The names in the statement that creates an index. -/
theorem areWritable_indexStatement (x : Index) :
    areWritable ((indexStatement x).parts.flatMap Part.bracketed) =
      (areWritable [x.schema, x.table] && Identifier.isValid (indexName x) &&
        areWritable (x.columns.map (·.name))) := by
  unfold indexStatement
  cases x.kind <;>
    simp [Statement.parts, Part.bracketed, ObjectName.names, Bool.and_assoc, Bool.and_left_comm,
      Bool.and_comm]

/-- The names in a statement that takes no text made elsewhere are looked at, but for the keys of
indexes. -/
theorem areWritable_parts (h : UncheckedValid options k)
    (howner : ∀ fk ∈ k.foreignKeys, k.hasTable fk.schema fk.table = true)
    (htarget : ∀ fk ∈ k.foreignKeys, k.hasTable fk.refSchema fk.refTable = true)
    {kind : ArtifactKind} (hs : s ∈ (scriptFor options k kind).script.statements)
    (htext : s.takesText = false) : areWritable (s.parts.flatMap Part.bracketed) = true := by
  cases kind with
  | createSchemas =>
    obtain ⟨name, _, hname, rfl⟩ := mem_createSchemas.mp hs
    simp [Statement.parts, Part.bracketed, hname]
  | createTypes =>
    rcases mem_createTypes.mp hs with ⟨u, _, hnames, hs⟩ | ⟨q, _, hnames, rfl⟩
    · obtain rfl := List.mem_singleton.mp hs
      simpa [Statement.parts, Part.bracketed, ObjectName.names] using hnames
    · simpa [Statement.parts, Part.bracketed, ObjectName.names, sequenceDefinition] using hnames
  | dropTypes =>
    rcases mem_dropTypes.mp hs with ⟨q, _, hnames, rfl⟩ | ⟨u, _, hnames, rfl⟩
    · obtain ⟨hschema, hname⟩ := Bool.and_eq_true_iff.mp hnames
      simp [Statement.parts, Part.bracketed, ObjectName.names, hschema, hname]
    · obtain ⟨hschema, hname⟩ := Bool.and_eq_true_iff.mp hnames
      simp [Statement.parts, Part.bracketed, ObjectName.names, hschema, hname]
  | createTables =>
    rcases List.mem_append.mp (statements_createTables options k ▸ hs) with hs | hs
    · rcases List.mem_append.mp hs with hs | hs
      · simp only [tableOptions, List.mem_cons, List.not_mem_nil, or_false] at hs
        rcases hs with rfl | rfl <;> rfl
      · obtain ⟨t, _, rfl⟩ := List.mem_map.mp hs
        cases htext
    · obtain ⟨t, ht, ⟨c, _, _, rfl⟩ | ⟨c, _, _, rfl⟩ | ⟨_, rfl⟩⟩ := cases_of_mem_detailStatements hs
      · cases htext
      · simp [Statement.parts, Part.bracketed]
      · simp [Statement.parts, Part.bracketed]
  | dropTables =>
    rcases mem_dropTables.mp hs with ⟨fk, hfk, hemit, rfl⟩ | ⟨t, ht, rfl⟩
    · simp only [isEmittable, Bool.and_eq_true, Bool.not_eq_true'] at hemit
      obtain ⟨⟨hkept, _⟩, hname⟩ := hemit
      obtain ⟨hschema, htable⟩ : Identifier.isValid fk.schema = true ∧
          Identifier.isValid fk.table = true := by
        simpa using areWritable_of_hasTable (howner fk hfk) hkept
      simp [Statement.parts, Part.bracketed, ObjectName.names, hschema, htable, hname]
    · simp [Statement.parts, Part.bracketed, areWritable_tableNames ht]
  | truncateTables =>
    obtain ⟨t, ht, rfl⟩ := mem_truncateTables.mp hs
    simp [Statement.parts, Part.bracketed, areWritable_tableNames ht]
  | createIndexes =>
    obtain ⟨t, ht, x, hx, hschema, htable, hname, rfl⟩ := mem_createIndexes.mp hs
    have hkeys := h.key t ht x hx hschema htable hname
    have hnames : areWritable [x.schema, x.table] = true := by
      rw [hschema, htable]
      exact areWritable_tableNames ht
    rw [areWritable_indexStatement, hnames, hname, hkeys]
    rfl
  | createForeignKeys =>
    obtain ⟨t, ht, fk, hfk, _, _, hemit, hnames, rfl⟩ := mem_createForeignKeys.mp hs
    simp only [isEmittable, Bool.and_eq_true, Bool.not_eq_true'] at hemit
    obtain ⟨⟨hkept, hrefKept⟩, _⟩ := hemit
    have htable := areWritable_of_hasTable (howner fk hfk) hkept
    have hrefTable := areWritable_of_hasTable (htarget fk hfk) hrefKept
    simp only [foreignKeyNames, areWritable_cons, areWritable_append, Bool.and_eq_true] at hnames
    obtain ⟨hname, hcolumns, hrefColumns⟩ := hnames
    have hparts : (foreignKeyStatement options fk).parts.flatMap Part.bracketed =
        [fk.schema, fk.table] ++ (fk.name :: fk.columns) ++ [fk.refSchema, fk.refTable] ++
          fk.refColumns := by
      simp [foreignKeyStatement, Statement.parts, Part.bracketed, ObjectName.names]
    simp only [hparts, areWritable_append, Bool.and_eq_true]
    exact ⟨⟨⟨htable, Bool.and_eq_true_iff.mpr ⟨hname, hcolumns⟩⟩, hrefTable⟩, hrefColumns⟩

/-! ## Main statement -/

theorem database_scriptFor (options : EmitOptions) (k : Catalog) (kind : ArtifactKind) :
    (scriptFor options k kind).script.database = options.database := by
  cases kind <;> rfl

/-- The scripts of a catalog with tables, one for each purpose. -/
theorem namesValid_iff_scriptFor (hk : k.isEmpty = false) :
    NamesValid options k ↔ ∀ kind, ∀ s ∈ (scriptFor options k kind).script.rendered, ∀ ps,
      Spelled k s ps → areWritable (ps.flatMap Part.bracketed) = true := by
  have hall : ∀ kind, kind ∈ ArtifactKind.all := by
    intro kind
    cases kind <;> decide
  simp only [NamesValid, scripts_emit options hk, List.mem_map, forall_exists_index, and_imp,
    forall_apply_eq_imp_iff₂]
  exact ⟨fun h kind => h kind (hall kind), fun h kind _ => h kind⟩

/-- Where the names in the scripts are usable, so are those that were not looked at. -/
theorem UncheckedValid.of_namesValid (hk : k.isEmpty = false) (h : NamesValid options k) :
    UncheckedValid options k where
  database name hname := by
    have hs : .useDatabase name ∈ (scriptFor options k .createSchemas).script.rendered :=
      Script.mem_rendered.mpr (Or.inl ⟨name, (database_scriptFor ..).trans hname, rfl⟩)
    have hvalid := (namesValid_iff_scriptFor hk).mp h _ _ hs _ (.other rfl)
    simpa [Statement.parts, Part.bracketed] using hvalid
  domain t ht c hc d hd := by
    have hs : tableStatement k t ∈ (scriptFor options k .createTables).script.rendered := by
      refine Script.mem_rendered.mpr (Or.inr (Or.inr (Or.inl ?_)))
      rw [scriptFor, statements_createTables]
      exact List.mem_append_left _ (List.mem_append_right _ (List.mem_map_of_mem ht))
    have hvalid := (namesValid_iff_scriptFor hk).mp h _ _ hs _ (.table ht)
    refine List.all_eq_true.mpr fun name hname => List.all_eq_true.mp hvalid name ?_
    rw [bracketed_tableParts]
    refine List.mem_append_left _ (List.mem_append_right _ (List.mem_flatMap.mpr ⟨c, hc, ?_⟩))
    rw [bracketed_typeParts_of_domain hd]
    exact List.mem_cons_of_mem _ hname
  sequence t ht c hc raw schema sequence hraw hd hconstraint := by
    obtain ⟨expression, he⟩ : ∃ expression,
        (DefaultValue.nextValue schema sequence).expression? = some expression := ⟨_, rfl⟩
    have hbatch : .addDefault (tableName t) (defaultConstraint t c) c.name expression ∈
        (addDefault t c).batch :=
      mem_addDefault.mpr ⟨raw, expression, hraw, hd ▸ he, hconstraint, rfl⟩
    have hs : .addDefault (tableName t) (defaultConstraint t c) c.name expression ∈
        (scriptFor options k .createTables).script.rendered := by
      refine Script.mem_rendered.mpr (Or.inr (Or.inr (Or.inl ?_)))
      rw [scriptFor, statements_createTables, detailStatements]
      refine List.mem_append_right _ (List.mem_append_left _ (List.mem_append_left _ ?_))
      exact List.mem_flatMap.mpr ⟨t, ht, List.mem_flatMap.mpr ⟨c, hc, hbatch⟩⟩
    have hvalid := (namesValid_iff_scriptFor hk).mp h _ _ hs _ (.default ht hc hraw hbatch)
    rw [bracketed_defaultParts, hd] at hvalid
    refine List.all_eq_true.mpr fun name hname => List.all_eq_true.mp hvalid name ?_
    exact List.mem_append_left _ (List.mem_append_right _ (List.mem_cons_of_mem _ hname))
  key t ht x hx hschema htable hname := by
    have hs : indexStatement x ∈ (scriptFor options k .createIndexes).script.rendered :=
      Script.mem_rendered.mpr (Or.inr (Or.inr (Or.inl
        (mem_createIndexes.mpr ⟨t, ht, x, hx, hschema, htable, hname, rfl⟩))))
    have htext : (indexStatement x).takesText = false := by
      unfold indexStatement
      cases x.kind <;> rfl
    have hvalid := (namesValid_iff_scriptFor hk).mp h _ _ hs _ (.other htext)
    rw [areWritable_indexStatement] at hvalid
    exact (Bool.and_eq_true_iff.mp hvalid).2

/-- Where the names that are not looked at are usable, so are all names in the scripts. -/
theorem NamesValid.of_uncheckedValid (h : UncheckedValid options k)
    (howner : ∀ fk ∈ k.foreignKeys, k.hasTable fk.schema fk.table = true)
    (htarget : ∀ fk ∈ k.foreignKeys, k.hasTable fk.refSchema fk.refTable = true)
    (hk : k.isEmpty = false) : NamesValid options k := by
  refine (namesValid_iff_scriptFor hk).mpr fun kind s hs ps hps => ?_
  cases hps with
  | table ht => exact areWritable_tableParts h ht
  | default ht hc hraw hbatch => exact areWritable_defaultParts h ht hc hraw hbatch
  | other htext =>
    rcases Script.mem_rendered.mp hs with ⟨name, hname, rfl⟩ | rfl | hs | rfl
    · have hvalid := h.database name ((database_scriptFor options k kind).symm.trans hname)
      simp [Statement.parts, Part.bracketed, hvalid]
    · rfl
    · exact areWritable_parts h howner htarget hs htext
    · rfl

/-- A catalog without tables has no scripts. -/
theorem scripts_emit_of_isEmpty (options : EmitOptions) (hk : k.isEmpty = true) :
    (k.emit options).scripts = [] := by
  simp [Catalog.emit, hk]

/-- Each statement in the scripts for a catalog built of any rows and transformed under any
cardinalities is spelled out by parts that make up its text. All names between brackets in them
are usable exactly when the catalog has no tables, or those are that are not looked at: the
database that the scripts use, the domains that columns have as types, the sequences in defaults,
and the keys of indexes. -/
theorem namesValid_iff_uncheckedValid (rows : CatalogRows) (ending : String)
    (found : Cardinalities) (options : EmitOptions) :
    let k := (Catalog.build rows ending).catalog.transformed found
    (∀ script ∈ (k.emit options).scripts, ∀ s ∈ script.rendered, ∃ ps, Spelled k s ps) ∧
      (∀ s ps, Spelled k s ps → Part.text ps = s.text) ∧
      (NamesValid options k ↔ k.isEmpty = true ∨ UncheckedValid options k) := by
  intro k
  have htarget := ((Catalog.isClosed_build rows ending).transformed found).target
  cases hk : k.isEmpty with
  | true =>
    have hscripts := scripts_emit_of_isEmpty options hk
    exact ⟨by simp [hscripts], fun s ps h => h.text_eq, by simp [NamesValid, hscripts]⟩
  | false =>
    refine ⟨fun script hscript s hs => ?_, fun s ps h => h.text_eq,
      fun h => Or.inr (.of_namesValid hk h), fun h => ?_⟩
    · rw [scripts_emit options hk] at hscript
      obtain ⟨kind, _, rfl⟩ := List.mem_map.mp hscript
      exact exists_spelled hs
    · rcases h with h | h
      · cases h
      · exact .of_uncheckedValid h (fun fk hfk => Catalog.hasTable_owner_transformed hfk) htarget hk

/-- Rows of a table with an index over a column without a name. -/
def blankKeyRows : CatalogRows where
  columns := [
    { schema := "s", table := "t", column := "a", ordinal := 1, regtype := "integer"
      isNullable := true }]
  indexes := [
    { schema := "s", table := "t", indexName := "i", isPrimary := false, isUnique := false
      column := some "", columnPosition := 1 }]

/-- The index is created over `[]`. -/
theorem not_namesValid_blankKey :
    let k := (Catalog.build blankKeyRows "").catalog.transformed .empty
    plainSettings.fault? = none ∧
      .createIndex ⟨⟨"s", "t"⟩, "i", [⟨"", .asc⟩]⟩ ∈
        (createIndexes plainSettings.emitOptions k).script.statements ∧
      ¬ NamesValid plainSettings.emitOptions k := by
  intro k
  have hk : k.isEmpty = false := by decide
  refine ⟨by decide, by decide, fun h => ?_⟩
  exact absurd (UncheckedValid.of_namesValid hk h).key (by decide)

end Emission

end SchemaTransfer
