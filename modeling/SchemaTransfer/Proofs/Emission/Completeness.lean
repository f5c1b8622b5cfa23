import Mathlib.Data.List.Nodup
import SchemaTransfer.Proofs.Conversion.Frame
import SchemaTransfer.Proofs.Emission.Accounting

/-!
# No object is lost

The parts of a script account for its objects, and the scripts for what they are about. Indexes and
foreign keys are written table by table, and each belongs to one table, so none is met twice. One
kind of object escapes: a foreign key whose own name cannot be written is left out before it is
looked at, and leaves neither a statement nor a report. Everything is accounted for exactly when
something else happens to be reported under the name of each such key.
-/

namespace SchemaTransfer.Emission

/-! ## Objects in the order of their tables -/

/-- Members grouped by their owners, each owner listed once, are the same members. -/
private theorem perm_flatMap_owned {α β : Type} [DecidableEq β] {owners : List β}
    (hnodup : owners.Nodup) {xs : List α} {owner : α → β} (howned : ∀ x ∈ xs, owner x ∈ owners) :
    (owners.flatMap fun i => xs.filter fun x => decide (owner x = i)).Perm xs := by
  induction owners generalizing xs with
  | nil =>
    cases xs with
    | nil => exact List.Perm.refl _
    | cons x xs => exact absurd (howned x List.mem_cons_self) List.not_mem_nil
  | cons i owners ih =>
    obtain ⟨hi, hnodup⟩ := List.nodup_cons.mp hnodup
    have hrest : (owners.flatMap fun j => xs.filter fun x => decide (owner x = j)).Perm
        (xs.filter fun x => !decide (owner x = i)) := by
      have hgroup : ∀ j ∈ owners, (xs.filter fun x => decide (owner x = j)) =
          (xs.filter fun x => !decide (owner x = i)).filter fun x => decide (owner x = j) := by
        intro j hj
        have hne : j ≠ i := fun he => hi (he ▸ hj)
        rw [List.filter_filter]
        refine List.filter_congr fun x _ => ?_
        by_cases he : owner x = j
        · simp [he, hne]
        · simp [he]
      rw [List.flatMap_congr hgroup]
      refine ih hnodup fun x hx => ?_
      obtain ⟨hx, hne⟩ := List.mem_filter.mp hx
      rcases List.mem_cons.mp (howned x hx) with he | hmem
      · simp [he] at hne
      · exact hmem
    rw [List.flatMap_cons]
    exact (hrest.append_left _).trans (List.filter_append_perm _ xs)

/-- Members that belong to one of several tables, taken table by table, are the same members. -/
private theorem perm_flatMap_belonging {α : Type} {ts : List Table}
    (hids : (ts.map tableName).Nodup) {xs : List α} {schema table : α → String}
    (howned : ∀ x ∈ xs, ⟨schema x, table x⟩ ∈ ts.map tableName) :
    (ts.flatMap fun t => xs.filter fun x => schema x == t.schema && table x == t.name).Perm xs := by
  have hperm := perm_flatMap_owned hids howned
  have hsame : ∀ t : Table, (fun x => decide (ObjectName.mk (schema x) (table x) = tableName t)) =
      fun x => schema x == t.schema && table x == t.name := by
    intro t
    funext x
    rw [Bool.eq_iff_iff]
    simp [tableName]
  simpa only [List.flatMap_map, hsame] using hperm

/-! ## Scripts -/

variable {k : Catalog}

/-- Whether both tables of a foreign key are written. -/
def joinsWritten (k : Catalog) (fk : ForeignKey) : Bool :=
  !rejects k fk.schema fk.table && !rejects k fk.refSchema fk.refTable

/-- The objects that a script is about. -/
def objectsOf (k : Catalog) : ArtifactKind → List CatalogObject
  | .createSchemas => k.schemas.map .schema
  | .createTypes => k.userTypes.map .userType ++ k.sequences.map .sequence
  | .createTables => (keptTables k).map .table ++
      (keptTables k).flatMap fun t => (defaultedColumns t).map (.columnDefault t)
  | .createIndexes => (k.indexes.filter fun x => !rejects k x.schema x.table).map .index
  | .createForeignKeys => (k.foreignKeys.filter (isEmittable k)).map .foreignKey
  | .dropTypes => []
  | .dropTables => []
  | .truncateTables => []

private theorem accounted_createSchemas (options : EmitOptions) (k : Catalog) :
    Accounted (objectsOf k .createSchemas) (createSchemas options k).script.statements
      (createSchemas options k).reported := by
  simp only [createSchemas, EmittedScript.statements_ofParts, EmittedScript.reported_ofParts,
    List.flatMap_map]
  exact accounted_map fun name _ => accounted_createSchema name

private theorem accounted_createTypes (options : EmitOptions) (k : Catalog) :
    Accounted (objectsOf k .createTypes) (createTypes options k).script.statements
      (createTypes options k).reported := by
  simp only [createTypes, EmittedScript.statements_ofParts, EmittedScript.reported_ofParts,
    List.flatMap_append, List.flatMap_map]
  have htypes := accounted_map fun t (_ : t ∈ k.userTypes) => accounted_createType t
  have hsequences := accounted_map fun s (_ : s ∈ k.sequences) => accounted_createSequence s
  exact htypes.append hsequences

/-- Options and descriptions stand around the tables and their defaults and create nothing. -/
private theorem accounted_createTables (options : EmitOptions) (k : Catalog) :
    Accounted (objectsOf k .createTables) (createTables options k).script.statements
      (createTables options k).reported := by
  have hoptions : Accounted [] tableOptions.batch tableOptions.reported :=
    accounted_nil (by simp [tableOptions, Statement.creation?]) _
  have htables := accounted_map fun t (_ : t ∈ keptTables k) => accounted_createTable k t
  have hdefaults := accounted_flatMap fun t (_ : t ∈ keptTables k) => accounted_addDefaults t
  have hcolumns : Accounted [] ((keptTables k).flatMap fun t => (describeColumns t).batch)
      ((keptTables k).flatMap fun t => (describeColumns t).reported) := by
    refine accounted_nil (fun s hs => ?_) _
    obtain ⟨t, _, hs⟩ := List.mem_flatMap.mp hs
    obtain ⟨c, _, hs⟩ := List.mem_filterMap.mp hs
    obtain ⟨text, _, rfl⟩ := Option.map_eq_some_iff.mp hs
    rfl
  have hends : Accounted [] (describeTables (keptTables k)).batch
      (describeTables (keptTables k)).reported := by
    refine accounted_nil (fun s hs => ?_) _
    obtain ⟨t, _, hs⟩ := List.mem_filterMap.mp hs
    obtain ⟨text, _, rfl⟩ := Option.map_eq_some_iff.mp hs
    rfl
  have hall := (((hoptions.append htables).append hdefaults).append hcolumns).append hends
  simp only [List.nil_append, List.append_nil] at hall
  simpa only [createTables, objectsOf, EmittedScript.statements_ofParts,
    EmittedScript.reported_ofParts, List.flatMap_append, List.flatMap_map, List.flatMap_cons,
    List.flatMap_nil, List.append_nil] using hall

/-- Indexes are created table by table, and each belongs to one table. -/
private theorem accounted_createIndexes (options : EmitOptions) (hids : k.tableIds.Nodup)
    (howned : ∀ x ∈ k.indexes, k.hasTable x.schema x.table = true) :
    Accounted (objectsOf k .createIndexes) (createIndexes options k).script.statements
      (createIndexes options k).reported := by
  have hparts : Accounted
      ((keptTables k).flatMap fun t => (k.indexes.filter fun x =>
        x.schema == t.schema && x.table == t.name).map CatalogObject.index)
      (createIndexes options k).script.statements (createIndexes options k).reported := by
    simp only [createIndexes, createIndexesOf, EmittedScript.statements_ofParts,
      EmittedScript.reported_ofParts, batch_gather, reported_gather, List.flatMap_map]
    exact accounted_flatMap fun t _ => accounted_map fun x _ => accounted_createIndex x
  -- The indexes of a kept table are among those whose table is not rejected.
  have hgroup : ∀ t ∈ keptTables k,
      (k.indexes.filter fun x => x.schema == t.schema && x.table == t.name) =
        (k.indexes.filter fun x => !rejects k x.schema x.table).filter fun x =>
          x.schema == t.schema && x.table == t.name := by
    intro t ht
    rw [List.filter_filter]
    refine List.filter_congr fun x _ => ?_
    by_cases hx : x.schema = t.schema ∧ x.table = t.name
    · simp [hx.1, hx.2, (mem_keptTables.mp ht).2]
    · have hfalse : (x.schema == t.schema && x.table == t.name) = false := by
        simpa using hx
      rw [hfalse, Bool.false_and]
  refine hparts.perm (List.Perm.symm ?_)
  rw [← List.map_flatMap, List.flatMap_congr hgroup]
  refine List.Perm.map _ (perm_flatMap_belonging (hids.sublist (List.filter_sublist.map _)) ?_)
  intro x hx
  obtain ⟨hx, hkept⟩ := List.mem_filter.mp hx
  obtain ⟨t, ht, he⟩ := exists_mem_keptTables (howned x hx) (by simpa using hkept)
  exact List.mem_map.mpr ⟨t, ht, he⟩

private theorem accounted_createForeignKeys (options : EmitOptions) (hids : k.tableIds.Nodup)
    (howned : ∀ fk ∈ k.foreignKeys, k.hasTable fk.schema fk.table = true) :
    Accounted (objectsOf k .createForeignKeys) (createForeignKeys options k).script.statements
      (createForeignKeys options k).reported := by
  have hparts : Accounted
      (k.tables.flatMap fun t => (k.foreignKeys.filter fun fk =>
        fk.schema == t.schema && fk.table == t.name && isEmittable k fk).map
          CatalogObject.foreignKey)
      (createForeignKeys options k).script.statements (createForeignKeys options k).reported := by
    simp only [createForeignKeys, addForeignKeysOf, EmittedScript.statements_ofParts,
      EmittedScript.reported_ofParts, batch_gather, reported_gather, List.flatMap_map]
    refine accounted_flatMap fun t _ => accounted_map fun fk hfk => ?_
    obtain ⟨_, hfk⟩ := List.mem_filter.mp hfk
    simp only [Bool.and_eq_true, beq_iff_eq] at hfk
    exact accounted_addForeignKey options hfk.1.1 hfk.1.2
  have hgroup : ∀ t ∈ k.tables, (k.foreignKeys.filter fun fk =>
      fk.schema == t.schema && fk.table == t.name && isEmittable k fk) =
        (k.foreignKeys.filter (isEmittable k)).filter fun fk =>
          fk.schema == t.schema && fk.table == t.name :=
    fun t _ => List.filter_filter.symm
  refine hparts.perm (List.Perm.symm ?_)
  rw [← List.map_flatMap, List.flatMap_congr hgroup]
  refine List.Perm.map _ (perm_flatMap_belonging hids ?_)
  intro fk hfk
  exact (k.hasTable_iff_mem_tableIds).mp (howned fk (List.mem_filter.mp hfk).1)

/-- Each script accounts for the objects that it is about. -/
theorem accounted_scriptFor (options : EmitOptions) (hids : k.tableIds.Nodup)
    (hindexes : ∀ x ∈ k.indexes, k.hasTable x.schema x.table = true)
    (hkeys : ∀ fk ∈ k.foreignKeys, k.hasTable fk.schema fk.table = true) (kind : ArtifactKind) :
    Accounted (objectsOf k kind) (scriptFor options k kind).script.statements
      (scriptFor options k kind).reported := by
  cases kind with
  | createSchemas => exact accounted_createSchemas options k
  | createTypes => exact accounted_createTypes options k
  | createTables => exact accounted_createTables options k
  | createIndexes => exact accounted_createIndexes options hids hindexes
  | createForeignKeys => exact accounted_createForeignKeys options hids hkeys
  | dropTypes =>
    refine accounted_nil (fun s hs => ?_) _
    rcases mem_dropTypes.mp hs with ⟨_, _, _, rfl⟩ | ⟨_, _, _, rfl⟩ <;> rfl
  | dropTables =>
    refine accounted_nil (fun s hs => ?_) _
    rcases mem_dropTables.mp hs with ⟨_, _, _, rfl⟩ | ⟨_, _, rfl⟩ <;> rfl
  | truncateTables =>
    refine accounted_nil (fun s hs => ?_) _
    obtain ⟨_, _, rfl⟩ := mem_truncateTables.mp hs
    rfl

/-! ## The whole emission -/

/-- The tables that are not written. -/
def rejectedTables (k : Catalog) : List Table := k.tables.filter fun t => rejects k t.schema t.name

/-- The objects of a catalog of which something has to come: all schemas, domains, sequences and
tables, and of what belongs to tables everything whose tables are written. -/
def dueObjects (k : Catalog) : List CatalogObject :=
  k.schemas.map .schema ++ k.userTypes.map .userType ++ k.sequences.map .sequence ++
    k.tables.map .table ++
    ((keptTables k).flatMap fun t => (defaultedColumns t).map (.columnDefault t)) ++
    (k.indexes.filter fun x => !rejects k x.schema x.table).map .index ++
    (k.foreignKeys.filter (joinsWritten k)).map .foreignKey

/-- The foreign keys between written tables whose own names cannot be written. -/
def hiddenKeys (k : Catalog) : List ForeignKey :=
  (k.foreignKeys.filter (joinsWritten k)).filter fun fk => !Identifier.isValid fk.name

/-- The objects that the emission looks at. -/
private def seenObjects (k : Catalog) : List CatalogObject :=
  (rejectedTables k).map .table ++ ArtifactKind.all.flatMap (objectsOf k)

/-- Whether the scripts of a catalog and the reports on it account for everything due. -/
def LosesNothing (options : EmitOptions) (k : Catalog) : Prop :=
  Accounted (dueObjects k) ((k.emit options).scripts.flatMap Script.statements)
    (k.emit options).diagnostics

/-- Every rejected table is reported, itself or through another one of its name. -/
private theorem accounted_rejectedTables (k : Catalog) :
    Accounted ((rejectedTables k).map .table) [] (k.tables.filterMap tableReport?) := by
  refine ⟨[], (rejectedTables k).map .table, List.Perm.refl _, List.Perm.refl _, ?_⟩
  intro o ho
  obtain ⟨t, ht, rfl⟩ := List.mem_map.mp ho
  obtain ⟨_, hr⟩ := List.mem_filter.mp ht
  simp only [rejects, List.any_eq_true, Bool.and_eq_true, Table.isNamed_iff,
    Option.isSome_iff_exists] at hr
  obtain ⟨u, hu, ⟨hs, hn⟩, d, hd⟩ := hr
  refine ⟨d, List.mem_filterMap.mpr ⟨u, hu, hd⟩, ?_⟩
  rw [object_of_nameReport? hd, Table.fullName, hs, hn]
  rfl

/-- The emission accounts for every object that it looks at. -/
private theorem accounted_seenObjects (options : EmitOptions) (hk : k.isEmpty = false)
    (hids : k.tableIds.Nodup) (hindexes : ∀ x ∈ k.indexes, k.hasTable x.schema x.table = true)
    (hkeys : ∀ fk ∈ k.foreignKeys, k.hasTable fk.schema fk.table = true) :
    Accounted (seenObjects k) ((k.emit options).scripts.flatMap Script.statements)
      (k.emit options).diagnostics := by
  rw [scripts_emit options hk, diagnostics_emit options hk, List.flatMap_map]
  have hscripts := accounted_flatMap fun kind (_ : kind ∈ ArtifactKind.all) =>
    accounted_scriptFor options hids hindexes hkeys kind
  exact (accounted_rejectedTables k).append hscripts

/-- What is due is what the emission looks at, together with the hidden foreign keys. -/
private theorem perm_dueObjects (k : Catalog) :
    (dueObjects k).Perm (seenObjects k ++ (hiddenKeys k).map .foreignKey) := by
  have htables : (rejectedTables k ++ keptTables k).Perm k.tables :=
    List.filter_append_perm _ k.tables
  have hkeys : (k.foreignKeys.filter (isEmittable k) ++ hiddenKeys k).Perm
      (k.foreignKeys.filter (joinsWritten k)) := by
    have hsplit := List.filter_append_perm (fun fk => Identifier.isValid fk.name)
      (k.foreignKeys.filter (joinsWritten k))
    have hseen : (k.foreignKeys.filter (joinsWritten k)).filter
        (fun fk => Identifier.isValid fk.name) = k.foreignKeys.filter (isEmittable k) := by
      rw [List.filter_filter]
      refine List.filter_congr fun fk _ => ?_
      rw [isEmittable, joinsWritten, Bool.and_comm]
    rwa [hseen] at hsplit
  refine List.perm_iff_count.mpr fun o => ?_
  have ht := (htables.map CatalogObject.table).count_eq o
  have hf := (hkeys.map CatalogObject.foreignKey).count_eq o
  simp only [List.map_append, List.count_append] at ht hf
  simp only [dueObjects, seenObjects, ArtifactKind.all, objectsOf, List.flatMap_cons,
    List.flatMap_nil, List.append_nil, List.nil_append, List.count_append]
  omega

/-- A foreign key that the emission looks at has a name that can be written. -/
private theorem isValid_of_creation_eq {o : CatalogObject} (ho : o ∈ seenObjects k)
    {table : ObjectName} {name : String} (h : o.creation = .foreignKey table name) :
    Identifier.isValid name = true := by
  cases o with
  | foreignKey fk =>
    obtain ⟨_, rfl⟩ := Creation.foreignKey.inj h
    have hseen : fk ∈ k.foreignKeys ∧ isEmittable k fk = true := by
      simpa [seenObjects, ArtifactKind.all, objectsOf] using ho
    simp only [isEmittable, Bool.and_eq_true] at hseen
    exact hseen.2.2
  | _ => cases h

/-- Nothing is lost exactly when something is reported under the name of each hidden key. -/
theorem losesNothing_iff (options : EmitOptions) (hk : k.isEmpty = false)
    (hids : k.tableIds.Nodup) (hindexes : ∀ x ∈ k.indexes, k.hasTable x.schema x.table = true)
    (hkeys : ∀ fk ∈ k.foreignKeys, k.hasTable fk.schema fk.table = true) :
    LosesNothing options k ↔ ∀ fk ∈ hiddenKeys k, ∃ d ∈ (k.emit options).diagnostics,
      d.object = (CatalogObject.foreignKey fk).fullName := by
  have hseen := accounted_seenObjects options hk hids hindexes hkeys
  have hdue := perm_dueObjects k
  constructor
  · rintro ⟨made, skipped, hobjects, hmade, hskipped⟩ fk hfk
    have hmem : CatalogObject.foreignKey fk ∈ made ++ skipped :=
      hobjects.mem_iff.mp (hdue.mem_iff.mpr (List.mem_append_right _ (List.mem_map_of_mem hfk)))
    rcases List.mem_append.mp hmem with hm | hs
    · -- A statement for the key would be the statement of a seen key of the same name.
      obtain ⟨made', skipped', hobjects', hmade', _⟩ := hseen
      have hcreated := hmade'.mem_iff.mp (hmade.mem_iff.mpr (List.mem_map_of_mem hm))
      obtain ⟨o, ho, he⟩ := List.mem_map.mp hcreated
      have hvalid := isValid_of_creation_eq
        (hobjects'.mem_iff.mpr (List.mem_append_left _ ho)) he
      have hinvalid := (List.mem_filter.mp hfk).2
      rw [hvalid] at hinvalid
      cases hinvalid
    · exact hskipped _ hs
  · intro hreported
    obtain ⟨made, skipped, hobjects, hmade, hskipped⟩ := hseen
    refine ⟨made, skipped ++ (hiddenKeys k).map .foreignKey, ?_, hmade, ?_⟩
    · rw [← List.append_assoc]
      exact hdue.trans (hobjects.append_right _)
    · intro o ho
      rcases List.mem_append.mp ho with ho | ho
      · exact hskipped o ho
      · obtain ⟨fk, hfk, rfl⟩ := List.mem_map.mp ho
        exact hreported fk hfk

/-- The catalog without its hidden foreign keys. -/
def withoutHiddenKeys (k : Catalog) : Catalog :=
  { k with foreignKeys := k.foreignKeys.filter fun fk => decide (fk ∉ hiddenKeys k) }

/-- A foreign key that is written is not hidden. -/
private theorem filter_isEmittable_withoutHiddenKeys (k : Catalog) :
    (withoutHiddenKeys k).foreignKeys.filter (isEmittable k) =
      k.foreignKeys.filter (isEmittable k) := by
  simp only [withoutHiddenKeys, List.filter_filter]
  refine List.filter_congr fun fk _ => ?_
  cases he : isEmittable k fk with
  | false => rfl
  | true =>
    have hseen : fk ∉ hiddenKeys k := by
      intro hmem
      simp only [isEmittable, Bool.and_eq_true] at he
      have hinvalid := (List.mem_filter.mp hmem).2
      rw [he.2] at hinvalid
      cases hinvalid
    simp [hseen]

private theorem createTables_withoutHiddenKeys (options : EmitOptions) (k : Catalog) :
    createTables options (withoutHiddenKeys k) = createTables options k := by
  have htypes : (withoutHiddenKeys k).userTypes = k.userTypes := rfl
  have hcolumn : columnDefinition (withoutHiddenKeys k) = columnDefinition k := by
    funext t c
    simp only [columnDefinition, htypes]
  have hcreate : createTable (withoutHiddenKeys k) = createTable k := by
    funext t
    simp only [createTable, hcolumn]
  have hkept : keptTables (withoutHiddenKeys k) = keptTables k := rfl
  simp only [createTables, hkept, hcreate]

private theorem dropTables_withoutHiddenKeys (options : EmitOptions) (k : Catalog) :
    dropTables options (withoutHiddenKeys k) = dropTables options k := by
  have hsame : isEmittable (withoutHiddenKeys k) = isEmittable k := rfl
  simp only [dropTables, hsame, filter_isEmittable_withoutHiddenKeys]
  rfl

private theorem createForeignKeys_withoutHiddenKeys (options : EmitOptions) (k : Catalog) :
    createForeignKeys options (withoutHiddenKeys k) = createForeignKeys options k := by
  have hpart : ∀ t ∈ k.tables, addForeignKeysOf options (withoutHiddenKeys k) t =
      addForeignKeysOf options k t := by
    intro t _
    have hgroup := congrArg (List.filter fun fk => fk.schema == t.schema && fk.table == t.name)
      (filter_isEmittable_withoutHiddenKeys k)
    rw [List.filter_filter, List.filter_filter] at hgroup
    exact congrArg (fun fks => Emitted.gather (fks.map (addForeignKey options t))) hgroup
  exact congrArg (EmittedScript.ofParts .createForeignKeys options) (List.map_congr_left hpart)

/-- Hidden foreign keys leave no trace in the scripts or in the reports. -/
theorem emit_withoutHiddenKeys (options : EmitOptions) (k : Catalog) :
    (withoutHiddenKeys k).emit options = k.emit options := by
  simp only [Catalog.emit, Catalog.emittedScripts, createTables_withoutHiddenKeys,
    dropTables_withoutHiddenKeys, createForeignKeys_withoutHiddenKeys]
  rfl

/-- A foreign key between written tables whose own name cannot be written changes nothing in the
scripts and the reports. So everything due is created or reported exactly when, for each such key,
the catalog without these keys happens to be reported on under the name of the key. -/
theorem losesNothing_iff_withoutHiddenKeys (options : EmitOptions) {k : Catalog}
    (hk : k.isEmpty = false) (hids : k.tableIds.Nodup)
    (hindexes : ∀ x ∈ k.indexes, k.hasTable x.schema x.table = true)
    (hkeys : ∀ fk ∈ k.foreignKeys, k.hasTable fk.schema fk.table = true) :
    (withoutHiddenKeys k).emit options = k.emit options ∧
      (LosesNothing options k ↔ ∀ fk ∈ hiddenKeys k,
        ∃ d ∈ ((withoutHiddenKeys k).emit options).diagnostics,
          d.object = (CatalogObject.foreignKey fk).fullName) := by
  have hsame := emit_withoutHiddenKeys options k
  refine ⟨hsame, ?_⟩
  rw [hsame]
  exact losesNothing_iff options hk hids hindexes hkeys

/-- Rows of a table with a default, an index without a name and a foreign key to itself. -/
def selfLinkedRows (constraint : String) : CatalogRows where
  columns := [
    { schema := "s", table := "t", column := "a", ordinal := 1, regtype := "integer"
      isNullable := true, defaultExpr := some "0" }]
  indexes := [
    { schema := "s", table := "t", indexName := "", isPrimary := false, isUnique := false
      column := some "a", columnPosition := 1 }]
  foreignKeys := [
    { schema := "s", table := "t", constraintName := constraint, columns := ["a"]
      refSchema := "s", refTable := "t", refColumns := ["a"] }]

/-- With a short name the table, its default and the foreign key are created, and the index is
reported. -/
theorem losesNothing_selfLinked :
    hiddenKeys (Catalog.build (selfLinkedRows "parent") "").catalog = [] ∧
      LosesNothing {} (Catalog.build (selfLinkedRows "parent") "").catalog := by
  have hnone : hiddenKeys (Catalog.build (selfLinkedRows "parent") "").catalog = [] := by decide
  have hiff := losesNothing_iff_withoutHiddenKeys {}
    (k := (Catalog.build (selfLinkedRows "parent") "").catalog)
    (by decide) (by decide) (by decide) (by decide)
  refine ⟨hnone, hiff.2.mpr fun fk hfk => ?_⟩
  rw [hnone] at hfk
  cases hfk

/-- A constraint whose name is two characters too long with its prefix. -/
def longConstraint : String := String.ofList (List.replicate 126 'x')

/-- A foreign key with a name that is too long is neither created nor reported. -/
theorem not_losesNothing_selfLinked :
    (Catalog.build (selfLinkedRows longConstraint) "").catalog.tableIds.Nodup ∧
      (∃ fk ∈ hiddenKeys (Catalog.build (selfLinkedRows longConstraint) "").catalog,
        ∀ d ∈ ((Catalog.build (selfLinkedRows longConstraint) "").catalog.emit {}).diagnostics,
          d.object ≠ (CatalogObject.foreignKey fk).fullName) ∧
      ¬ LosesNothing {} (Catalog.build (selfLinkedRows longConstraint) "").catalog := by
  have hids : (Catalog.build (selfLinkedRows longConstraint) "").catalog.tableIds.Nodup := by
    decide
  have hlost : ∃ fk ∈ hiddenKeys (Catalog.build (selfLinkedRows longConstraint) "").catalog,
      ∀ d ∈ ((Catalog.build (selfLinkedRows longConstraint) "").catalog.emit {}).diagnostics,
        d.object ≠ (CatalogObject.foreignKey fk).fullName := by
    decide +kernel
  refine ⟨hids, hlost, fun h => ?_⟩
  obtain ⟨fk, hfk, hnone⟩ := hlost
  obtain ⟨d, hd, he⟩ :=
    (losesNothing_iff {} (by decide) hids (by decide) (by decide)).mp h fk hfk
  exact hnone d hd he

end SchemaTransfer.Emission
