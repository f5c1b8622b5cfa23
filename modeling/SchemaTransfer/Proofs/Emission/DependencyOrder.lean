import SchemaTransfer.Proofs.Build.Closure
import SchemaTransfer.Proofs.Emission.Contents

/-!
# Statements in the order of their dependencies

The scripts that create objects are run one after the other: schemas, domains and sequences,
tables, indexes, foreign keys. What a statement needs to be there is made by a statement before
it, because each script needs only what scripts before it make, and defaults and descriptions
stand behind all tables of their own script. This holds of every closed catalog, hence of whatever
rows a run reads.
-/

namespace SchemaTransfer

/-- Something that has to be there before a statement can run. -/
inductive Requirement where
  | schema (name : String)
  | table (name : ObjectName)
  | column (table : ObjectName) (name : String)
  deriving DecidableEq

/-- The table that a requirement is about, if it is about one. -/
def Requirement.table? : Requirement → Option ObjectName
  | schema _ => none
  | table name => some name
  | column owner _ => some owner

namespace Statement

/-- What a statement that creates something needs. -/
def requirements : Statement → List Requirement
  | createType name _ _ => [.schema name.schema]
  | createSequence definition => [.schema definition.name.schema]
  | createTable name _ => [.schema name.schema]
  | addDefault table _ column _ => [.column table column]
  | addDescription table (some column) _ => [.column table column]
  | addDescription table none _ => [.table table]
  | addPrimaryKey key => [.table key.table]
  | addUnique key => [.table key.table]
  | createIndex key => [.table key.table]
  | addForeignKey reference => [.table reference.table, .table reference.referenced]
  | _ => []

/-- Whether a statement makes what is required. -/
def Provides : Statement → Requirement → Prop
  | createSchema name, .schema schema => name = schema
  | createTable name _, .table table => name = table
  | createTable name columns, .column table column =>
    name = table ∧ column ∈ columns.map (·.name)
  | _, _ => False

end Statement

/-- Whether everything that a statement needs is made by some statement of a list. -/
def IsReady (earlier : List Statement) (s : Statement) : Prop :=
  ∀ r ∈ s.requirements, ∃ p ∈ earlier, p.Provides r

/-- Every statement comes after statements that make what it needs. -/
def DependencyOrdered (statements : List Statement) : Prop :=
  ∀ earlier s later, statements = earlier ++ s :: later → IsReady earlier s

/-- The statements of the scripts that create objects, in the order in which these are run. -/
def EmittedCatalog.creation (e : EmittedCatalog) : List Statement :=
  [ArtifactKind.createSchemas, .createTypes, .createTables, .createIndexes,
    .createForeignKeys].flatMap fun kind => (e.script? kind).elim [] Script.statements

/-! ## Scripts one after the other -/

theorem IsReady.mono {earlier more : List Statement} {s : Statement} (h : IsReady earlier s)
    (hsub : earlier ⊆ more) : IsReady more s := by
  intro r hr
  obtain ⟨p, hp, hpr⟩ := h r hr
  exact ⟨p, hsub hp, hpr⟩

theorem dependencyOrdered_nil : DependencyOrdered [] := by
  intro earlier s later h
  simp at h

/-- Statements that need only what an ordered list makes can be run after it, in any order. -/
theorem DependencyOrdered.append {done next : List Statement} (hd : DependencyOrdered done)
    (hn : ∀ s ∈ next, IsReady done s) : DependencyOrdered (done ++ next) := by
  intro earlier s later h
  rcases List.append_eq_append_iff.mp h with ⟨more, rfl, hnext⟩ | ⟨rest, rfl, hrest⟩
  · have hs : s ∈ next := by rw [hnext]; simp
    exact (hn s hs).mono (List.subset_append_left ..)
  · cases rest with
    | nil =>
      have hs : s ∈ next := by
        simp only [List.nil_append] at hrest
        simp [← hrest]
      exact (hn s hs).mono (by simp)
    | cons x rest =>
      simp only [List.cons_append, List.cons.injEq] at hrest
      exact hd earlier s rest (by rw [hrest.1])

namespace Emission

variable {k : Catalog} {earlier : List Statement} {s : Statement}

/-! ## What the scripts need -/

/-- A noted schema with a name that can be written is created. -/
private theorem exists_provides_schema (options : EmitOptions) {schema : String}
    (hs : schema ∈ k.schemas) (hv : Identifier.isValid schema = true) :
    ∃ p ∈ (createSchemas options k).script.statements, p.Provides (.schema schema) :=
  ⟨.createSchema schema, mem_createSchemas.mpr ⟨schema, hs, hv, rfl⟩, rfl⟩

private theorem isReady_of_mem_createTypes (options : EmitOptions) (hk : k.IsClosed)
    (h : s ∈ (createTypes options k).script.statements) :
    IsReady (createSchemas options k).script.statements s := by
  rcases mem_createTypes.mp h with ⟨t, ht, hw, hs⟩ | ⟨q, hq, hw, rfl⟩
  · simp only [typePart, List.mem_singleton] at hs
    simp only [areWritable, List.all_cons, Bool.and_eq_true] at hw
    subst hs
    simp only [IsReady, Statement.requirements, List.mem_singleton, forall_eq]
    exact exists_provides_schema options (hk.userType t ht) hw.1
  · simp only [areWritable, List.all_cons, Bool.and_eq_true] at hw
    simp only [IsReady, Statement.requirements, List.mem_singleton, forall_eq]
    exact exists_provides_schema options (hk.sequence q hq) hw.1

private theorem isReady_of_mem_tables (options : EmitOptions) (hk : k.IsClosed)
    (h : s ∈ tableStatements k) :
    IsReady (createSchemas options k).script.statements s := by
  rcases List.mem_append.mp h with h | h
  · simp only [tableOptions, List.mem_cons, List.not_mem_nil, or_false] at h
    rcases h with rfl | rfl <;> simp [IsReady, Statement.requirements]
  · obtain ⟨t, ht, rfl⟩ := List.mem_map.mp h
    simp only [IsReady, tableStatement, Statement.requirements, List.mem_singleton, forall_eq]
    exact exists_provides_schema options (hk.table t (mem_keptTables.mp ht).1)
      (isValid_of_mem_keptTables ht).1

/-- The statement that creates a table provides it and each of its columns. -/
private theorem provides_tableStatement (k : Catalog) (t : Table) :
    (tableStatement k t).Provides (.table (tableName t)) ∧
      ∀ c ∈ t.columns, (tableStatement k t).Provides (.column (tableName t) c.name) := by
  refine ⟨rfl, fun c hc => ⟨rfl, ?_⟩⟩
  simp only [List.map_map, List.mem_map, Function.comp_apply, name_columnDefinition]
  exact ⟨c, hc, rfl⟩

/-- Whether all tables that are written are made by a list of statements. -/
private def TablesMade (k : Catalog) (earlier : List Statement) : Prop :=
  ∀ t ∈ keptTables k, tableStatement k t ∈ earlier

private theorem TablesMade.append (h : TablesMade k earlier) (next : List Statement) :
    TablesMade k (earlier ++ next) :=
  fun t ht => List.mem_append_left _ (h t ht)

/-- Defaults and descriptions need only the tables. -/
private theorem isReady_of_mem_details (hp : TablesMade k earlier) (h : s ∈ detailStatements k) :
    IsReady earlier s := by
  obtain ⟨t, ht, h⟩ := cases_of_mem_detailStatements h
  have hp := hp t ht
  have hprovides := provides_tableStatement k t
  rcases h with ⟨c, hc, expression, rfl⟩ | ⟨c, hc, text, rfl⟩ | ⟨text, rfl⟩ <;>
    simp only [IsReady, Statement.requirements, List.mem_singleton, forall_eq]
  · exact ⟨_, hp, hprovides.2 c hc⟩
  · exact ⟨_, hp, hprovides.2 c hc⟩
  · exact ⟨_, hp, hprovides.1⟩

private theorem isReady_of_mem_createIndexes (options : EmitOptions) (hp : TablesMade k earlier)
    (h : s ∈ (createIndexes options k).script.statements) : IsReady earlier s := by
  obtain ⟨t, ht, x, _, hxs, hxt, _, rfl⟩ := mem_createIndexes.mp h
  have hr : (indexStatement x).requirements = [.table (tableName t)] := by
    simp only [indexStatement, tableName, ← hxs, ← hxt]
    cases x.kind <;> rfl
  simp only [IsReady, hr, List.mem_singleton, forall_eq]
  exact ⟨_, hp t ht, (provides_tableStatement k t).1⟩

/-- A foreign key that is written has both of its tables written. -/
private theorem isReady_of_mem_createForeignKeys (options : EmitOptions) (hk : k.IsClosed)
    (hp : TablesMade k earlier)
    (h : s ∈ (createForeignKeys options k).script.statements) : IsReady earlier s := by
  obtain ⟨t, ht, fk, hfk, hs, hn, hem, _, rfl⟩ := mem_createForeignKeys.mp h
  simp only [isEmittable, Bool.and_eq_true, Bool.not_eq_true'] at hem
  obtain ⟨⟨hown, href⟩, _⟩ := hem
  have hmade {schema name : String} (ht : k.hasTable schema name = true)
      (hr : rejects k schema name = false) :
      ∃ p ∈ earlier, p.Provides (.table ⟨schema, name⟩) := by
    obtain ⟨u, hu, hid⟩ := exists_mem_keptTables ht hr
    exact ⟨_, hp u hu, hid ▸ (provides_tableStatement k u).1⟩
  have hhas : k.hasTable fk.schema fk.table = true :=
    (k.hasTable_iff _ _).mpr ⟨t, ht, hs.symm, hn.symm⟩
  intro r hr
  simp only [foreignKeyStatement, Statement.requirements, List.mem_cons, List.not_mem_nil,
    or_false] at hr
  rcases hr with rfl | rfl
  · exact hmade hhas hown
  · exact hmade (hk.target fk hfk) href

/-! ## The whole run -/

/-- The statements of the scripts that create objects, script by script. -/
private theorem creation_emit (options : EmitOptions) {k : Catalog} (hk : k.isEmpty = false) :
    (k.emit options).creation =
      (createSchemas options k).script.statements ++ ((createTypes options k).script.statements ++
        ((createTables options k).script.statements ++
          ((createIndexes options k).script.statements ++
            (createForeignKeys options k).script.statements))) := by
  simp only [EmittedCatalog.creation, List.flatMap_cons, List.flatMap_nil, script?_emit options hk,
    Option.elim_some, scriptFor, List.append_nil]

private theorem isReady_of_mem_createSchemas (options : EmitOptions) (k : Catalog)
    (h : s ∈ (createSchemas options k).script.statements) :
    IsReady [] s := by
  obtain ⟨name, _, _, rfl⟩ := mem_createSchemas.mp h
  simp [IsReady, Statement.requirements]

/-- The scripts of a closed catalog respect the dependencies of their statements. -/
theorem dependencyOrdered_of_isClosed (options : EmitOptions) {k : Catalog} (hk : k.IsClosed)
    (hne : k.isEmpty = false) : DependencyOrdered (k.emit options).creation := by
  have hschemas := dependencyOrdered_nil.append fun s hs =>
    isReady_of_mem_createSchemas options k hs
  have htypes := hschemas.append fun s hs => isReady_of_mem_createTypes options hk hs
  have htables := htypes.append fun s hs =>
    (isReady_of_mem_tables options hk hs).mono (List.subset_append_left ..)
  -- From here on all tables are made, which is all that the remaining statements need.
  have hmade : TablesMade k ([] ++ (createSchemas options k).script.statements ++
      (createTypes options k).script.statements ++ tableStatements k) := fun t ht =>
    List.mem_append_right _ (List.mem_append_right _ (List.mem_map_of_mem ht))
  have hdetails := htables.append fun s hs => isReady_of_mem_details hmade hs
  have hindexes := hdetails.append fun s hs =>
    isReady_of_mem_createIndexes options (hmade.append _) hs
  have hkeys := hindexes.append fun s hs =>
    isReady_of_mem_createForeignKeys options hk ((hmade.append _).append _) hs
  rw [creation_emit options hne, statements_createTables]
  simpa only [List.nil_append, List.append_assoc] using hkeys

/-- Only kept tables are created. -/
private theorem exists_of_createTable_mem_creation {name : ObjectName}
    {columns : List ColumnDefinition} (options : EmitOptions)
    (hne : k.isEmpty = false) (h : .createTable name columns ∈ (k.emit options).creation) :
    ∃ t ∈ keptTables k, tableName t = name := by
  obtain ⟨kind, _, h⟩ := List.mem_flatMap.mp h
  rw [script?_emit options hne] at h
  obtain ⟨t, ht, he⟩ := exists_of_createTable_mem h
  cases he
  exact ⟨t, ht, rfl⟩

/-- What is required of a table is provided by the statement that creates it. -/
private theorem eq_createTable_of_provides {p : Statement} {r : Requirement} {name : ObjectName}
    (h : p.Provides r) (hr : r.table? = some name) : ∃ columns, p = .createTable name columns := by
  cases p with
  | createTable made columns =>
    refine ⟨columns, ?_⟩
    cases r with
    | schema => cases hr
    | table =>
      cases hr
      rw [show made = name from h]
    | column =>
      cases hr
      rw [h.1]
  | createSchema =>
    cases r with
    | schema => cases hr
    | table => exact False.elim h
    | column => exact False.elim h
  | _ => exact False.elim h

/-- No statement of a closed catalog needs a table with a name that cannot be written. -/
private theorem areWritable_of_required (options : EmitOptions) (hk : k.IsClosed)
    (hne : k.isEmpty = false) (hs : s ∈ (k.emit options).creation) {r : Requirement}
    (hr : r ∈ s.requirements) {name : ObjectName} (hn : r.table? = some name) {t : Table}
    (ht : t ∈ k.tables) (hid : tableName t = name) : areWritable (tableNames t) = true := by
  obtain ⟨earlier, later, hsplit⟩ := List.append_of_mem hs
  obtain ⟨p, hp, hpr⟩ := dependencyOrdered_of_isClosed options hk hne earlier s later hsplit r hr
  obtain ⟨columns, rfl⟩ := eq_createTable_of_provides hpr hn
  obtain ⟨u, hu, hid'⟩ := exists_of_createTable_mem_creation options hne
    (by rw [hsplit]; exact List.mem_append_left _ hp)
  have he : tableName t = tableName u := hid.trans hid'.symm
  exact rejects_eq_false_iff.mp (mem_keptTables.mp hu).2 t ht (congrArg ObjectName.schema he)
    (congrArg ObjectName.name he)

/-- Whatever rows are read, in whatever order, and whatever was sampled: every statement that
creates something comes after statements that make what it needs, and none needs a table that was
rejected for one of its names. -/
theorem dependencyOrdered_creation (rows : CatalogRows) (foreignKeyEnding : String)
    (found : Cardinalities) (options : EmitOptions) :
    let k := (Catalog.build rows foreignKeyEnding).catalog.transformed found
    DependencyOrdered (k.emit options).creation ∧
      ∀ s ∈ (k.emit options).creation, ∀ r ∈ s.requirements, ∀ name, r.table? = some name →
        ∀ t ∈ k.tables, tableName t = name → areWritable (tableNames t) = true := by
  intro k
  have hk : k.IsClosed := (Catalog.isClosed_build rows foreignKeyEnding).transformed found
  cases hne : k.isEmpty with
  | true =>
    have hnone : (k.emit options).creation = [] := by
      simp [Catalog.emit, hne, EmittedCatalog.creation, EmittedCatalog.script?]
    rw [hnone]
    exact ⟨dependencyOrdered_nil, fun s hs => absurd hs List.not_mem_nil⟩
  | false =>
    exact ⟨dependencyOrdered_of_isClosed options hk hne, fun s hs r hr name hn t ht hid =>
      areWritable_of_required options hk hne hs hr hn ht hid⟩

end Emission

end SchemaTransfer
