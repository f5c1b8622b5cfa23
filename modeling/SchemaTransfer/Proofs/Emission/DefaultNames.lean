import SchemaTransfer.Proofs.Conversion.Frame
import SchemaTransfer.Proofs.Emission.Spelling

/-!
# The names of default constraints

The constraint of a default is called by its table and its column, with an underscore between them,
and either of the two may hold underscores itself. Main statement: two defaults of one schema get the
same name exactly when the name of one table goes on, after an underscore, with what the column of the
other begins with; so the names in each table are distinct.
-/

namespace SchemaTransfer

/-- A default that a statement adds. -/
structure AddedDefault where
  table : ObjectName
  constraint : String
  column : String
  deriving DecidableEq

namespace AddedDefault

/-- The table of the second default goes on, after an underscore, with what the column of the first
begins with, and the rest of that column is the column of the second. -/
def Overlaps (p q : AddedDefault) : Prop :=
  ∃ rest, q.table.name = p.table.name ++ "_" ++ rest ∧ p.column = rest ++ "_" ++ q.column

end AddedDefault

/-- The default that a statement adds, if it adds one. -/
def Statement.addedDefault? : Statement → Option AddedDefault
  | addDefault table constraint column _ => some ⟨table, constraint, column⟩
  | _ => none

/-- The defaults that the scripts of a catalog add, one after the other. -/
def EmittedCatalog.addedDefaults (e : EmittedCatalog) : List AddedDefault :=
  (e.scripts.flatMap Script.statements).filterMap Statement.addedDefault?

/-- Any two defaults for tables of one schema have constraints of different names. -/
def EmittedCatalog.NamesDefaultsApart (e : EmittedCatalog) : Prop :=
  e.addedDefaults.Pairwise fun p q => p.table.schema = q.table.schema → p.constraint ≠ q.constraint

instance (e : EmittedCatalog) : Decidable e.NamesDefaultsApart :=
  inferInstanceAs (Decidable (List.Pairwise _ _))

/-! ## Joined names -/

/-- Two names joined with an underscore make the same text as two others exactly when they are these,
or when the first of one pair goes on with the beginning of the second of the other. -/
theorem joined_eq_iff (a b c d : String) :
    a ++ "_" ++ b = c ++ "_" ++ d ↔ (a = c ∧ b = d) ∨
      (∃ rest, c = a ++ "_" ++ rest ∧ b = rest ++ "_" ++ d) ∨
        ∃ rest, a = c ++ "_" ++ rest ∧ d = rest ++ "_" ++ b := by
  have hside (a b c d : String) (as : List Char) (hfirst : c.toList = a.toList ++ as)
      (hsecond : '_' :: b.toList = as ++ '_' :: d.toList) : (a = c ∧ b = d) ∨
        ∃ rest, c = a ++ "_" ++ rest ∧ b = rest ++ "_" ++ d := by
    cases as with
    | nil =>
      refine Or.inl ⟨String.toList_inj.mp ?_, String.toList_inj.mp ?_⟩
      · simpa using hfirst.symm
      · simpa using hsecond
    | cons x rest =>
      rw [List.cons_append, List.cons.injEq] at hsecond
      obtain ⟨rfl, hsecond⟩ := hsecond
      refine Or.inr ⟨String.ofList rest, String.toList_inj.mp ?_, String.toList_inj.mp ?_⟩
      · simpa using hfirst
      · simpa using hsecond
  constructor
  · intro h
    have hletters : a.toList ++ '_' :: b.toList = c.toList ++ '_' :: d.toList := by
      simpa using congrArg String.toList h
    rcases List.append_eq_append_iff.mp hletters with ⟨as, hfirst, hsecond⟩ | ⟨as, hfirst, hsecond⟩
    · rcases hside a b c d as hfirst hsecond with h | h
      · exact Or.inl h
      · exact Or.inr (Or.inl h)
    · rcases hside c d a b as hfirst hsecond with h | h
      · exact Or.inl ⟨h.1.symm, h.2.symm⟩
      · exact Or.inr (Or.inr h)
  · rintro (⟨rfl, rfl⟩ | ⟨rest, rfl, rfl⟩ | ⟨rest, rfl, rfl⟩)
    · rfl
    · simp only [String.append_assoc]
    · simp only [String.append_assoc]

/-- A name does not go on after itself. -/
theorem ne_append_underscore (name rest : String) : name ≠ name ++ "_" ++ rest := by
  intro h
  have hlength := congrArg String.length h
  have hmark : "_".length = 1 := rfl
  simp only [String.length_append, hmark] at hlength
  omega

namespace Emission

variable {options : EmitOptions} {k : Catalog} {t u : Table} {c d : Column} {p q : AddedDefault}

/-! ## The defaults of a column, a table and a catalog -/

/-- The default that is added for a column, if one is. -/
def defaultsOf (t : Table) (c : Column) : List AddedDefault :=
  (addDefault t c).batch.filterMap Statement.addedDefault?

theorem eq_of_mem_defaultsOf (h : p ∈ defaultsOf t c) :
    p = ⟨tableName t, defaultConstraint t c, c.name⟩ := by
  obtain ⟨s, hs, hp⟩ := List.mem_filterMap.mp h
  obtain ⟨_, _, _, _, _, rfl⟩ := mem_addDefault.mp hs
  exact (Option.some.inj hp).symm

/-- For one column one default is added at most. -/
theorem pairwise_defaultsOf {r : AddedDefault → AddedDefault → Prop} (t : Table) (c : Column) :
    (defaultsOf t c).Pairwise r := by
  unfold defaultsOf
  rcases addDefault_cases t c with ⟨_, h⟩ | ⟨_, _, h⟩ | ⟨_, _, _, h⟩ <;> rw [h]
  · exact .nil
  · exact List.pairwise_singleton _ _
  · exact .nil

/-- The defaults of a script are those of the columns of its tables. -/
theorem filterMap_addedDefault?_createTables (options : EmitOptions) (k : Catalog) :
    (createTables options k).script.statements.filterMap Statement.addedDefault? =
      (keptTables k).flatMap fun t => t.columns.flatMap (defaultsOf t) := by
  have htables : (tableStatements k).filterMap Statement.addedDefault? = [] := by
    refine List.filterMap_eq_nil_iff.mpr fun s hs => ?_
    rcases List.mem_append.mp hs with hs | hs
    · simp only [tableOptions, List.mem_cons, List.not_mem_nil, or_false] at hs
      rcases hs with rfl | rfl <;> rfl
    · obtain ⟨t, _, rfl⟩ := List.mem_map.mp hs
      rfl
  have hcolumns : ((keptTables k).flatMap fun t =>
      (describeColumns t).batch.filterMap Statement.addedDefault?) = [] := by
    refine List.flatMap_eq_nil_iff.mpr fun t _ => List.filterMap_eq_nil_iff.mpr fun s hs => ?_
    obtain ⟨c, _, hs⟩ := List.mem_filterMap.mp hs
    obtain ⟨_, _, rfl⟩ := Option.map_eq_some_iff.mp hs
    rfl
  have hends : (describeTables (keptTables k)).batch.filterMap Statement.addedDefault? = [] := by
    refine List.filterMap_eq_nil_iff.mpr fun s hs => ?_
    obtain ⟨t, _, hs⟩ := List.mem_filterMap.mp hs
    obtain ⟨_, _, rfl⟩ := Option.map_eq_some_iff.mp hs
    rfl
  simp only [statements_createTables, detailStatements, List.filterMap_append, htables, hends,
    List.filterMap_flatMap, hcolumns, List.nil_append, List.append_nil]
  rfl

/-- Only the script for tables adds defaults. -/
theorem filterMap_addedDefault?_of_ne {kind : ArtifactKind} (hkind : kind ≠ .createTables)
    (options : EmitOptions) (k : Catalog) :
    (scriptFor options k kind).script.statements.filterMap Statement.addedDefault? = [] := by
  refine List.filterMap_eq_nil_iff.mpr fun s hs => ?_
  cases s with
  | addDefault => exact absurd (Option.some.inj (purpose?_of_mem hs)).symm hkind
  | _ => rfl

/-- The defaults that the scripts of a catalog add are those of the columns of its kept tables. -/
theorem addedDefaults_emit (options : EmitOptions) (k : Catalog) :
    (k.emit options).addedDefaults =
      (keptTables k).flatMap fun t => t.columns.flatMap (defaultsOf t) := by
  cases hk : k.isEmpty with
  | true =>
    have htables : k.tables = [] := List.isEmpty_iff.mp hk
    simp [EmittedCatalog.addedDefaults, Catalog.emit, hk, keptTables, htables]
  | false =>
    rw [EmittedCatalog.addedDefaults, scripts_emit options hk, List.flatMap_map,
      List.filterMap_flatMap, ← filterMap_addedDefault?_createTables options k]
    simp [ArtifactKind.all, filterMap_addedDefault?_of_ne]
    rfl

/-! ## Pairs of defaults -/

/-- The constraints of two columns have the same name exactly when table and column are called alike
or one table goes on with what the column of the other begins with. -/
theorem defaultConstraint_eq_iff :
    defaultConstraint t c = defaultConstraint u d ↔ (t.name = u.name ∧ c.name = d.name) ∨
      AddedDefault.Overlaps ⟨tableName t, defaultConstraint t c, c.name⟩
          ⟨tableName u, defaultConstraint u d, d.name⟩ ∨
        AddedDefault.Overlaps ⟨tableName u, defaultConstraint u d, d.name⟩
          ⟨tableName t, defaultConstraint t c, c.name⟩ := by
  rw [defaultConstraint, defaultConstraint, String.append_assoc, String.append_assoc,
    String.append_assoc, String.append_assoc, String.append_right_inj, ← String.append_assoc,
    ← String.append_assoc, joined_eq_iff]
  rfl

/-- No default overlaps with another one of its table. -/
theorem not_overlaps_of_table_eq (h : p.table = q.table) : ¬ p.Overlaps q := by
  rintro ⟨rest, htable, _⟩
  exact ne_append_underscore p.table.name rest (h ▸ htable)

/-- Where no two tables and no two columns of a table are called alike, any two defaults of one schema
have constraints of different names, unless they are on different tables and one overlaps with the
other; then the names are the same. -/
theorem pairwise_constraint_eq_iff_overlaps (options : EmitOptions) {k : Catalog}
    (hids : k.tableIds.Nodup) (hcolumns : ∀ t ∈ k.tables, t.columnNames.Nodup) :
    (k.emit options).addedDefaults.Pairwise fun p q => p.table.schema = q.table.schema →
      (p.constraint = q.constraint ↔ p.table ≠ q.table ∧ (p.Overlaps q ∨ q.Overlaps p)) := by
  rw [addedDefaults_emit, List.pairwise_flatMap]
  constructor
  · intro t ht
    rw [List.pairwise_flatMap]
    refine ⟨fun c _ => pairwise_defaultsOf t c, ?_⟩
    have hnames : t.columnNames.Nodup := hcolumns t (mem_keptTables.mp ht).1
    refine (List.pairwise_map.mp hnames).imp fun {c d} hne p hp q hq _ => ?_
    obtain rfl := eq_of_mem_defaultsOf hp
    obtain rfl := eq_of_mem_defaultsOf hq
    simp [defaultConstraint_eq_iff, hne, not_overlaps_of_table_eq]
  · have hkept : ((keptTables k).map tableName).Nodup := hids.sublist (List.filter_sublist.map _)
    refine (List.pairwise_map.mp hkept).imp fun {t u} hne p hp q hq hschema => ?_
    obtain ⟨c, _, hp⟩ := List.mem_flatMap.mp hp
    obtain ⟨d, _, hq⟩ := List.mem_flatMap.mp hq
    obtain rfl := eq_of_mem_defaultsOf hp
    obtain rfl := eq_of_mem_defaultsOf hq
    have hname : t.name ≠ u.name := fun he =>
      hne (by rw [tableName, tableName, he, show t.schema = u.schema from hschema])
    simp [defaultConstraint_eq_iff, hne, hname]

/-- A column of integers with a default. -/
def defaultedColumn (name : String) : Column where
  name
  ordinal := 1
  sourceType := "integer"
  formattedType := "integer"
  isNullable := true
  arrayDims := 0
  maxCardinality := 0
  numericPrecision := none
  numericScale := none
  maxCharSize := none
  defaultExpr := some "0"
  comment := none

/-- A catalog with two tables of one schema, one of which goes on with what the column of the other
begins with. -/
def joinedCatalog : Catalog where
  schemas := ["s"]
  tables := [⟨"s", "a", [defaultedColumn "b_c", defaultedColumn "c"], none⟩,
    ⟨"s", "a_b", [defaultedColumn "c"], none⟩]

theorem pairwise_constraint_eq_iff_overlaps_joined :
    joinedCatalog.tableIds.Nodup ∧ (∀ t ∈ joinedCatalog.tables, t.columnNames.Nodup) ∧
      (joinedCatalog.emit {}).addedDefaults.Pairwise fun p q => p.table.schema = q.table.schema →
        (p.constraint = q.constraint ↔ p.table ≠ q.table ∧ (p.Overlaps q ∨ q.Overlaps p)) :=
  ⟨by decide, by decide, pairwise_constraint_eq_iff_overlaps {} (by decide) (by decide)⟩

/-- The default of the first table and that of the second get constraints of one name. -/
theorem not_namesDefaultsApart_joined :
    joinedCatalog.tableIds.Nodup ∧ (∀ t ∈ joinedCatalog.tables, t.columnNames.Nodup) ∧
      (joinedCatalog.emit {}).addedDefaults.map (·.constraint) = ["DF_a_b_c", "DF_a_c", "DF_a_b_c"] ∧
        ¬ (joinedCatalog.emit {}).NamesDefaultsApart := by
  refine ⟨by decide, by decide, by decide, by decide⟩

end Emission

end SchemaTransfer
