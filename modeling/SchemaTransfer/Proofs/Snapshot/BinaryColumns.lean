import SchemaTransfer.Proofs.Conversion.Recovery
import SchemaTransfer.Proofs.Flattening.Sampling
import SchemaTransfer.Proofs.Snapshot.Grouping
import SchemaTransfer.Proofs.Snapshot.Plans
import SchemaTransfer.Proofs.Snapshot.Replay

/-!
# The width of a binary column, from the snapshot to the script

The first finding for a column of single binary values goes through sampling, the record of all
findings, the size of the column and the type with its size. Main statement: a column that a row of
the snapshot describes is created with the length that was found when it is one of a fixed binary
type, and with no fixed length when it is any other number or nothing was found. Array columns do
not come into it: they do not change the definition, and add no other one of the same name unless
flattening makes one.
-/

namespace SchemaTransfer

/-- The type of the target for binary values of which the longest was found to have some length. -/
def binaryType : Option Int64 → String
  | some n => if 1 ≤ n.toInt ∧ n.toInt ≤ 8000 then "binary(" ++ toString n.toInt ++ ")"
    else "varbinary(max)"
  | none => "varbinary(max)"

/-! ## Rows and findings -/

/-- The first rows of their names are those that are found by their names. -/
theorem Build.mem_firstOfName_iff {taken : List String} {rows : List ColumnRow} {r : ColumnRow} :
    r ∈ firstOfName taken rows ↔
      r.column ∉ taken ∧ rows.find? (fun q => q.column = r.column) = some r := by
  induction rows generalizing taken with
  | nil => simp [firstOfName]
  | cons q rows ih =>
    rw [List.find?_cons, firstOfName]
    by_cases hname : q.column = r.column
    · rw [decide_eq_true hname]
      split
      · rename_i htaken
        rw [ih, ← hname]
        exact iff_of_false (fun h => h.1 htaken) fun h => h.1 htaken
      · rename_i htaken
        rw [List.mem_cons, ih, Option.some.injEq, ← hname]
        simp [htaken, eq_comm]
    · rw [decide_eq_false hname]
      have hne : r ≠ q := fun he => hname (by rw [he])
      split
      · exact ih
      · rw [List.mem_cons, ih]
        simp [hne, Ne.symm hname]

/-- Of the findings for a column the last one counts. -/
theorem Cardinalities.ofList_eq (findings : List (ColumnRef × Int64)) (place : ColumnRef) :
    ofList findings place = (findings.reverse.find? fun f => f.1 = place).map (·.2) := by
  rw [ofList, ← List.foldr_reverse]
  induction findings.reverse with
  | nil => rfl
  | cons f rest ih =>
    rw [List.foldr_cons, List.find?_cons]
    by_cases hplace : f.1 = place
    · rw [← hplace, record_self, decide_eq_true rfl]
      rfl
    · rw [record_of_ne _ (Ne.symm hplace), ih, decide_eq_false hplace]

namespace Snapshot

/-- Whether a row is the first one for its column among those that are read. -/
def IsFirst (s : Snapshot) (excluded : List String) (r : ColumnRow) : Prop :=
  (s.rows excluded).columns.find? (fun q => q.ref = r.ref) = some r

instance (s : Snapshot) (excluded : List String) (r : ColumnRow) :
    Decidable (s.IsFirst excluded r) :=
  inferInstanceAs (Decidable (_ = _))

variable {s : Snapshot} {excluded : List String} {settings : Settings} {r : ColumnRow} {t : Table}

/-- A run finds for a column that is sampled what the snapshot says. -/
theorem found_gathered (hr : r ∈ (s.rows excluded).columns) (hsampled : r.needsSampling = true) :
    (s.gathered excluded).found r.ref = s.finding? r.ref := by
  simp only [gathered, Cardinalities.ofList_eq]
  rw [← List.map_reverse, List.find?_map, Option.map_map]
  cases hlast : (s.findings (s.rows excluded).columns).reverse.find?
      ((fun f => decide (f.1 = r.ref)) ∘ fun q => (q.ref, q.maxCardinality)) with
  | some q =>
    have hq : q.ref = r.ref := by simpa using List.find?_some hlast
    have hmem := List.mem_reverse.mp (List.mem_of_find?_eq_some hlast)
    rw [← hq, finding?_of_mem_findings hmem]
    rfl
  | none =>
    cases hn : s.finding? r.ref with
    | none => rfl
    | some n =>
      have hmem := List.mem_reverse.mpr (mem_findings hr hsampled hn)
      exact absurd (decide_eq_true rfl) (List.find?_eq_none.mp hlast _ hmem)

/-- A table of a snapshot has a column for each first row of its columns. -/
theorem columns_of_mem_build {ending : String}
    (ht : t ∈ (Catalog.build (s.rows excluded) ending).catalog.tables) :
    t.columns = (Build.firstOfName [] ((s.rows excluded).columns.filter fun q =>
      Build.tableKey q = [t.schema, t.name])).map .ofRow := by
  obtain ⟨groups, hgroups, hgrouping⟩ := exists_isGrouping Build.tableKey (compareOn (·.ordinal))
    (s.columns.filter fun r => isIncluded excluded r.schema)
  have hrows : (s.rows excluded).columns = groups.flatMap Prod.snd := by
    rw [← hgroups, ← compareColumns_eq]
    rfl
  have hkey (g) (hg : g ∈ groups) (q) (hq : q ∈ g.2) : Build.tableKey q = g.1 :=
    hgrouping.key_eq hg hq
  have htables := (Build.TableStream.ofRows_flatMap hkey (fun _ => hgrouping.ne_nil)
    hgrouping.pairwise_ne).1
  have hentry : Build.tableEntry t ∈ groups.map fun g =>
      (g.1, (Build.firstOfName [] g.2).map Column.ofRow) := by
    rw [← htables, ← hrows, ← Catalog.map_tableEntry_build _ ending]
    exact List.mem_map_of_mem ht
  obtain ⟨g, hg, heq⟩ := List.mem_map.mp hentry
  obtain ⟨hnames, hcolumns⟩ := Prod.mk.inj heq
  rw [← hcolumns, hrows, ← hnames, filter_flatMap_eq hkey hgrouping.pairwise_ne hg]

/-- The columns of a table of a snapshot are those of the first rows that name the table. -/
theorem mem_columns_build_iff {ending : String} {c : Column}
    (ht : t ∈ (Catalog.build (s.rows excluded) ending).catalog.tables) :
    c ∈ t.columns ↔ ∃ q, s.IsFirst excluded q ∧ q.schema = t.schema ∧ q.table = t.name ∧
      .ofRow q = c := by
  have hfirst (q : ColumnRow) : q ∈ Build.firstOfName [] ((s.rows excluded).columns.filter fun a =>
      Build.tableKey a = [t.schema, t.name]) ↔
        s.IsFirst excluded q ∧ q.schema = t.schema ∧ q.table = t.name := by
    have hsame (hschema : q.schema = t.schema) (htable : q.table = t.name) :
        (fun a : ColumnRow => decide (decide (Build.tableKey a = [t.schema, t.name]) = true ∧
          decide (a.column = q.column) = true)) = fun a => decide (a.ref = q.ref) := by
      funext a
      simp [Build.tableKey, ColumnRow.ref, ← hschema, ← htable, and_assoc]
    rw [Build.mem_firstOfName_iff, List.find?_filter, IsFirst]
    constructor
    · rintro ⟨-, h⟩
      have hq := List.find?_some h
      simp only [Build.tableKey, decide_eq_true_eq, List.cons.injEq, and_true] at hq
      rw [hsame hq.1 hq.2] at h
      exact ⟨h, hq⟩
    · rintro ⟨h, hschema, htable⟩
      rw [hsame hschema htable]
      exact ⟨List.not_mem_nil, h⟩
  rw [columns_of_mem_build ht, List.mem_map]
  simp only [hfirst, and_assoc]

/-! ## What is written -/

/-- What a script creates is a table of the snapshot, with its columns replaced and sized. -/
theorem exists_of_createTable_mem_plan {p : Plan} (hp : (s.reader excluded).plan settings = .ok p)
    {script : Script} (hs : script ∈ p.scripts) {name : ObjectName}
    {columns : List ColumnDefinition}
    (hc : .createTable name columns ∈ script.statements) :
    ∃ t ∈ (Catalog.build (s.rows excluded) settings.conversion.foreignKeySuffix).catalog.tables,
      Emission.tableName t = name ∧
      ∃ u, columns = (t.flattened (s.gathered excluded).found).columns.map fun c =>
        (Emission.columnDefinition (s.converted excluded settings) u
          (c.sizedBinary ((s.gathered excluded).found (t.ref c)))).1 := by
  rw [plan_reader_eq, Except.ok.injEq] at hp
  subst hp
  cases hempty : (s.converted excluded settings).isEmpty with
  | true =>
    rw [(ofGathered_of_isEmpty s excluded settings hempty).2] at hs
    cases hs
  | false =>
    rw [(ofGathered_of_not_isEmpty s excluded settings hempty).2.1,
      Emission.scripts_emit _ hempty] at hs
    obtain ⟨kind, _, rfl⟩ := List.mem_map.mp hs
    obtain ⟨u, hu, hstatement⟩ := Emission.exists_of_createTable_mem hc
    obtain ⟨v, hv, hsized⟩ := List.mem_map.mp (Emission.mem_keptTables.mp hu).1
    obtain ⟨t, ht, rfl⟩ := List.mem_map.mp hv
    obtain ⟨rfl, rfl⟩ := Statement.createTable.inj hstatement
    refine ⟨t, ht, ?_, u, ?_⟩
    · simp [Emission.tableName, ← hsized]
    · have hcolumns := (congrArg Table.columns hsized).symm
      simp only [Table.ref, Table.schema_flattened, Table.name_flattened] at hcolumns
      rw [hcolumns, List.map_map]
      rfl

end Snapshot

/-! ## Sizes -/

/-- A binary type has a fixed length where the size is one from 1 to 8000. -/
theorem TypeName.sized_binary_some (m : Int32) (precision scale : Option Int32) :
    sized "binary" (some m) precision scale =
      if 1 ≤ m.toInt ∧ m.toInt ≤ 8000 then "binary(" ++ toString m.toInt ++ ")"
      else "varbinary(max)" := by
  have hlength : (1 ≤ m ∧ m ≤ maxBinaryLength) ↔ 1 ≤ m.toInt ∧ m.toInt ≤ 8000 :=
    and_congr Int32.le_iff_toInt_le Int32.le_iff_toInt_le
  rw [sized, if_pos rfl, Option.filter_some]
  by_cases h : 1 ≤ m.toInt ∧ m.toInt ≤ 8000
  · rw [if_pos h, if_pos (decide_eq_true (hlength.mpr h))]
    rfl
  · rw [if_neg h, if_neg (by simpa [hlength] using h)]

/-- A binary column without a size of its own gets the type for what was found. -/
theorem TypeName.sized_binary {c : Column} (hbinary : c.isBinary = true)
    (hsize : c.maxCharSize = none) (found : Option Int64) (precision scale : Option Int32) :
    sized "binary" (c.sizedBinary found).maxCharSize precision scale = binaryType found := by
  have hnone : sized "binary" none precision scale = "varbinary(max)" := rfl
  cases found with
  | none => simp [Column.sizedBinary, Column.sampledLength?, hbinary, hsize, hnone, binaryType]
  | some n =>
    by_cases hn : 0 < n
    · have hpositive : 0 < n.toInt := Int64.lt_iff_toInt_lt.mp hn
      have hsampled : c.sampledLength? (some n) = some n := by
        simp [Column.sampledLength?, hbinary, Option.filter, hn]
      have hmax : (c.sizedBinary (some n)).maxCharSize = Column.lengthOf32Bits? n := by
        simp only [Column.sizedBinary, hsampled]
      rw [hmax, Column.lengthOf32Bits?, binaryType]
      by_cases hfits : n.toInt ≤ 2147483647
      · have hsame : (Int32.ofInt n.toInt).toInt = n.toInt :=
          Int32.toInt_ofInt_of_le (by omega) (by omega)
        rw [if_pos hfits, sized_binary_some, hsame]
      · rw [if_neg hfits, hnone, if_neg (by omega)]
    · have hsmall : ¬ (1 ≤ n.toInt ∧ n.toInt ≤ 8000) := by
        have hle : n.toInt ≤ 0 := Int64.le_iff_toInt_le.mp (Int64.not_lt.mp hn)
        omega
      have hsampled : c.sampledLength? (some n) = none := by
        simp [Column.sampledLength?, Option.filter, hn]
      have hmax : (c.sizedBinary (some n)).maxCharSize = none := by
        simp only [Column.sizedBinary, hsampled, hsize]
      rw [hmax, hnone, binaryType, if_neg hsmall]

/-- A column of binary values is created as one where no domain is called like the type. -/
theorem Emission.columnDefinition_of_bytea {k : Catalog} {t : Table} {c : Column}
    (hdomain : ∀ u ∈ k.userTypes, u.name ≠ "bytea") (htype : c.sourceType = "bytea") :
    (columnDefinition k t c).1 = ⟨c.name,
      TypeName.sized "binary" c.maxCharSize c.numericPrecision c.numericScale, c.isNullable⟩ := by
  have helement : c.elementType = "bytea" := by
    rw [Column.elementType, htype]
    decide
  have hsplit : Identifier.split "bytea" = ["bytea"] := by decide
  have htarget : (TypeMapping.ofName "bytea").target = "binary" := by decide
  have hnone : domain? k.userTypes t.schema "bytea" = none := by
    have hown : k.userTypes.find? (fun u => u.schema == t.schema && u.name == "bytea") = none :=
      List.find?_eq_none.mpr fun u hu => by simp [hdomain u hu]
    have hany : k.userTypes.filter (fun u => u.name == "bytea") = [] :=
      List.filter_eq_nil_iff.mpr fun u hu => by simp [hdomain u hu]
    simp only [domain?, hsplit, hown, hany, single?]
  simp only [columnDefinition, helement, hnone, htarget]

/-- Sizing changes the size alone. -/
theorem Column.sizedBinary_eq (c : Column) (found : Option Int64) :
    c.sizedBinary found = { c with maxCharSize := (c.sizedBinary found).maxCharSize } := by
  unfold sizedBinary
  split <;> rfl

/-- A sized column of binary values is created with the length that was found. -/
theorem Emission.columnDefinition_sizedBinary {k : Catalog} {t : Table} {c : Column}
    (hdomain : ∀ u ∈ k.userTypes, u.name ≠ "bytea") (htype : c.sourceType = "bytea")
    (hscalar : c.isArray = false) (hsize : c.maxCharSize = none) (found : Option Int64) :
    (columnDefinition k t (c.sizedBinary found)).1 = ⟨c.name, binaryType found, c.isNullable⟩ := by
  have hbinary : c.isBinary = true := by
    rw [Column.isBinary, hscalar, htype]
    decide
  have htype' : (c.sizedBinary found).sourceType = "bytea" := by rw [c.sizedBinary_eq, htype]
  have hnullable : (c.sizedBinary found).isNullable = c.isNullable := by rw [c.sizedBinary_eq]
  rw [columnDefinition_of_bytea hdomain htype', TypeName.sized_binary hbinary hsize,
    Column.name_sizedBinary, hnullable]

/-- Of the columns of a flattened table those have a name that replace the only column whose
replacements have it. -/
theorem Table.count_columnNames_flattened {t : Table} {found : Cardinalities} {c : Column}
    {before after : List Column} (ht : t.columns = before ++ c :: after) {name : String}
    (hother : ∀ d ∈ before ++ after, name ∉ (d.flattened (found (t.ref d))).map (·.name)) :
    (t.flattened found).columnNames.count name =
      ((c.flattened (found (t.ref c))).map (·.name)).count name := by
  have hnames : (t.flattened found).columnNames =
      t.columns.flatMap fun d => (d.flattened (found (t.ref d))).map (·.name) := by
    simp only [columnNames_flattened, Column.names_flattened]
  have hzero {ds : List Column} (hds : ∀ d ∈ ds, d ∈ before ++ after) :
      (ds.flatMap fun d => (d.flattened (found (t.ref d))).map (·.name)).count name = 0 := by
    refine List.count_eq_zero.mpr fun h => ?_
    obtain ⟨d, hd, hname⟩ := List.mem_flatMap.mp h
    exact hother d (hds d hd) hname
  rw [hnames, ht, List.flatMap_append, List.flatMap_cons, List.count_append, List.count_append,
    hzero fun d hd => List.mem_append_left _ hd, hzero fun d hd => List.mem_append_right _ hd,
    Nat.zero_add, Nat.add_zero]

namespace Snapshot

variable {s : Snapshot} {excluded : List String} {settings : Settings} {r : ColumnRow} {t : Table}

/-- What is found for a sampled column of a table is what the snapshot says of its row. -/
theorem found_ref (hr : s.IsFirst excluded r) (hsampled : r.needsSampling = true)
    (hschema : r.schema = t.schema) (htable : r.table = t.name) :
    (s.gathered excluded).found (t.ref (.ofRow r)) = s.finding? r.ref := by
  rw [← found_gathered (List.mem_of_find?_eq_some hr) hsampled, Table.ref, ← hschema, ← htable]
  rfl

/-- Where no array column of the table gets the name of another column, flattening keeps one column
of the name. -/
theorem count_columnNames_flattened {ending : String}
    (ht : t ∈ (Catalog.build (s.rows excluded) ending).catalog.tables)
    (hr : s.IsFirst excluded r) (hschema : r.schema = t.schema) (htable : r.table = t.name)
    (hscalar : r.isArray = false)
    (hapart : ∀ q, s.IsFirst excluded q → q.schema = r.schema → q.table = r.table →
      q.isArray = true →
      r.column ∉ ((Column.ofRow q).flattened (s.finding? q.ref)).map (·.name)) :
    (t.flattened (s.gathered excluded).found).columnNames.count r.column = 1 := by
  have hcolumn : Column.ofRow r ∈ t.columns :=
    (mem_columns_build_iff ht).mpr ⟨r, hr, hschema, htable, rfl⟩
  obtain ⟨before, after, hsplit⟩ := List.append_of_mem hcolumn
  have hnames := Catalog.nodup_columnNames_build (s.rows excluded) ending t ht
  rw [Table.columnNames, hsplit, List.map_append, List.map_cons, List.nodup_middle,
    ← List.map_append, List.nodup_cons] at hnames
  rw [Table.count_columnNames_flattened hsplit, Column.flattened_of_not_isArray (by simpa)]
  · simp [Column.ofRow]
  · intro d hd
    have hdt : d ∈ t.columns := by
      rw [hsplit]
      exact List.perm_middle.mem_iff.mpr (List.mem_cons_of_mem _ hd)
    obtain ⟨q, hq, hqschema, hqtable, rfl⟩ := (mem_columns_build_iff ht).mp hdt
    cases harray : q.isArray with
    | true =>
      have hsampled : q.needsSampling = true := by simp [ColumnRow.needsSampling, harray]
      rw [found_ref hq hsampled hqschema hqtable]
      exact hapart q hq (hqschema.trans hschema.symm) (hqtable.trans htable.symm) harray
    | false =>
      rw [Column.flattened_of_not_isArray (by simpa)]
      intro hname
      rw [List.map_singleton, List.mem_singleton] at hname
      exact hnames.1 (List.mem_map.mpr ⟨_, hd, hname.symm⟩)

/-- A catalog has no domain of a name that no domain of the snapshot has. -/
theorem name_ne_of_mem_converted {name : String} (hdomain : ∀ u ∈ s.userTypes, u.name ≠ name) :
    ∀ v ∈ (s.converted excluded settings).userTypes, v.name ≠ name := by
  intro v hv
  obtain ⟨row, hrow, rfl⟩ := List.mem_map.mp
    (show v ∈ (s.rows excluded).userTypes.map UserType.ofRow from hv)
  exact hdomain row ((mem_selected excluded).mp hrow).1

/-- Flattening and sizing a table, a column of single binary values is defined with the length that
was found. -/
theorem mem_definitions_of_bytea {k : Catalog} {u : Table} {ending : String}
    (ht : t ∈ (Catalog.build (s.rows excluded) ending).catalog.tables)
    (hr : s.IsFirst excluded r) (hschema : r.schema = t.schema) (htable : r.table = t.name)
    (hdomain : ∀ v ∈ k.userTypes, v.name ≠ "bytea") (htype : r.regtype = "bytea")
    (hscalar : r.isArray = false) (hsize : r.maxCharSize = none) :
    ⟨r.column, binaryType (s.finding? r.ref), r.isNullable⟩ ∈
      (t.flattened (s.gathered excluded).found).columns.map fun c =>
        (Emission.columnDefinition k u
          (c.sizedBinary ((s.gathered excluded).found (t.ref c)))).1 := by
  have hsampled : r.needsSampling = true := by
    rw [ColumnRow.needsSampling, ColumnRow.isBinary, hscalar, htype]
    decide
  have hcolumnScalar : (Column.ofRow r).isArray = false := by rwa [Column.isArray_ofRow]
  have hcolumn : Column.ofRow r ∈ t.columns :=
    (mem_columns_build_iff ht).mpr ⟨r, hr, hschema, htable, rfl⟩
  have hself : Column.ofRow r ∈ (Column.ofRow r).flattened
      ((s.gathered excluded).found (t.ref (.ofRow r))) := by
    rw [Column.flattened_of_not_isArray hcolumnScalar]
    exact List.mem_singleton_self _
  obtain ⟨i, hi⟩ := Table.exists_mem_flattened hcolumn hself
  refine List.mem_map.mpr ⟨_, hi, ?_⟩
  have hplace : t.ref { Column.ofRow r with ordinal := i } = t.ref (.ofRow r) := rfl
  have hdefinition := Emission.columnDefinition_sizedBinary (t := u) hdomain
    (c := { Column.ofRow r with ordinal := i }) htype hcolumnScalar hsize (s.finding? r.ref)
  rw [hplace, found_ref hr hsampled hschema htable, hdefinition]
  rfl

/-- The only definition of its name is all that there is of the name. -/
theorem filter_name_eq_singleton {columns : List ColumnDefinition} {d : ColumnDefinition}
    (hd : d ∈ columns) (hcount : (columns.map (·.name)).count d.name = 1) :
    columns.filter (·.name = d.name) = [d] := by
  have hlength : (columns.filter (·.name = d.name)).length = 1 := by
    rw [← hcount, List.count, List.countP_map, List.countP_eq_length_filter]
    rfl
  obtain ⟨e, he⟩ := List.length_eq_one_iff.mp hlength
  have hmem : d ∈ columns.filter (·.name = d.name) := List.mem_filter.mpr ⟨hd, by simp⟩
  rw [he, List.mem_singleton] at hmem
  rw [he, hmem]

/-- A column of single binary values is created with the length that was found, and where flattening
makes no column of its name it is the only one. -/
theorem mem_columns_of_bytea (hdomain : ∀ u ∈ s.userTypes, u.name ≠ "bytea")
    (hr : s.IsFirst excluded r) (htype : r.regtype = "bytea") (hdims : r.arrayDims = 0)
    (hsize : r.maxCharSize = none) {p : Plan} (hp : (s.reader excluded).plan settings = .ok p)
    {script : Script} (hs : script ∈ p.scripts) {columns : List ColumnDefinition}
    (hc : .createTable ⟨r.schema, r.table⟩ columns ∈ script.statements) :
    ⟨r.column, binaryType (s.finding? r.ref), r.isNullable⟩ ∈ columns ∧
      ((∀ q, s.IsFirst excluded q → q.schema = r.schema → q.table = r.table → q.isArray = true →
          r.column ∉ ((Column.ofRow q).flattened (s.finding? q.ref)).map (·.name)) →
        columns.filter (·.name = r.column) =
          [⟨r.column, binaryType (s.finding? r.ref), r.isNullable⟩]) := by
  obtain ⟨t, ht, hname, u, rfl⟩ := exists_of_createTable_mem_plan hp hs hc
  obtain ⟨hschema, htable⟩ : t.schema = r.schema ∧ t.name = r.table := ObjectName.mk.inj hname
  have hscalar : r.isArray = false := by
    rw [ColumnRow.isArray, hdims, htype]
    decide
  have htypes : ∀ v ∈ (s.converted excluded settings).userTypes, v.name ≠ "bytea" :=
    name_ne_of_mem_converted hdomain
  have hmem := mem_definitions_of_bytea (u := u) ht hr hschema.symm htable.symm htypes htype hscalar
    hsize
  refine ⟨hmem, fun hapart => filter_name_eq_singleton hmem ?_⟩
  rw [← count_columnNames_flattened ht hr hschema.symm htable.symm hscalar hapart]
  simp [Table.columnNames, Function.comp_def]

/-- A column of binary values. -/
def digestRow : ColumnRow :=
  { schema := "s", table := "t", column := "digest", ordinal := 1, regtype := "bytea"
    isNullable := true }

/-- A table with a column of binary values for which two lengths are noted. -/
def digests : Snapshot where
  columns := [digestRow]
  cardinalities := [⟨"s", "t", "digest", 32⟩, ⟨"s", "t", "digest", 64⟩]

/-- The column is created with the first length. -/
theorem mem_columns_of_bytea_digests :
    ∃ p, (digests.reader []).plan plainSettings = .ok p ∧ ∃ script ∈ p.scripts,
      ∃ columns, .createTable ⟨"s", "t"⟩ columns ∈ script.statements ∧
        columns.filter (·.name = "digest") = [⟨"digest", "binary(32)", true⟩] := by
  have hp := plan_reader_eq digests [] plainSettings
  have hfirst : digests.IsFirst [] digestRow := by decide +kernel
  have hstatement : ∃ script ∈ (Plan.ofGathered plainSettings digests.title
      (digests.gathered [])).scripts, .createTable ⟨"s", "t"⟩ [⟨"digest", "binary(32)", true⟩] ∈
        script.statements := by decide +kernel
  obtain ⟨script, hs, hc⟩ := hstatement
  refine ⟨_, hp, script, hs, _, hc, ?_⟩
  refine (mem_columns_of_bytea (by decide) hfirst rfl rfl rfl hp hs hc).2 fun q hq _ _ harray => ?_
  have hrow : q ∈ [digestRow] :=
    ((mem_selected []).mp (List.mem_of_find?_eq_some hq)).1
  rw [List.mem_singleton.mp hrow] at harray
  exact absurd harray (by decide)

end Snapshot

end SchemaTransfer
