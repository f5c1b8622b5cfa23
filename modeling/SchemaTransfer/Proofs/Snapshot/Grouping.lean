import SchemaTransfer.Proofs.Build.IndexRuns
import SchemaTransfer.Proofs.Build.TableRuns
import SchemaTransfer.Proofs.Snapshot.Answers
import SchemaTransfer.Proofs.Snapshot.Groups

/-!
# The catalog of a snapshot groups its rows

A snapshot holds its rows in any order and with any repetitions. The reader puts the included ones
in order, and the catalog is built by comparing each row with the one before. Main statement: what is
built is what grouping all included rows by table, or by index, calls for.
-/

namespace SchemaTransfer

namespace Snapshot

open Build

/-- Columns are ordered by their table, then by their ordinal. -/
theorem compareColumns_eq :
    compareColumns = compareLex (compareOn tableKey) (compareOn (·.ordinal)) := by
  funext a b
  simp [compareColumns, compareLex, compareOn, tableKey, List.compare_cons_cons,
    Ordering.then_assoc, Std.ReflCmp.compare_self]

/-- Index keys are ordered by their index, then by their position. -/
theorem compareIndexes_eq :
    compareIndexes = compareLex (compareOn indexKey) (compareOn (·.columnPosition)) := by
  funext a b
  simp [compareIndexes, compareLex, compareOn, indexKey, List.compare_cons_cons,
    Ordering.then_assoc, Std.ReflCmp.compare_self]

/-- Gathering the rows of a snapshot never fails, and gives the included ones in order. -/
theorem gather_reader (s : Snapshot) (excluded : List String) (limit : Int64) :
    ∃ g, (s.reader excluded).gather limit = .ok g ∧
      g.rows.columns = selected excluded (·.schema) compareColumns s.columns ∧
      g.rows.indexes = selected excluded (·.schema) compareIndexes s.indexes :=
  ⟨_, gather_reader_eq s excluded limit, rfl, rfl⟩

end Snapshot

namespace Build

/-- The reports of the stream of foreign keys are on foreign keys. -/
theorem ForeignKeyStream.kind_of_mem_diagnostics {ending : String} {rows : List ForeignKeyRow}
    {d : Diagnostic} (hd : d ∈ (ofRows ending rows).diagnostics) : d.kind = .invalidForeignKey := by
  refine List.foldlRecOn rows (accept ending)
    (motive := fun s => ∀ d ∈ s.diagnostics, d.kind = .invalidForeignKey)
    (by simp) (fun s hs r _ => ?_) d hd
  intro d hd
  unfold accept at hd
  split at hd
  · exact hs d hd
  · rcases List.mem_append.mp hd with hd | hd
    · exact hs d hd
    · rw [List.mem_singleton.mp hd]
      rfl

end Build

namespace Catalog

open Build

variable (rows : CatalogRows) (ending : String)

/-- The tables of the built catalog are those of the stream of column rows. -/
theorem map_tableEntry_build :
    (build rows ending).catalog.tables.map tableEntry =
      (TableStream.ofRows rows.columns).closed.map tableEntry :=
  map_tableEntry_comments rows.tableComments _

/-- The reports of the built catalog, by the streams that make them. -/
private theorem filter_diagnostics_build {p : Diagnostic → Bool}
    (hforeign : ∀ d, d.kind = .invalidForeignKey → p d = false) :
    (build rows ending).diagnostics.filter p =
      (TableStream.ofRows rows.columns).diagnostics.filter p ++
        (IndexStream.ofRows rows.indexes).diagnostics.filter p := by
  have hkeys : (ForeignKeyStream.ofRows ending rows.foreignKeys).diagnostics.filter p = [] :=
    List.filter_eq_nil_iff.mpr fun d hd => by
      simp [hforeign d (ForeignKeyStream.kind_of_mem_diagnostics hd)]
  have hdangling (fks : List ForeignKey) : (fks.map danglingReference).filter p = [] := by
    refine List.filter_eq_nil_iff.mpr fun d hd => ?_
    obtain ⟨fk, _, rfl⟩ := List.mem_map.mp hd
    simp [hforeign (danglingReference fk) rfl]
  simp only [build, List.filter_append, hkeys, hdangling, List.append_nil]

/-- The reports on repeated columns are those of the stream of column rows. -/
theorem filter_duplicateColumn_build :
    (build rows ending).diagnostics.filter (·.kind = .duplicateColumn) =
      (TableStream.ofRows rows.columns).diagnostics := by
  have hown : (TableStream.ofRows rows.columns).diagnostics.filter (·.kind = .duplicateColumn) =
      (TableStream.ofRows rows.columns).diagnostics :=
    List.filter_eq_self.mpr fun d hd => by simp [TableStream.kind_of_mem_diagnostics hd]
  have hother : (IndexStream.ofRows rows.indexes).diagnostics.filter
      (·.kind = .duplicateColumn) = [] := by
    refine List.filter_eq_nil_iff.mpr fun d hd => ?_
    rcases IndexStream.kind_of_mem_diagnostics hd with hkind | hkind <;> simp [hkind]
  rw [filter_diagnostics_build rows ending (by simp_all), hown, hother, List.append_nil]

/-- The reports on keys that are no columns are those of the stream of index rows. -/
theorem expressionObjects_build :
    IndexStream.expressionObjects (build rows ending).diagnostics =
      IndexStream.expressionObjects (IndexStream.ofRows rows.indexes).diagnostics := by
  have hother : (TableStream.ofRows rows.columns).diagnostics.filter
      (·.kind = .expressionIndex) = [] :=
    List.filter_eq_nil_iff.mpr fun d hd => by simp [TableStream.kind_of_mem_diagnostics hd]
  rw [IndexStream.expressionObjects, filter_diagnostics_build rows ending (by simp_all), hother,
    List.nil_append, IndexStream.expressionObjects]

/-- The indexes of the built catalog are those of the stream of index rows that have a table. -/
theorem map_indexEntry_build :
    (build rows ending).catalog.indexes.map indexEntry =
      ((IndexStream.ofRows rows.indexes).indexes.map indexEntry).filter fun x =>
        x.1.take 2 ∈ ((build rows ending).catalog.tables.map tableEntry).map Prod.fst := by
  have htable (x : Index) : (build rows ending).catalog.hasTable x.schema x.table =
      decide ((indexEntry x).1.take 2 ∈
        ((build rows ending).catalog.tables.map tableEntry).map Prod.fst) := by
    rw [Bool.eq_iff_iff, decide_eq_true_iff, hasTable_iff, List.map_map, List.mem_map]
    simp [indexEntry, tableEntry]
  rw [List.filter_map, Function.comp_def]
  exact congrArg _ (List.filter_congr fun x _ => htable x)

end Catalog

namespace Snapshot

open Build

/-- What is built of a snapshot is what grouping its included rows calls for. There is one table
for each schema and table among the column rows, in ascending order of the two names; its columns
are those of its rows in stable order of their ordinals, without the later rows of a name, and each
row without a column is reported. The index rows of one schema, table and name become one index,
with its keys in stable order of their positions, if all of them have a column and the table is
there, and no index otherwise. -/
theorem isGrouped_build (s : Snapshot) (excluded : List String) (limit : Int64)
    (ending : String) :
    ∃ g tables indexes, (s.reader excluded).gather limit = .ok g ∧
      IsGrouping tableKey (compareOn (·.ordinal))
        (s.columns.filter fun r => isIncluded excluded r.schema) tables ∧
      IsGrouping indexKey (compareOn (·.columnPosition))
        (s.indexes.filter fun r => isIncluded excluded r.schema) indexes ∧
      (Catalog.build g.rows ending).catalog.tables.map tableEntry =
        tables.map (fun t => (t.1, (firstOfName [] t.2).map .ofRow)) ∧
      (Catalog.build g.rows ending).diagnostics.filter (·.kind = .duplicateColumn) =
        tables.flatMap (fun t => (laterOfName [] t.2).map TableStream.duplicate) ∧
      (∀ t ∈ tables, (firstOfName [] t.2 ++ laterOfName [] t.2).Perm t.2) ∧
      (Catalog.build g.rows ending).catalog.indexes.map indexEntry =
        (indexes.filter fun x => hasColumns x.2 && x.1.take 2 ∈ tables.map Prod.fst).map
          (fun x => (x.1, x.2.filterMap keyColumn?)) ∧
      IndexStream.expressionObjects (Catalog.build g.rows ending).diagnostics =
        (indexes.filter fun x => !hasColumns x.2).map fun x => ".".intercalate x.1 := by
  obtain ⟨g, hgather, hcolumns, hindexes⟩ := gather_reader s excluded limit
  rw [selected, compareColumns_eq] at hcolumns
  rw [selected, compareIndexes_eq] at hindexes
  obtain ⟨tables, htables, htableGroups⟩ := exists_isGrouping tableKey (compareOn (·.ordinal))
    (s.columns.filter fun r => isIncluded excluded r.schema)
  obtain ⟨indexes, hindexRows, hindexGroups⟩ := exists_isGrouping indexKey
    (compareOn (·.columnPosition)) (s.indexes.filter fun r => isIncluded excluded r.schema)
  obtain ⟨hentries, hrepeated⟩ := TableStream.ofRows_flatMap (fun _ hg _ hr =>
    htableGroups.key_eq hg hr) (fun _ => htableGroups.ne_nil) htableGroups.pairwise_ne
  obtain ⟨hindexEntries, hexpressions⟩ := IndexStream.ofRows_flatMap (fun _ hg _ hr =>
    hindexGroups.key_eq hg hr) (fun _ => hindexGroups.ne_nil) hindexGroups.pairwise_ne
  rw [← htables, ← hcolumns] at hentries hrepeated
  rw [← hindexRows, ← hindexes] at hindexEntries hexpressions
  refine ⟨g, tables, indexes, hgather, htableGroups, hindexGroups, ?_, ?_,
    fun t _ => perm_firstOfName_laterOfName [] t.2, ?_, ?_⟩
  · rw [Catalog.map_tableEntry_build, hentries]
  · rw [Catalog.filter_duplicateColumn_build, hrepeated]
  · rw [Catalog.map_indexEntry_build, Catalog.map_tableEntry_build, hentries, hindexEntries,
      List.filter_map, List.filter_filter]
    simp only [Function.comp_def, List.map_map, Bool.and_comm]
  · rw [Catalog.expressionObjects_build, hexpressions]

end Snapshot

end SchemaTransfer
